import CredentialWallet.Talk
import CredentialWallet.Wallet
/-!
# Deeds on a wallet

A deed talks to an agency and may change a wallet. It carries the wallet through failures as well, so
that what a failed deed leaves behind is there to be seen.
-/

namespace CredentialWallet

def Deed (ε α : Type) : Type := Link → Wallet → Journal → Except ε α × Wallet × Journal

namespace Deed

variable {ε ε' α β : Type}

instance : Monad (Deed ε) where
  pure a := fun _ w j => (.ok a, w, j)
  bind x f := fun link w j =>
    match x link w j with
    | (.ok a, w, j) => f a link w j
    | (.error e, w, j) => (.error e, w, j)

@[simp] theorem pure_apply (a : α) (link : Link) (w : Wallet) (j : Journal) :
    (pure a : Deed ε α) link w j = (.ok a, w, j) := rfl

theorem bind_of_ok {x : Deed ε α} {link : Link} {w v : Wallet} {j k : Journal} {a : α}
    (h : x link w j = (.ok a, v, k)) (f : α → Deed ε β) : (x >>= f) link w j = f a link v k := by
  simp only [bind, h]

/-- A failure ends a deed, and the wallet stays as it was left. -/
theorem bind_of_error {x : Deed ε α} {link : Link} {w v : Wallet} {j k : Journal} {e : ε}
    (h : x link w j = (.error e, v, k)) (f : α → Deed ε β) :
    (x >>= f) link w j = (.error e, v, k) := by
  simp only [bind, h]

instance : LawfulMonad (Deed ε) := LawfulMonad.mk' _
  (fun x => by
    funext link w j
    rcases h : x link w j with ⟨_ | a, v, k⟩
    · exact bind_of_error h _
    · exact bind_of_ok h _)
  (fun _ _ => rfl)
  (fun x f g => by
    funext link w j
    rcases h : x link w j with ⟨_ | a, v, k⟩
    · rw [bind_of_error (bind_of_error h f), bind_of_error h]
    · rw [bind_of_ok h]
      rcases hf : f a link v k with ⟨_ | b, u, l⟩
      · rw [bind_of_error hf, bind_of_error (by rw [bind_of_ok h, hf])]
      · rw [bind_of_ok hf, bind_of_ok (by rw [bind_of_ok h, hf])])

/-- The wallet as it stands. -/
def wallet : Deed ε Wallet := fun _ w j => (.ok w, w, j)

/-- Changes the wallet. -/
def change (f : Wallet → Wallet) : Deed ε Unit := fun _ w j => (.ok (), f w, j)

/-- A talk, which leaves the wallet alone. -/
def ofTalk (x : Talk ε α) : Deed ε α := fun link w j =>
  let r := x link j
  (r.1, w, r.2)

theorem ofTalk_pure (a : α) : (ofTalk (pure a) : Deed ε α) = pure a := rfl

/-- A talk that goes on is a deed that goes on. -/
theorem ofTalk_bind (x : Talk ε α) (f : α → Talk ε β) :
    (ofTalk (x >>= f) : Deed ε β) = ofTalk x >>= fun a => ofTalk (f a) := by
  funext link w j
  rcases h : x link j with ⟨_ | a, k⟩
  · simp only [ofTalk, bind, h]
  · simp only [ofTalk, bind, h]

/-- Nothing is different when the wallet is looked at again after a talk. -/
theorem wallet_after_ofTalk (x : Wallet → Talk ε α) (f : Wallet → α → Wallet → Deed ε β) :
    (wallet >>= fun w => ofTalk (x w) >>= fun a => wallet >>= fun v => f w a v) =
      wallet >>= fun w => ofTalk (x w) >>= fun a => f w a w := by
  funext link w j
  rcases h : x w link j with ⟨_ | a, k⟩
  · simp only [wallet, ofTalk, bind, h]
  · simp only [wallet, ofTalk, bind, h]

theorem wallet_bind_const (d : Deed ε α) : (wallet >>= fun _ => d) = d := rfl

/-- Two changes in a row are one. -/
theorem change_bind_change (f g : Wallet → Wallet) (d : Unit → Deed ε α) :
    (change f >>= fun _ => change g >>= d) = change (fun w => g (f w)) >>= d := rfl

theorem change_id_bind (d : Unit → Deed ε α) : (change id >>= d) = d () := rfl

/-- Looks at the wallet, asks, records what was found and gives an account of it. -/
def consult (ask : Wallet → Talk ε α) (record : α → Wallet → Wallet) (give : α → β) : Deed ε β := do
  let w ← wallet
  let found ← ofTalk (ask w)
  change (record found)
  return give found

theorem consult_apply (ask : Wallet → Talk ε α) (record : α → Wallet → Wallet) (give : α → β)
    (link : Link) (w : Wallet) (j : Journal) :
    consult ask record give link w j =
      match ask w link j with
      | (.ok found, k) => (.ok (give found), record found w, k)
      | (.error e, k) => (.error e, w, k) := by
  rcases h : ask w link j with ⟨_ | found, k⟩
  · simp only [consult, bind, wallet, ofTalk, h]
  · simp only [consult, bind, wallet, ofTalk, change, h, pure_apply]

def mapError (f : ε → ε') (x : Deed ε α) : Deed ε' α := fun link w j =>
  let r := x link w j
  (r.1.mapError f, r.2)

theorem mapError_apply {x : Deed ε α} {link : Link} {w v : Wallet} {j k : Journal}
    {result : Except ε α} (h : x link w j = (result, v, k)) (f : ε → ε') :
    x.mapError f link w j = (result.mapError f, v, k) := by
  rw [mapError, h]

/-- A deed done on a wallet of its own, as a talk. -/
def on (x : Deed ε α) (w : Wallet) : Talk ε α := fun link j =>
  let r := x link w j
  (r.1, r.2.2)

end Deed

end CredentialWallet
