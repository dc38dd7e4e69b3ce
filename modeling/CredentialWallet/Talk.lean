import CredentialWallet.Http.Message
import CredentialWallet.Http.Transport
import CredentialWallet.Token
/-!
# Talking to an agency

An agency answers each request in view of all it has been sent. A talk runs against a link to one and
yields a value or fails; either way the journal holds what took place, in order. A failure ends a talk
and takes nothing back from the journal.
-/

namespace CredentialWallet

/-- What a client asks a token endpoint for. -/
inductive Grant
  | password (username password : String)
  | refresh (token : String)
deriving DecidableEq

inductive Event
  /-- A request that the agency received. -/
  | request (request : Http.Request)
  /-- A grant asked of a token provider. -/
  | grant (client : Client) (grant : Grant)
deriving DecidableEq

/-- All that took place, the oldest first. -/
abbrev Journal := List Event

namespace Journal

def requests (j : Journal) : List Http.Request :=
  j.filterMap fun
    | .request r => some r
    | .grant .. => none

def grants (j : Journal) : List (Client × Grant) :=
  j.filterMap fun
    | .request _ => none
    | .grant client grant => some (client, grant)

@[simp] theorem requests_append (j k : Journal) : requests (j ++ k) = requests j ++ requests k :=
  List.filterMap_append

@[simp] theorem grants_append (j k : Journal) : grants (j ++ k) = grants j ++ grants k :=
  List.filterMap_append

end Journal

/-- The answer to the last of some requests, or none where the agency hangs up. -/
abbrev Agency := List Http.Request → Option Http.Answer

/-- The way to an agency, which may not be there. -/
inductive Link
  | down
  | up (agency : Agency)

def Talk (ε α : Type) : Type := Link → Journal → Except ε α × Journal

namespace Talk

variable {ε ε' α β : Type}

instance : Monad (Talk ε) where
  pure a := fun _ j => (.ok a, j)
  bind x f := fun link j =>
    match x link j with
    | (.ok a, j) => f a link j
    | (.error e, j) => (.error e, j)

@[simp] theorem pure_apply (a : α) (link : Link) (j : Journal) :
    (pure a : Talk ε α) link j = (.ok a, j) := rfl

theorem bind_of_ok {x : Talk ε α} {link : Link} {j k : Journal} {a : α} (h : x link j = (.ok a, k))
    (f : α → Talk ε β) : (x >>= f) link j = f a link k := by
  simp only [bind, h]

/-- A failure ends a talk, and what took place before it stays in the journal. -/
theorem bind_of_error {x : Talk ε α} {link : Link} {j k : Journal} {e : ε}
    (h : x link j = (.error e, k)) (f : α → Talk ε β) : (x >>= f) link j = (.error e, k) := by
  simp only [bind, h]

/-- A talk that succeeds got past its first step. -/
theorem bind_eq_ok {x : Talk ε α} {f : α → Talk ε β} {link : Link} {j k : Journal} {b : β}
    (h : (x >>= f) link j = (.ok b, k)) :
    ∃ a i, x link j = (.ok a, i) ∧ f a link i = (.ok b, k) := by
  rcases hx : x link j with ⟨e | a, i⟩
  · rw [bind_of_error hx] at h
    cases h
  · exact ⟨a, i, rfl, by rwa [bind_of_ok hx] at h⟩

instance : LawfulMonad (Talk ε) := LawfulMonad.mk' _
  (fun x => by
    funext link j
    rcases h : x link j with ⟨_ | a, k⟩
    · exact bind_of_error h _
    · exact bind_of_ok h _)
  (fun _ _ => rfl)
  (fun x f g => by
    funext link j
    rcases h : x link j with ⟨_ | a, k⟩
    · rw [bind_of_error (bind_of_error h f), bind_of_error h]
    · rw [bind_of_ok h]
      rcases hf : f a link k with ⟨_ | b, l⟩
      · rw [bind_of_error hf, bind_of_error (by rw [bind_of_ok h, hf])]
      · rw [bind_of_ok hf, bind_of_ok (by rw [bind_of_ok h, hf])])

def fail (e : ε) : Talk ε α := fun _ j => (.error e, j)

/-- A value or failure that takes no talking. -/
def ofExcept (x : Except ε α) : Talk ε α := fun _ j => (x, j)

theorem ofExcept_eq_ok {x : Except ε α} {link : Link} {j k : Journal} {a : α}
    (h : ofExcept x link j = (.ok a, k)) : x = .ok a ∧ k = j :=
  ⟨congrArg Prod.fst h, (congrArg Prod.snd h).symm⟩

def mapError (f : ε → ε') (x : Talk ε α) : Talk ε' α := fun link j =>
  let r := x link j
  (r.1.mapError f, r.2)

/-- Brings a request to the agency. Its answer, or that there is none, can be looked at later. -/
def deliver (r : Http.Request) : Talk Http.Transport (Except Http.Transport Http.Answer) :=
  fun link j =>
    match link with
    | .down => (.error (.unreachable r.url.text), j)
    | .up agency =>
      let j := j ++ [.request r]
      match agency j.requests with
      | some answer => (.ok (.ok answer), j)
      | none => (.ok (.error (.dropped r.url.text)), j)

/-- Sends a request and takes the answer. -/
def send (r : Http.Request) : Talk Http.Transport Http.Answer := do
  let answer ← deliver r
  ofExcept answer

/-- Makes a note of a grant, and gives all grants so far. -/
def note (client : Client) (grant : Grant) : Talk ε (List (Client × Grant)) := fun _ j =>
  let j := j ++ [.grant client grant]
  (.ok j.grants, j)

end Talk

end CredentialWallet
