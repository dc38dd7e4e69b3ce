import Mathlib.Logic.Function.Basic
/-!
# Results and failures

When a computation that may fail succeeds, and with what, by the steps it is made of. A list that is
read item by item is read if each item is, and what was written can be read back.
-/

namespace CredentialWallet

theorem toOption_mapError {ε ε' α : Type} (r : Except ε α) (f : ε → ε') :
    (r.mapError f).toOption = r.toOption := by
  cases r <;> rfl

theorem toOption_eq_some_iff {ε α : Type} {r : Except ε α} {a : α} :
    r.toOption = some a ↔ r = .ok a := by
  cases r <;> simp [Except.toOption]

theorem mapError_eq_ok_iff {ε ε' α : Type} {r : Except ε α} {f : ε → ε'} {a : α} :
    r.mapError f = .ok a ↔ r = .ok a := by
  cases r with
  | error e => exact ⟨nofun, nofun⟩
  | ok b =>
    constructor
    · intro h
      cases h
      rfl
    · intro h
      cases h
      rfl

theorem map_eq_ok_iff {ε α β : Type} {r : Except ε α} {f : α → β} {b : β} :
    r.map f = .ok b ↔ ∃ a, r = .ok a ∧ f a = b := by
  cases r <;> simp [Except.map]

theorem bind_eq_ok_iff {ε α β : Type} {r : Except ε α} {f : α → Except ε β} {b : β} :
    (r >>= f) = .ok b ↔ ∃ a, r = .ok a ∧ f a = .ok b := by
  cases r with
  | error e => simp [bind, Except.bind]
  | ok a => simp [bind, Except.bind]

/-! ### Item by item -/

theorem mapM_map_eq_pure {m : Type → Type} [Monad m] [LawfulMonad m] {α τ : Type} {read : α → m τ}
    {write : τ → α} {items : List τ} (h : ∀ item ∈ items, read (write item) = pure item) :
    (items.map write).mapM read = pure items := by
  induction items with
  | nil => rfl
  | cons item rest ih =>
    have hfirst := h item List.mem_cons_self
    have hrest := ih fun other hother => h other (List.mem_cons_of_mem item hother)
    simp only [List.map_cons, List.mapM_cons, hfirst, hrest, pure_bind]

theorem forall_mem_of_mapM_eq_some {α τ : Type} {read : α → Option τ} {xs : List α} {items : List τ}
    (h : xs.mapM read = some items) : ∀ item ∈ items, ∃ x ∈ xs, read x = some item := by
  induction xs generalizing items with
  | nil =>
    obtain rfl := Option.some.inj h
    simp
  | cons x rest ih =>
    simp only [List.mapM_cons, Option.bind_eq_bind, Option.bind_eq_some_iff] at h
    obtain ⟨first, hfirst, others, hothers, h⟩ := h
    obtain rfl := Option.some.inj h
    intro item hitem
    rcases List.mem_cons.1 hitem with rfl | hitem
    · exact ⟨x, List.mem_cons_self, hfirst⟩
    · obtain ⟨y, hy, hread⟩ := ih hothers item hitem
      exact ⟨y, List.mem_cons_of_mem x hy, hread⟩

theorem forall_mem_of_mapM_eq_ok {ε α τ : Type} {read : α → Except ε τ} {xs : List α} {items : List τ}
    (h : xs.mapM read = .ok items) : ∀ item ∈ items, ∃ x ∈ xs, read x = .ok item := by
  induction xs generalizing items with
  | nil =>
    cases h
    simp
  | cons x rest ih =>
    rw [List.mapM_cons] at h
    obtain ⟨first, hfirst, h⟩ := bind_eq_ok_iff.1 h
    obtain ⟨others, hothers, h⟩ := bind_eq_ok_iff.1 h
    cases h
    intro item hitem
    rcases List.mem_cons.1 hitem with rfl | hitem
    · exact ⟨x, List.mem_cons_self, hfirst⟩
    · obtain ⟨y, hy, hread⟩ := ih hothers item hitem
      exact ⟨y, List.mem_cons_of_mem x hy, hread⟩

theorem injective_of_read {α β : Type} {read : β → Option α} {write : α → β}
    (h : ∀ a, read (write a) = some a) : Function.Injective write := by
  intro a b hab
  have hread := h a
  rw [hab, h b] at hread
  exact (Option.some.inj hread).symm

end CredentialWallet
