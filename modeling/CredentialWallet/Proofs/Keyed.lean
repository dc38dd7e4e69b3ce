import Mathlib.Data.List.Nodup
import Mathlib.Logic.Function.Basic
import CredentialWallet.Wallet
/-!
# Lists of records as maps

A list whose records have ids of their own stands for a map from ids to records. Putting a record into
the place of the first one with its id, and removing the record with an id, stand for changes of that
map at one id, and they leave the other records in the order in which they were.
-/

namespace CredentialWallet

section

variable {τ : Type} (key : τ → String)

/-- The record with an id. -/
def lookup (xs : List τ) (id : String) : Option τ := xs.find? (key · = id)

/-- No two records have the same id. -/
def DistinctIds (xs : List τ) : Prop := (xs.map key).Nodup

instance (xs : List τ) : Decidable (DistinctIds key xs) :=
  inferInstanceAs (Decidable (xs.map key).Nodup)

/-! ### Putting -/

theorem lookup_putFirst (record : τ) (xs : List τ) :
    lookup key (putFirst (key · = key record) record xs) =
      Function.update (lookup key xs) (key record) (some record) := by
  funext id
  by_cases hid : id = key record
  · subst hid
    rw [Function.update_self]
    exact find?_putFirst (by simp) xs
  · rw [Function.update_of_ne hid, lookup, lookup]
    induction xs with
    | nil => simp [putFirst, Ne.symm hid]
    | cons x rest ih =>
      by_cases hx : key x = key record
      · have hother : key x ≠ id := fun h => hid (h.symm.trans hx)
        rw [putFirst_cons_of_pos (by simpa using hx)]
        simp [Ne.symm hid, hother]
      · rw [putFirst_cons_of_neg (by simpa using hx), List.find?_cons, List.find?_cons, ih]

theorem filter_putFirst (record : τ) (xs : List τ) :
    (putFirst (key · = key record) record xs).filter (key · ≠ key record) =
      xs.filter (key · ≠ key record) := by
  induction xs with
  | nil => simp [putFirst]
  | cons x rest ih =>
    by_cases hx : key x = key record
    · rw [putFirst_cons_of_pos (by simpa using hx)]
      simp [hx]
    · rw [putFirst_cons_of_neg (by simpa using hx), List.filter_cons, List.filter_cons, ih]

theorem map_putFirst (record : τ) (xs : List τ) :
    (putFirst (key · = key record) record xs).map key =
      if key record ∈ xs.map key then xs.map key else xs.map key ++ [key record] := by
  induction xs with
  | nil => simp [putFirst]
  | cons x rest ih =>
    by_cases hx : key x = key record
    · rw [putFirst_cons_of_pos (by simpa using hx)]
      simp [hx]
    · rw [putFirst_cons_of_neg (by simpa using hx), List.map_cons, List.map_cons, ih]
      simp only [List.mem_cons, Ne.symm hx, false_or]
      split <;> rfl

theorem DistinctIds.putFirst {xs : List τ} (h : DistinctIds key xs) (record : τ) :
    DistinctIds key (putFirst (key · = key record) record xs) := by
  rw [DistinctIds, map_putFirst]
  split
  · exact h
  · rename_i hnew
    refine List.nodup_append.2 ⟨h, List.pairwise_singleton _ _, ?_⟩
    rintro id hid _ hlast rfl
    exact hnew (List.mem_singleton.1 hlast ▸ hid)

/-! ### Removing -/

theorem lookup_filter_ne (id : String) (xs : List τ) :
    lookup key (xs.filter (key · ≠ id)) = Function.update (lookup key xs) id none := by
  funext other
  by_cases hother : other = id
  · subst hother
    rw [Function.update_self, lookup, List.find?_eq_none]
    intro x hx
    simpa using (List.mem_filter.1 hx).2
  · rw [Function.update_of_ne hother, lookup, lookup, List.find?_filter]
    congr 1
    funext x
    by_cases hx : key x = other <;> simp [hx, hother]

/-- Where no two records have the same id, removing the first one removes them all. -/
theorem DistinctIds.eraseP_eq_filter {xs : List τ} (h : DistinctIds key xs) (id : String) :
    xs.eraseP (key · = id) = xs.filter (key · ≠ id) := by
  induction xs with
  | nil => rfl
  | cons x rest ih =>
    obtain ⟨hfresh, hrest⟩ := List.nodup_cons.1 h
    by_cases hx : key x = id
    · have hothers : ∀ y ∈ rest, decide (key y ≠ id) = true := fun y hy =>
        decide_eq_true fun heq => hfresh (List.mem_map.2 ⟨y, hy, heq.trans hx.symm⟩)
      rw [List.eraseP_cons_of_pos (by simpa using hx), List.filter_cons_of_neg (by simpa using hx),
        List.filter_eq_self.2 hothers]
    · simp [hx, ih hrest]

theorem DistinctIds.filter {xs : List τ} (h : DistinctIds key xs) (p : τ → Bool) :
    DistinctIds key (xs.filter p) :=
  (List.filter_sublist.map key).nodup h

/-! ### Repeated ids

What puts and removes a record changes the first one with its id only, so whether others are left
depends on how often the id stands in the list.
-/

theorem filter_eq_putFirst (record : τ) (xs : List τ) :
    (putFirst (key · = key record) record xs).filter (key · = key record) =
      record :: (xs.filter (key · = key record)).tail := by
  induction xs with
  | nil => simp [putFirst]
  | cons x rest ih =>
    by_cases hx : key x = key record
    · rw [putFirst_cons_of_pos (by simpa using hx)]
      simp [hx]
    · rw [putFirst_cons_of_neg (by simpa using hx), List.filter_cons, List.filter_cons, ih]
      simp [hx]

theorem filter_eq_eraseP (id : String) (xs : List τ) :
    (xs.eraseP (key · = id)).filter (key · = id) = (xs.filter (key · = id)).tail := by
  induction xs with
  | nil => rfl
  | cons x rest ih =>
    by_cases hx : key x = id <;> simp [hx, ih]

theorem distinctIds_iff {xs : List τ} :
    DistinctIds key xs ↔ ∀ id, (xs.filter (key · = id)).tail = [] := by
  rw [DistinctIds, List.nodup_iff_count_le_one]
  refine forall_congr' fun id => ?_
  have hsame : xs.filter ((· == id) ∘ key) = xs.filter (key · = id) :=
    List.filter_congr fun x _ => beq_eq_decide (key x) id
  rw [List.count, List.countP_map, List.countP_eq_length_filter, hsame,
    ← List.length_eq_zero_iff, List.length_tail]
  omega

theorem forall_mem_putFirst_iff {record : τ} {xs : List τ} :
    (∀ x ∈ putFirst (key · = key record) record xs, key x = key record → x = record) ↔
      ∀ x ∈ (xs.filter (key · = key record)).tail, x = record := by
  have hmem : ∀ x, (x ∈ putFirst (key · = key record) record xs ∧ key x = key record) ↔
      x ∈ record :: (xs.filter (key · = key record)).tail := by
    intro x
    rw [← filter_eq_putFirst, List.mem_filter, decide_eq_true_iff]
  simp only [← and_imp, hmem, List.forall_mem_cons, true_and]

/-- Only where ids are distinct, putting a record leaves no other with its id, whichever is put. -/
theorem distinctIds_iff_putFirst (hother : ∀ x, ∃ y, key y = key x ∧ x ≠ y) {xs : List τ} :
    DistinctIds key xs ↔
      ∀ record, ∀ x ∈ putFirst (key · = key record) record xs, key x = key record → x = record := by
  simp only [distinctIds_iff, forall_mem_putFirst_iff]
  constructor
  · intro h record x hx
    rw [h] at hx
    cases hx
  · intro h id
    refine List.eq_nil_iff_forall_not_mem.2 fun x hx => ?_
    have hid : key x = id := of_decide_eq_true (List.mem_filter.1 (List.mem_of_mem_tail hx)).2
    obtain ⟨y, hy, hne⟩ := hother x
    exact hne (h y x (by rwa [hy, hid]))

/-- Only where ids are distinct, removing the first record with an id leaves none. -/
theorem distinctIds_iff_eraseP {xs : List τ} :
    DistinctIds key xs ↔ ∀ id, ∀ x ∈ xs.eraseP (key · = id), key x ≠ id := by
  rw [distinctIds_iff]
  refine forall_congr' fun id => ?_
  rw [← filter_eq_eraseP, List.filter_eq_nil_iff]
  simp only [decide_eq_true_eq, ne_eq]

/-! ### Effects -/

/-- What becomes of the records of one kind. -/
inductive Effect (τ : Type)
  | keep
  /-- An id gets a record, or has none from now on. -/
  | set (id : String) (record? : Option τ)
  | replace (records : List τ)

namespace Effect

/-- What becomes of the map that the records stand for. -/
def onMap : Effect τ → (String → Option τ) → String → Option τ
  | keep, m => m
  | set id record?, m => Function.update m id record?
  | replace records, _ => lookup key records

/-- Between two lists, nothing is different but what an effect is about. -/
def KeepsOthers : Effect τ → List τ → List τ → Prop
  | keep, xs, ys => ys = xs
  | set id _, xs, ys => ys.filter (key · ≠ id) = xs.filter (key · ≠ id)
  | replace records, _, ys => ys = records

/-- An effect brings no two records with the same id. -/
def BringsDistinctIds : Effect τ → Prop
  | replace records => DistinctIds key records
  | _ => True

/-- A list comes out of another one by an effect on the map that it stands for. -/
structure Makes (e : Effect τ) (xs ys : List τ) : Prop where
  lookup_eq : lookup key ys = e.onMap key (lookup key xs)
  keepsOthers : e.KeepsOthers key xs ys
  distinctIds : e.BringsDistinctIds key → DistinctIds key ys

variable {xs : List τ}

theorem makes_keep (h : DistinctIds key xs) : Makes key keep xs xs := ⟨rfl, rfl, fun _ => h⟩

theorem makes_replace (records : List τ) : Makes key (replace records) xs records :=
  ⟨rfl, rfl, fun h => h⟩

theorem makes_putFirst (h : DistinctIds key xs) (record : τ) :
    Makes key (set (key record) (some record)) xs (putFirst (key · = key record) record xs) :=
  ⟨lookup_putFirst key record xs, filter_putFirst key record xs, fun _ => h.putFirst key record⟩

theorem makes_filter (h : DistinctIds key xs) (id : String) :
    Makes key (set id none) xs (xs.filter (key · ≠ id)) :=
  ⟨lookup_filter_ne key id xs, by simp [KeepsOthers], fun _ => h.filter key _⟩

theorem makes_eraseP (h : DistinctIds key xs) (id : String) :
    Makes key (set id none) xs (xs.eraseP (key · = id)) := by
  rw [h.eraseP_eq_filter]
  exact makes_filter key h id

end Effect

end

end CredentialWallet
