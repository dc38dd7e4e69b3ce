/-!
# Parts of a text

What stands between the separators of a text.
-/

namespace CredentialWallet.Text

/-- The parts of a text between its separators. -/
def splitAt (separator : Char → Bool) : List Char → List (List Char)
  | [] => [[]]
  | c :: rest =>
    if separator c then [] :: splitAt separator rest
    else
      match splitAt separator rest with
      | part :: parts => (c :: part) :: parts
      | [] => [[c]]

/-- Texts are split like other lists. -/
theorem splitAt_eq_splitOnP (separator : Char → Bool) (cs : List Char) :
    splitAt separator cs = cs.splitOnP separator := by
  induction cs with
  | nil => rfl
  | cons c rest ih =>
    rw [splitAt, List.splitOnP_cons_eq_if_modifyHead, ih]
    split
    · rfl
    · obtain ⟨part, parts, found⟩ := List.exists_cons_of_ne_nil (List.splitOnP_ne_nil separator rest)
      rw [found]
      rfl

theorem splitAt_eq_splitOn (c : Char) (cs : List Char) : splitAt (· = c) cs = cs.splitOn c := by
  rw [splitAt_eq_splitOnP, List.splitOn_eq_splitOnP]
  congr

theorem splitAt_ne_nil (separator : Char → Bool) (cs : List Char) : splitAt separator cs ≠ [] := by
  rw [splitAt_eq_splitOnP]
  exact List.splitOnP_ne_nil separator cs

/-- A text without separators is one part. -/
theorem splitAt_eq_singleton {separator : Char → Bool} {cs : List Char}
    (h : ∀ c ∈ cs, separator c = false) : splitAt separator cs = [cs] := by
  rw [splitAt_eq_splitOnP, List.splitOnP_eq_singleton h]

/-- A separator parts what stands before it from what stands behind it. -/
theorem splitAt_append_cons {separator : Char → Bool} {c : Char} (h : separator c = true)
    (before behind : List Char) :
    splitAt separator (before ++ c :: behind) =
      splitAt separator before ++ splitAt separator behind := by
  simp only [splitAt_eq_splitOnP, List.splitOnP_append_cons before behind h]

/-- No part holds a separator. -/
theorem not_separator_of_mem_splitAt {separator : Char → Bool} {cs part : List Char}
    (h : part ∈ splitAt separator cs) : ∀ c ∈ part, separator c = false := by
  induction cs generalizing part with
  | nil => simp_all [splitAt]
  | cons c rest ih =>
    by_cases hc : separator c
    · simp only [splitAt, hc, if_true, List.mem_cons] at h
      rcases h with rfl | h
      · simp
      · exact ih h
    · obtain ⟨first, parts, found⟩ := List.exists_cons_of_ne_nil (splitAt_ne_nil separator rest)
      rw [splitAt, if_neg hc, found, List.mem_cons] at h
      rcases h with rfl | h
      · have := ih (by rw [found]; exact List.mem_cons_self)
        simp_all
      · exact ih (by rw [found]; exact List.mem_cons_of_mem _ h)

/-- What stands in a part stands in the text. -/
theorem mem_of_mem_splitAt {separator : Char → Bool} {cs part : List Char}
    (h : part ∈ splitAt separator cs) {c : Char} (hc : c ∈ part) : c ∈ cs := by
  induction cs generalizing part with
  | nil => simp_all [splitAt]
  | cons d rest ih =>
    by_cases hd : separator d
    · simp only [splitAt, hd, if_true, List.mem_cons] at h
      rcases h with rfl | h
      · cases hc
      · exact List.mem_cons_of_mem d (ih h hc)
    · obtain ⟨first, parts, found⟩ := List.exists_cons_of_ne_nil (splitAt_ne_nil separator rest)
      rw [splitAt, if_neg hd, found, List.mem_cons] at h
      rcases h with rfl | h
      · rcases List.mem_cons.1 hc with rfl | hc
        · exact List.mem_cons_self
        · exact List.mem_cons_of_mem d (ih (by rw [found]; exact List.mem_cons_self) hc)
      · exact List.mem_cons_of_mem d (ih (by rw [found]; exact List.mem_cons_of_mem _ h) hc)

end CredentialWallet.Text
