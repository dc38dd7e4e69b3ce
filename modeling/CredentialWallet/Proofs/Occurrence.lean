import CredentialWallet.Json.Printer
import CredentialWallet.Proofs.Numerals
/-!
# What occurs in a compact text

A compact text is made of strings, numbers, literals and the signs between them. A name that can be no
part of a number or literal and holds no sign is found in such a text only within a string, and there
only as the string is written. The one escape that a letter of such a name can be part of is the one for
a carriage return: written, a return and what follows it reads like an `r` and what follows that.
-/

namespace CredentialWallet

/-! ### Parts of a list -/

section

variable {α : Type} {name : List α} {c : α}

theorem prefix_append_cons_iff (hc : c ∉ name) {before behind : List α} :
    name <+: before ++ c :: behind ↔ name <+: before := by
  induction before generalizing name with
  | nil =>
    cases name with
    | nil => simp
    | cons d rest =>
      have hne : d ≠ c := fun h => hc (h ▸ List.mem_cons_self)
      simp [hne]
  | cons d rest ih =>
    cases name with
    | nil => simp
    | cons e others =>
      have hothers : c ∉ others := fun h => hc (List.mem_cons_of_mem e h)
      rw [List.cons_append, List.cons_prefix_cons, List.cons_prefix_cons, ih hothers]

theorem infix_append_cons_iff (hc : c ∉ name) {before behind : List α} :
    name <:+: before ++ c :: behind ↔ name <:+: before ∨ name <:+: behind := by
  induction before with
  | nil =>
    rw [List.nil_append, List.infix_cons_iff, ← List.nil_append (c :: behind),
      prefix_append_cons_iff hc, List.prefix_nil, List.infix_nil]
  | cons d rest ih =>
    rw [List.cons_append, List.infix_cons_iff, List.infix_cons_iff, ih, ← List.cons_append,
      prefix_append_cons_iff hc, or_assoc]

theorem infix_cons_iff_of_notMem (hc : c ∉ name) {behind : List α} :
    name <:+: c :: behind ↔ name <:+: behind := by
  have h := @infix_append_cons_iff _ _ _ hc [] behind
  rw [List.nil_append, List.infix_nil] at h
  rw [h]
  exact or_iff_right_of_imp fun hnil => hnil ▸ List.nil_infix

theorem cons_infix_append_iff {before behind : List α} (hc : c ∉ before) :
    c :: name <:+: before ++ behind ↔ c :: name <:+: behind := by
  induction before with
  | nil => rfl
  | cons d rest ih =>
    obtain ⟨hne, hrest⟩ := not_or.1 (mt List.mem_cons.2 hc)
    rw [List.cons_append, List.infix_cons_iff, ih hrest, List.cons_prefix_cons]
    simp [hne]

theorem infix_of_map_some {part whole : List α} (h : part.map some <:+: whole.map some) :
    part <:+: whole := by
  obtain ⟨found, hfound, heq⟩ := List.infix_map_iff.1 h
  rwa [(List.map_inj_right fun _ _ => Option.some.inj).1 heq]

end

/-! ### Numbers -/

theorem tilde_notMem_toDigits (n : Nat) : '~' ∉ Nat.toDigits 10 n :=
  Url.Host.notMem_toDigits (by decide) (by decide) n rfl

theorem Decimal.Binary64.tilde_notMem_text (x : Binary64) : '~' ∉ x.text := by
  have hzeros (n : Nat) : '~' ∉ List.replicate n '0' := by simp
  have hfront (m n : Nat) : '~' ∉ (Nat.toDigits 10 m).take n := fun h =>
    tilde_notMem_toDigits m (List.mem_of_mem_take h)
  have hback (m n : Nat) : '~' ∉ (Nat.toDigits 10 m).drop n := fun h =>
    tilde_notMem_toDigits m (List.mem_of_mem_drop h)
  rw [text]
  dsimp only
  split
  · split <;> simp
  · rw [List.mem_append, not_or]
    refine ⟨by split <;> simp, ?_⟩
    split
    · have hmantissa := tilde_notMem_toDigits (trimZeros 20 x.shortest.1).1
      simp only [List.mem_append, not_or]
      refine ⟨⟨?_, ?_⟩, tilde_notMem_toDigits _⟩
      · split <;> simp_all
      · split <;> simp
    · split
      · simp [tilde_notMem_toDigits]
      · split
        · simp [hfront, hback]
        · simp [tilde_notMem_toDigits]

theorem Number.tilde_notMem_text (n : Number) : '~' ∉ n.text := by
  cases n with
  | int i =>
    rw [Number.text, Json.integerText]
    split
    · simp [tilde_notMem_toDigits]
    · exact tilde_notMem_toDigits _
  | float x => exact x.tilde_notMem_text

namespace Json

/-! ### Strings -/

/-- A character that is written as it is. -/
def IsPlain (c : Char) : Prop := c ≠ '"' ∧ c ≠ '\\' ∧ 32 ≤ c.toNat

/-- A character is written as it is, or as an escape. The return is the only one whose escape has an
`r`. -/
theorem escape_cases (c : Char) :
    (IsPlain c ∧ escape c = [c]) ∨ (c = '\r' ∧ escape c = ['\\', 'r']) ∨
      ¬ IsPlain c ∧ c ≠ '\r' ∧ ∃ rest, escape c = '\\' :: rest ∧ 'r' ∉ rest := by
  have hhex (n : Nat) : 'r' ≠ hexDigit n := by
    rw [hexDigit]
    have hn : n % 16 < 16 := Nat.mod_lt n (by decide)
    generalize n % 16 = m at hn
    decide +revert
  by_cases hplain : IsPlain c
  · obtain ⟨hquote, hbackslash, hvisible⟩ := hplain
    refine .inl ⟨⟨hquote, hbackslash, hvisible⟩, ?_⟩
    have hne {d : Char} (hd : d.toNat < 32) : c ≠ d := by
      rintro rfl
      omega
    simp only [escape, hquote, hbackslash, if_false, hne (d := '\x08') (by decide),
      hne (d := '\t') (by decide), hne (d := '\n') (by decide), hne (d := '\x0c') (by decide),
      hne (d := '\r') (by decide), Nat.not_lt.2 hvisible]
  · by_cases hreturn : c = '\r'
    · exact .inr (.inl ⟨hreturn, by rw [hreturn]; rfl⟩)
    · refine .inr (.inr ⟨hplain, hreturn, ?_⟩)
      by_cases hletter : c = '"' ∨ c = '\\' ∨ c = '\x08' ∨ c = '\t' ∨ c = '\n' ∨ c = '\x0c'
      · rcases hletter with rfl | rfl | rfl | rfl | rfl | rfl <;> exact ⟨_, rfl, by decide⟩
      · simp only [not_or] at hletter
        have hcontrol : c.toNat < 32 := by
          by_contra hvisible
          exact hplain ⟨hletter.1, hletter.2.1, Nat.not_lt.1 hvisible⟩
        simp only [escape, hletter, hreturn, hcontrol, if_false, if_true]
        exact ⟨_, rfl, by simp [hhex]⟩

/-- A text as it stands between its quotes. -/
def written (s : List Char) : List Char := s.flatMap escape

theorem written_cons (c : Char) (rest : List Char) :
    written (c :: rest) = escape c ++ written rest := List.flatMap_cons

theorem prefix_written_iff {front s : List Char} (hplain : ∀ c ∈ front, IsPlain c) :
    front <+: written s ↔ front <+: s := by
  induction s generalizing front with
  | nil => rfl
  | cons d rest ih =>
    cases front with
    | nil => simp
    | cons c others =>
      obtain ⟨hc, hothers⟩ := List.forall_mem_cons.1 hplain
      rw [written_cons, List.cons_prefix_cons]
      rcases escape_cases d with ⟨_, hd⟩ | ⟨rfl, hd⟩ | ⟨hd, _, more, hmore, _⟩
      · rw [hd, List.singleton_append, List.cons_prefix_cons, ih hothers]
      · have hreturn : ¬ IsPlain '\r' := fun h => absurd h.2.2 (by decide)
        have hc' : c ≠ '\r' := fun h => hreturn (h ▸ hc)
        simp [hd, hc.2.1, hc']
      · have hc' : c ≠ d := fun h => hd (h ▸ hc)
        simp [hmore, hc.2.1, hc']

section

variable {name : List Char} (hplain : ∀ c ∈ 'r' :: name, IsPlain c)
include hplain

theorem infix_written_cons_iff {c : Char} {rest : List Char} :
    'r' :: name <:+: written (c :: rest) ↔
      (c = 'r' ∨ c = '\r') ∧ name <+: rest ∨ 'r' :: name <:+: written rest := by
  have hname : ∀ c ∈ name, IsPlain c := fun c hc => hplain c (List.mem_cons_of_mem _ hc)
  have hbackslash : '\\' ∉ 'r' :: name := fun h => (hplain _ h).2.1 rfl
  rw [written_cons]
  rcases escape_cases c with ⟨hc, hescape⟩ | ⟨rfl, hescape⟩ | ⟨hc, hreturn, more, hescape, hmore⟩
  · have hreturn : c ≠ '\r' := by
      rintro rfl
      exact absurd hc.2.2 (by decide)
    rw [hescape, List.singleton_append, List.infix_cons_iff, List.cons_prefix_cons,
      prefix_written_iff hname]
    simp only [hreturn, or_false, eq_comm]
  · rw [hescape, List.cons_append, List.singleton_append, infix_cons_iff_of_notMem hbackslash,
      List.infix_cons_iff, List.cons_prefix_cons, prefix_written_iff hname]
    simp
  · have hletter : c ≠ 'r' := fun h => hc (h ▸ hplain _ List.mem_cons_self)
    rw [hescape, List.cons_append, infix_cons_iff_of_notMem hbackslash, cons_infix_append_iff hmore]
    simp [hletter, hreturn]

/-- A name in plain characters that begins with an `r` occurs in a text that is written if it occurs in
the text, or if it does with a return in place of its first letter. -/
theorem infix_written_iff {s : List Char} :
    'r' :: name <:+: written s ↔ 'r' :: name <:+: s ∨ '\r' :: name <:+: s := by
  induction s with
  | nil => simp [written]
  | cons c rest ih =>
    simp only [infix_written_cons_iff hplain, ih, List.infix_cons_iff, List.cons_prefix_cons,
      eq_comm (b := c), or_and_right, or_or_or_comm]

end

/-! ### Values -/

mutual

/-- The strings of a value and the keys of its objects, at any depth. -/
def texts : Json → List String
  | .string s => [s]
  | .array items => itemTexts items
  | .object entries => entryTexts entries
  | _ => []

def itemTexts : List Json → List String
  | [] => []
  | item :: rest => texts item ++ itemTexts rest

def entryTexts : List (String × Json) → List String
  | [] => []
  | (key, value) :: rest => key :: (texts value ++ entryTexts rest)

end

/-- The signs between the parts of a value. -/
def signs : List Char := ['"', ',', ':', '[', ']', '{', '}']

/-- A name that holds none of the signs between the parts of a value and is part of no number or
literal. -/
structure IsDistinct (name : List Char) : Prop where
  tilde : '~' ∈ name
  noSign : ∀ c ∈ name, c ∉ signs

section

variable {name : List Char} (h : IsDistinct name)
include h

theorem IsDistinct.notMem {c : Char} (hc : c ∈ signs) : c ∉ name := fun hmem => h.noSign c hmem hc

theorem IsDistinct.not_part {cs : List Char} (hcs : '~' ∉ cs) : ¬ name <:+: cs := fun hpart =>
  hcs (hpart.subset h.tilde)

theorem IsDistinct.not_part_nil : ¬ name <:+: [] := h.not_part List.not_mem_nil


theorem infix_bracketed_iff {first last : Char} (hfirst : first ∈ signs) (hlast : last ∈ signs)
    (inner : List Char) :
    name <:+: first :: (inner ++ [last]) ↔ name <:+: inner := by
  rw [infix_cons_iff_of_notMem (h.notMem hfirst), infix_append_cons_iff (h.notMem hlast)]
  exact or_iff_left h.not_part_nil

theorem infix_quote_iff (s : String) : name <:+: quote s ↔ name <:+: written s.toList :=
  infix_bracketed_iff h (by decide) (by decide) _

mutual

/-- A distinct name occurs in a compact text exactly if it occurs in one of its strings as written. -/
theorem infix_compactChars_iff : (v : Json) →
    (name <:+: v.compactChars ↔ ∃ t ∈ v.texts, name <:+: written t.toList)
  | .null => by
    simpa [compactChars, texts] using h.not_part (by decide)
  | .bool true => by simpa [compactChars, texts] using h.not_part (by decide)
  | .bool false => by simpa [compactChars, texts] using h.not_part (by decide)
  | .number n => by simpa [compactChars, texts] using h.not_part n.tilde_notMem_text
  | .string s => by simp [compactChars, texts, infix_quote_iff h]
  | .array items => by
    rw [compactChars, infix_bracketed_iff h (by decide) (by decide), infix_compactItems_iff items, texts]
  | .object entries => by
    rw [compactChars, infix_bracketed_iff h (by decide) (by decide), infix_compactEntries_iff entries,
      texts]

theorem infix_compactItems_iff : (items : List Json) →
    (name <:+: compactItems items ↔ ∃ t ∈ itemTexts items, name <:+: written t.toList)
  | [] => by simpa [compactItems, itemTexts] using h.not_part_nil
  | [item] => by simp [compactItems, itemTexts, infix_compactChars_iff item]
  | item :: next :: rest => by
    rw [compactItems, infix_append_cons_iff (h.notMem (by decide)), infix_compactChars_iff item,
      infix_compactItems_iff (next :: rest)]
    · simp only [itemTexts, List.mem_append, or_and_right, exists_or]
    · exact nofun

theorem infix_compactEntries_iff : (entries : List (String × Json)) →
    (name <:+: compactEntries entries ↔ ∃ t ∈ entryTexts entries, name <:+: written t.toList)
  | [] => by simpa [compactEntries, entryTexts] using h.not_part_nil
  | [(key, value)] => by
    rw [compactEntries, infix_append_cons_iff (h.notMem (by decide)), infix_quote_iff h,
      infix_compactChars_iff value]
    simp [entryTexts]
  | (key, value) :: next :: rest => by
    rw [compactEntries, infix_append_cons_iff (h.notMem (by decide)), infix_quote_iff h,
      infix_append_cons_iff (h.notMem (by decide)), infix_compactChars_iff value,
      infix_compactEntries_iff (next :: rest)]
    · simp only [entryTexts, List.mem_cons, List.mem_append, or_and_right, exists_or, exists_eq_left]
    · exact nofun

end

end

end Json

end CredentialWallet
