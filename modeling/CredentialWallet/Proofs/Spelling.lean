import CredentialWallet.Proofs.Leftover
import CredentialWallet.Proofs.Occurrence
/-!
# Where the strings of a value stand in its text

Whatever a reader takes off a text leaves an end of the text behind, so each string and each key of a
value that was read stands somewhere in the text, character by character. A character stands there
as it is, or as an escape by a letter or by its number. In a text without escapes by number a name in
plain letters stands as it is, and so does one that a return has taken the first letter of: the letter
is there in the escape of the return.
-/

namespace CredentialWallet.Json

/-! ### Spellings -/

/-- A text in characters alone, without an escape by number. -/
structure IsLettered (text : List Glyph) : Prop where
  noByte : none ∉ text
  noNumber : ¬ [some '\\', some 'u'] <:+: text

theorem IsLettered.of_part {part text : List Glyph} (h : IsLettered text) (hpart : part <:+: text) :
    IsLettered part where
  noByte hbyte := h.noByte (hpart.subset hbyte)
  noNumber hnumber := h.noNumber (hnumber.trans hpart)

theorem IsLettered.tail {g : Glyph} {text : List Glyph} (h : IsLettered (g :: text)) :
    IsLettered text := h.of_part (List.suffix_cons g text).isInfix

/-- Characters and the glyphs that stand for them, each as it is or behind a backslash. -/
inductive Spells : List Glyph → List Char → Prop
  | nil : Spells [] []
  | plain {c : Char} {literal : List Glyph} {cs : List Char} (hc : IsPlain c)
      (hrest : Spells literal cs) : Spells (some c :: literal) (c :: cs)
  | escape {g : Glyph} {c : Char} {literal : List Glyph} {cs : List Char} (hc : escaped? g = some c)
      (hrest : Spells literal cs) : Spells (some '\\' :: g :: literal) (c :: cs)

theorem StringScan.of_close_eq_found {s : StringScan} {text rest : List Glyph} {value : String}
    (h : s.close text = .found value rest) : value = String.ofList s.chars.reverse ∧ rest = text := by
  rw [close] at h
  split at h
  · cases h
  · split at h
    · cases h
    · cases h
      exact ⟨rfl, rfl⟩

/-- A string that is begun ends in a text with its closing quote, and what comes until then is spelled
there, behind the glyphs of an escape that is begun. -/
def StringScan.Ends (s : StringScan) (begun text rest : List Glyph) (value : String) : Prop :=
  ∃ literal cs, text = literal ++ some '"' :: rest ∧
    value = String.ofList (s.chars.reverse ++ cs) ∧ Spells (begun ++ literal) cs

namespace StringScan.Ends

variable {s : StringScan} {text rest : List Glyph} {value : String} {c : Char} {g : Glyph}

theorem closed (h : s.close text = .found value rest) : s.Ends [] (some '"' :: text) rest value := by
  obtain ⟨rfl, rfl⟩ := of_close_eq_found h
  exact ⟨[], [], rfl, by rw [List.append_nil], .nil⟩

theorem plain (hc : IsPlain c) (h : (s.push c).Ends [] text rest value) :
    s.Ends [] (some c :: text) rest value := by
  obtain ⟨literal, cs, rfl, rfl, hspells⟩ := h
  exact ⟨some c :: literal, c :: cs, rfl, by simp [push], .plain hc hspells⟩

theorem begun (h : s.Ends [some '\\'] text rest value) :
    s.Ends [] (some '\\' :: text) rest value := by
  obtain ⟨literal, cs, rfl, hvalue, hspells⟩ := h
  exact ⟨some '\\' :: literal, cs, rfl, hvalue, hspells⟩

theorem escaped (hg : escaped? g = some c) (h : (s.push c).Ends [] text rest value) :
    s.Ends [some '\\'] (g :: text) rest value := by
  obtain ⟨literal, cs, rfl, rfl, hspells⟩ := h
  exact ⟨g :: literal, c :: cs, rfl, by simp [push], .escape hg hspells⟩

end StringScan.Ends

/-- A string that was taken off a text without escapes by number stands there up to its closing quote,
as it is spelled. -/
theorem ends_of_scanStringFrom {value : String} {text rest : List Glyph} (hlettered : IsLettered text) :
    (∀ s, scanStringFrom .plain s text = .found value rest → s.Ends [] text rest value) ∧
      ∀ s, text.head? ≠ some (some 'u') → scanStringFrom (.escape none) s text = .found value rest →
        s.Ends [some '\\'] text rest value := by
  induction text with
  | nil => exact ⟨nofun, nofun⟩
  | cons g text ih =>
    -- after a glyph the scan is in one of the same two states
    obtain ⟨hplain, hescape⟩ := ih hlettered.tail
    constructor
    · intro s h
      cases g with
      | none => exact absurd List.mem_cons_self hlettered.noByte
      | some c =>
        rw [scanStringFrom, StringScan.step, StringScan.plainStep] at h
        split_ifs at h with hquote hbackslash hcontrol
        · subst hquote
          exact .closed h
        · subst hbackslash
          have hletter : text.head? ≠ some (some 'u') := by
            intro hhead
            obtain ⟨behind, rfl⟩ := List.head?_eq_some_iff.1 hhead
            exact hlettered.noNumber (List.prefix_append [some '\\', some 'u'] behind).isInfix
          exact .begun (hescape s hletter h)
        · cases h
        · exact .plain ⟨hquote, hbackslash, Nat.not_lt.1 hcontrol⟩ (hplain _ h)
    · intro s hletter h
      have hg : g ≠ some 'u' := fun heq => hletter (congrArg some heq)
      simp only [scanStringFrom, StringScan.step, StringScan.escapeStep, hg, if_false,
        Option.isSome_none, Bool.false_eq_true] at h
      cases hescaped : escaped? g with
      | none =>
        rw [hescaped] at h
        cases h
      | some d =>
        rw [hescaped] at h
        exact .escaped hescaped (hplain _ h)

/-! ### Names in a spelling -/

theorem not_isPlain_of_escaped {g : Glyph} {c : Char} (h : escaped? g = some c) :
    ¬ (IsPlain c ∧ c ≠ '/') := by
  rintro ⟨⟨hquote, hbackslash, hvisible⟩, hslash⟩
  rw [escaped?.eq_def] at h
  split at h <;> cases h <;> contradiction

theorem eq_of_escaped_return {g : Glyph} (h : escaped? g = some '\r') : g = some 'r' := by
  rw [escaped?.eq_def] at h
  split at h <;> first | rfl | simp at h

section

variable {literal : List Glyph} {cs name : List Char}

theorem Spells.prefix_map_some (h : Spells literal cs) (hname : ∀ c ∈ name, IsPlain c ∧ c ≠ '/')
    (hfront : name <+: cs) : name.map some <+: literal := by
  induction h generalizing name with
  | nil => rw [List.prefix_nil.1 hfront]; exact List.prefix_rfl
  | @plain c literal cs hc _ ih =>
    cases name with
    | nil => exact List.nil_prefix
    | cons d others =>
      obtain ⟨rfl, hothers⟩ := List.cons_prefix_cons.1 hfront
      exact List.cons_prefix_cons.2 ⟨rfl, ih (List.forall_mem_cons.1 hname).2 hothers⟩
  | @escape g c literal cs hc _ ih =>
    cases name with
    | nil => exact List.nil_prefix
    | cons d others =>
      obtain ⟨rfl, _⟩ := List.cons_prefix_cons.1 hfront
      exact absurd (hname _ List.mem_cons_self) (not_isPlain_of_escaped hc)

/-- A name in plain letters that the characters hold stands in their spelling, and so does one that
they hold behind a return: its first letter is the one that spells the return. -/
theorem Spells.infix_map_some (h : Spells literal cs) (hname : ∀ c ∈ 'r' :: name, IsPlain c ∧ c ≠ '/')
    (hpart : 'r' :: name <:+: cs ∨ '\r' :: name <:+: cs) : ('r' :: name).map some <:+: literal := by
  have hothers := (List.forall_mem_cons.1 hname).2
  induction h with
  | nil => simp at hpart
  | @plain c literal cs hc hspells ih =>
    simp only [List.infix_cons_iff, List.cons_prefix_cons] at hpart
    rcases hpart with (⟨rfl, hfront⟩ | hrest) | (⟨rfl, _⟩ | hrest)
    · exact (List.cons_prefix_cons.2 ⟨rfl, hspells.prefix_map_some hothers hfront⟩).isInfix
    · exact List.infix_cons (ih (.inl hrest))
    · exact absurd hc.2.2 (by decide)
    · exact List.infix_cons (ih (.inr hrest))
  | @escape g c literal cs hc hspells ih =>
    simp only [List.infix_cons_iff, List.cons_prefix_cons] at hpart
    rcases hpart with (⟨rfl, _⟩ | hrest) | (⟨rfl, hfront⟩ | hrest)
    · exact absurd (hname _ List.mem_cons_self) (not_isPlain_of_escaped hc)
    · exact List.infix_cons (List.infix_cons (ih (.inl hrest)))
    · rw [eq_of_escaped_return hc]
      exact List.infix_cons
        (List.cons_prefix_cons.2 ⟨rfl, hspells.prefix_map_some hothers hfront⟩).isInfix
    · exact List.infix_cons (List.infix_cons (ih (.inr hrest)))

end

/-! ### The strings of a draft -/

/-- A string that a part of a text spells. -/
def Stands (t : String) (text : List Glyph) : Prop :=
  ∃ literal, literal <:+: text ∧ Spells literal t.toList

theorem Stands.mono {t : String} {part text : List Glyph} (h : Stands t part)
    (hpart : part <:+: text) : Stands t text :=
  let ⟨literal, hliteral, hspells⟩ := h
  ⟨literal, hliteral.trans hpart, hspells⟩

theorem stands_of_scanString {text rest : List Glyph} {value : String} (hlettered : IsLettered text)
    (h : scanString text = .found value rest) : Stands value text := by
  obtain ⟨literal, cs, rfl, rfl, hspells⟩ := (ends_of_scanStringFrom hlettered).1 .empty h
  exact ⟨literal, (List.prefix_append literal _).isInfix,
    by simpa [StringScan.empty] using hspells⟩

namespace Draft

mutual

/-- The strings of a draft and the keys of its objects, at any depth. -/
def texts : Draft → List String
  | .string s => [s]
  | .array items _ => itemTexts items
  | .object entries _ => entryTexts entries
  | _ => []

def itemTexts : List Draft → List String
  | [] => []
  | item :: rest => texts item ++ itemTexts rest

def entryTexts : List (Except Fault String × Draft) → List String
  | [] => []
  | (key, value) :: rest => key.toOption.toList ++ (texts value ++ entryTexts rest)

end

section

variable {t : String}

theorem not_mem_texts_literal {value : Draft} (hvalue : t ∉ value.texts) (letters : List Char)
    (text : List Glyph) : t ∉ (literal value letters text).1.texts := by
  induction letters generalizing text with
  | nil => exact hvalue
  | cons c letters ih =>
    cases text with
    | nil => exact List.not_mem_nil
    | cons g rest =>
      rw [literal]
      split
      · exact ih rest
      · exact List.not_mem_nil

theorem not_mem_texts_ofNumber (found : Scan Number) : t ∉ (ofNumber found).1.texts := by
  cases found <;> exact List.not_mem_nil

theorem stands_of_mem_ofString {text : List Glyph} (hlettered : IsLettered text)
    (h : t ∈ (ofString (scanString text)).1.texts) : Stands t text := by
  cases hscan : scanString text with
  | found value rest =>
    rw [hscan] at h
    obtain rfl := List.mem_singleton.1 h
    exact stands_of_scanString hlettered hscan
  | spoilt => rw [hscan] at h; cases h
  | stopped => rw [hscan] at h; cases h

-- by induction on the fuel; each reader looks for the string in the end of the text it is left with
mutual

/-- Every string and key of a draft stands in the text that it was taken off. -/
theorem stands_of_mem_scan : (fuel : Nat) → (text : List Glyph) → IsLettered text →
    t ∈ (scan fuel text).1.texts → Stands t text
  | 0, _, _, h => nomatch h
  | fuel + 1, text, hlettered, h => by
    rw [scan] at h
    cases hskip : skipBlanks text with
    | nil => rw [hskip] at h; cases h
    | cons g rest =>
      have hrest : rest <:+: text := (suffix_of_skipBlanks hskip).isInfix
      have hlettered := hlettered.of_part hrest
      rw [hskip] at h
      cases g with
      | none => cases h
      | some c =>
        dsimp only at h
        split_ifs at h
        · exact absurd h (not_mem_texts_literal List.not_mem_nil _ _)
        · exact absurd h (not_mem_texts_literal List.not_mem_nil _ _)
        · exact absurd h (not_mem_texts_literal List.not_mem_nil _ _)
        · exact (stands_of_mem_ofString hlettered h).mono hrest
        · exact absurd h (not_mem_texts_ofNumber _)
        · exact absurd h (not_mem_texts_ofNumber _)
        · exact (stands_of_mem_scanItems fuel true rest hlettered h).mono hrest
        · exact (stands_of_mem_scanEntries fuel true rest hlettered h).mono hrest
        · cases h

theorem stands_of_mem_scanItems : (fuel : Nat) → (first : Bool) → (text : List Glyph) →
    IsLettered text → t ∈ itemTexts (scanItems fuel first text).1 → Stands t text
  | 0, _, _, _, h => nomatch h
  | fuel + 1, first, text, hlettered, h => by
    have hplace := itemPlace_suffix first text
    rw [scanItems] at h
    split at h
    · cases h
    · rename_i next heq
      rw [heq] at hplace
      have hnext : next <:+: text := hplace.isInfix
      have hlettered := hlettered.of_part hnext
      have hitem (h : t ∈ (scan fuel next).1.texts) : Stands t text :=
        (stands_of_mem_scan fuel next hlettered h).mono hnext
      dsimp only at h
      split_ifs at h
      · exact hitem (by simpa [itemTexts] using h)
      · rcases List.mem_append.1 h with h | h
        · exact hitem h
        · have hbehind := (scan_suffix fuel next).isInfix
          exact (stands_of_mem_scanItems fuel false _ (hlettered.of_part hbehind) h).mono
            (hbehind.trans hnext)

theorem stands_of_mem_scanEntries : (fuel : Nat) → (first : Bool) → (text : List Glyph) →
    IsLettered text → t ∈ entryTexts (scanEntries fuel first text).1 → Stands t text
  | 0, _, _, _, h => nomatch h
  | fuel + 1, first, text, hlettered, h => by
    have hplace := entryPlace_suffix first text
    rw [scanEntries] at h
    split at h
    · cases h
    · rename_i next heq
      rw [heq] at hplace
      have hnext : next <:+: text := hplace.isInfix
      have hlettered := hlettered.of_part hnext
      have hrest := scanString_suffix next
      split at h
      · cases h
      · rename_i key rest hfound
        rw [hfound] at hrest
        rcases stands_of_mem_scanEntry fuel _ _ (hlettered.of_part hrest.isInfix) h with h | h
        · cases h
          exact (stands_of_scanString hlettered hfound).mono hnext
        · exact h.mono (hrest.isInfix.trans hnext)
      · rename_i hspoilt
        rw [hspoilt] at hrest
        rcases stands_of_mem_scanEntry fuel _ _ (hlettered.of_part hrest.isInfix) h with h | h
        · cases h
        · exact h.mono (hrest.isInfix.trans hnext)

theorem stands_of_mem_scanEntry : (fuel : Nat) → (key : Except Fault String) → (text : List Glyph) →
    IsLettered text → t ∈ entryTexts (scanEntry fuel key text).1 → key = .ok t ∨ Stands t text
  | 0, _, _, _, h => nomatch h
  | fuel + 1, key, text, hlettered, h => by
    have hkey (h : t ∈ key.toOption.toList) : key = .ok t := by
      cases key with
      | error => cases h
      | ok k => rw [List.mem_singleton.1 h]
    rw [scanEntry] at h
    split at h
    · simp only [entryTexts, texts, List.append_nil] at h
      exact .inl (hkey h)
    · rename_i behind hcolon
      have hbehind := (suffix_of_colon_eq_ok hcolon).isInfix
      have hlettered := hlettered.of_part hbehind
      have hvalue (h : t ∈ (scan fuel behind).1.texts) : Stands t text :=
        (stands_of_mem_scan fuel behind hlettered h).mono hbehind
      dsimp only at h
      split_ifs at h
      · rcases List.mem_append.1 h with h | h
        · exact .inl (hkey h)
        · exact .inr (hvalue (by simpa [entryTexts] using h))
      · rcases List.mem_append.1 h with h | h
        · exact .inl (hkey h)
        · rcases List.mem_append.1 h with h | h
          · exact .inr (hvalue h)
          · have hrest := (scan_suffix fuel behind).isInfix
            exact .inr ((stands_of_mem_scanEntries fuel false _ (hlettered.of_part hrest) h).mono
              (hrest.trans hbehind))

end

end

end Draft

/-! ### Reading a draft -/

section

variable {t : String}

theorem mem_entryTexts_insert {key : String} {value : Json} {entries : Entries}
    (h : t ∈ entryTexts (Entries.insert key value entries)) :
    t ∈ entryTexts entries ∨ t ∈ entryTexts [(key, value)] := by
  induction entries with
  | nil => exact .inr h
  | cons entry rest ih =>
    obtain ⟨k, v⟩ := entry
    rw [Entries.insert] at h
    split_ifs at h
    · simp only [entryTexts, List.mem_cons, List.mem_append] at h ⊢
      tauto
    · simp only [entryTexts, List.mem_cons, List.mem_append] at h ⊢
      tauto
    · simp only [entryTexts, List.mem_cons, List.mem_append] at h ih ⊢
      tauto

theorem mem_entryTexts_ofList {entries : List (String × Json)}
    (h : t ∈ entryTexts (Entries.ofList entries)) : t ∈ entryTexts entries := by
  have hfold (object : Entries) :
      t ∈ entryTexts (entries.foldl (fun object entry => Entries.insert entry.1 entry.2 object) object) →
        t ∈ entryTexts object ∨ t ∈ entryTexts entries := by
    clear h
    induction entries generalizing object with
    | nil => exact .inl
    | cons entry rest ih =>
      intro h
      rcases ih _ h with h | h
      · rcases mem_entryTexts_insert h with h | h
        · exact .inl h
        · simp only [entryTexts, List.mem_cons, List.mem_append] at h ⊢
          tauto
      · simp only [entryTexts, List.mem_cons, List.mem_append] at h ⊢
        tauto
  exact (hfold [] h).resolve_left List.not_mem_nil

end

namespace Draft

mutual

theorem texts_subset_of_toJson? {depth : Nat} : (d : Draft) → {v : Json} → d.toJson? depth = .ok v →
    v.texts ⊆ d.texts
  | .null, _, h => by cases h; exact List.Subset.refl _
  | .bool b, _, h => by cases h; exact List.Subset.refl _
  | .number n, _, h => by cases h; exact List.Subset.refl _
  | .string s, _, h => by cases h; exact List.Subset.refl _
  | .spoilt f, _, h => nomatch h
  | .fault read skip, _, h => nomatch h
  | .array items stop, v, h => by
    cases depth with
    | zero => cases h
    | succ depth =>
      rw [toJson?] at h
      obtain ⟨values, hvalues, h⟩ := bind_eq_ok_iff.1 h
      split at h
      · cases h
      · cases h
        exact itemTexts_subset_of_itemsToJson? items hvalues
  | .object entries stop, v, h => by
    cases depth with
    | zero => cases h
    | succ depth =>
      rw [toJson?] at h
      obtain ⟨values, hvalues, h⟩ := bind_eq_ok_iff.1 h
      split at h
      · cases h
      · cases h
        exact fun t ht => entryTexts_subset_of_entriesToJson? entries hvalues (mem_entryTexts_ofList ht)

theorem itemTexts_subset_of_itemsToJson? {depth : Nat} : (items : List Draft) → {values : List Json} →
    itemsToJson? depth items = .ok values → Json.itemTexts values ⊆ itemTexts items
  | [], _, h => by cases h; exact List.Subset.refl _
  | item :: rest, values, h => by
    rw [itemsToJson?] at h
    obtain ⟨value, hvalue, h⟩ := bind_eq_ok_iff.1 h
    obtain ⟨others, hothers, h⟩ := bind_eq_ok_iff.1 h
    cases h
    intro t ht
    rcases List.mem_append.1 ht with ht | ht
    · exact List.mem_append_left _ (texts_subset_of_toJson? item hvalue ht)
    · exact List.mem_append_right _ (itemTexts_subset_of_itemsToJson? rest hothers ht)

theorem entryTexts_subset_of_entriesToJson? {depth : Nat} :
    (entries : List (Except Fault String × Draft)) → {values : List (String × Json)} →
      entriesToJson? depth entries = .ok values → Json.entryTexts values ⊆ entryTexts entries
  | [], _, h => by cases h; exact List.Subset.refl _
  | (key, item) :: rest, values, h => by
    rw [entriesToJson?] at h
    obtain ⟨name, hkey, h⟩ := bind_eq_ok_iff.1 h
    obtain ⟨value, hvalue, h⟩ := bind_eq_ok_iff.1 h
    obtain ⟨others, hothers, h⟩ := bind_eq_ok_iff.1 h
    cases h
    subst hkey
    intro t ht
    rcases List.mem_cons.1 ht with rfl | ht
    · exact List.mem_cons_self
    · refine List.mem_append_right [name] ?_
      rcases List.mem_append.1 ht with ht | ht
      · exact List.mem_append_left _ (texts_subset_of_toJson? item hvalue ht)
      · exact List.mem_append_right _ (entryTexts_subset_of_entriesToJson? rest hothers ht)

end

end Draft

end CredentialWallet.Json
