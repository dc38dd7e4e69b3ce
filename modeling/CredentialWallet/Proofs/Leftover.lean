import Mathlib.Data.List.Infix
import CredentialWallet.Json.Draft
/-!
# What a reader leaves of a text

Whatever a reader of numbers, strings, lists or values takes off a text, what it leaves is an end of the
text. A reader that has run out of text, or that gives up, leaves nothing.
-/

namespace CredentialWallet.Json

/-! ### Strings and numbers -/

/-- What a scan leaves of its text. -/
def Scan.rest {α : Type} : Scan α → List Glyph
  | .found _ rest => rest
  | .spoilt _ rest => rest
  | .stopped _ _ => []

theorem skipBlanks_suffix (text : List Glyph) : skipBlanks text <:+ text := by
  induction text with
  | nil => exact List.suffix_rfl
  | cons g rest ih =>
    rw [skipBlanks]
    split
    · exact ih.trans (List.suffix_cons g rest)
    · exact List.suffix_rfl

theorem suffix_of_skipBlanks {text rest : List Glyph} {g : Glyph} (h : skipBlanks text = g :: rest) :
    rest <:+ text :=
  (List.suffix_cons g rest).trans (h ▸ skipBlanks_suffix text)

theorem StringScan.close_rest (s : StringScan) (text : List Glyph) : (s.close text).rest = text := by
  rw [close]
  split
  · rfl
  · split <;> rfl

theorem StringScan.rest_of_plainStep_eq_done {s : StringScan} {g : Glyph} {rest : List Glyph}
    {result : Scan String} (h : s.plainStep g rest = .done result) :
    result.rest = rest ∨ result.rest = [] := by
  cases g with
  | none => cases h
  | some c =>
    simp only [plainStep] at h
    split at h
    · cases h
      exact .inl (s.close_rest rest)
    · split at h
      · cases h
      · split at h
        · cases h
          exact .inr rfl
        · cases h

/-- A step that ends a scan of a string leaves what stands behind its glyph, or nothing. -/
theorem StringScan.rest_of_step_eq_done {s : StringScan} {g : Glyph} {rest : List Glyph}
    {state : StringState} {result : Scan String} (h : s.step g rest state = .done result) :
    result.rest = rest ∨ result.rest = [] := by
  cases state with
  | plain => exact rest_of_plainStep_eq_done h
  | paired high =>
    rw [step] at h
    split at h
    · cases h
    · exact rest_of_plainStep_eq_done h
  | escape high =>
    simp only [step, escapeStep] at h
    split at h
    · cases h
    · split at h
      · cases h
      · cases h
        exact .inr rfl
  | hex digits value high =>
    simp only [step, hexStep] at h
    split at h
    · cases h
      exact .inr rfl
    · split at h <;> cases h

theorem scanStringFrom_suffix (state : StringState) (s : StringScan) (text : List Glyph) :
    (scanStringFrom state s text).rest <:+ text := by
  induction text generalizing state s with
  | nil => exact List.suffix_rfl
  | cons g rest ih =>
    rw [scanStringFrom]
    split
    · rename_i result hstep
      rcases StringScan.rest_of_step_eq_done hstep with h | h
      · exact h ▸ List.suffix_cons g rest
      · exact h ▸ List.nil_suffix
    · exact (ih _ _).trans (List.suffix_cons g rest)

theorem scanString_suffix (text : List Glyph) : (scanString text).rest <:+ text :=
  scanStringFrom_suffix ..

theorem spanDigits_suffix (text : List Glyph) : (spanDigits text).2 <:+ text := by
  fun_induction spanDigits text with
  | case1 c rest _ r ih => exact ih.trans (List.suffix_cons _ _)
  | case2 => exact List.suffix_rfl
  | case3 => exact List.suffix_rfl

theorem missingDigit_rest (text : List Glyph) : (missingDigit text).rest = [] := by
  cases text <;> rfl

theorem finishNumber_rest (n : Numeral) (text : List Glyph) : (finishNumber n text).rest = text := by
  rw [finishNumber]
  split <;> rfl

theorem exponentSign_suffix (text : List Glyph) : (exponentSign text).2 <:+ text := by
  fun_cases exponentSign text with
  | case1 => exact List.suffix_cons _ _
  | case2 => exact List.suffix_cons _ _
  | case3 => exact List.suffix_rfl

theorem scanExponent_suffix (n : Numeral) (text : List Glyph) : (scanExponent n text).rest <:+ text := by
  have hdigits (g : Glyph) (rest : List Glyph) : (spanDigits (exponentSign rest).2).2 <:+ g :: rest :=
    ((spanDigits_suffix _).trans (exponentSign_suffix rest)).trans (List.suffix_cons g rest)
  fun_cases scanExponent n text with
  | case1 => exact missingDigit_rest _ ▸ List.nil_suffix
  | case2 => exact finishNumber_rest _ _ ▸ hdigits _ _
  | case3 => exact missingDigit_rest _ ▸ List.nil_suffix
  | case4 => exact finishNumber_rest _ _ ▸ hdigits _ _
  | case5 => exact finishNumber_rest _ _ ▸ List.suffix_rfl

theorem scanFraction_suffix (n : Numeral) (text : List Glyph) : (scanFraction n text).rest <:+ text := by
  fun_cases scanFraction n text with
  | case1 => exact missingDigit_rest _ ▸ List.nil_suffix
  | case2 rest digits _ =>
    exact ((scanExponent_suffix _ _).trans (spanDigits_suffix rest)).trans (List.suffix_cons _ _)
  | case3 => exact scanExponent_suffix n text

theorem scanNumber_suffix (negative : Bool) (text : List Glyph) :
    (scanNumber negative text).rest <:+ text := by
  simp only [scanNumber]
  split
  · exact missingDigit_rest _ ▸ List.nil_suffix
  · exact List.nil_suffix
  · exact (scanFraction_suffix _ _).trans (spanDigits_suffix text)

/-! ### Values -/

namespace Draft

theorem literal_suffix (value : Draft) (letters : List Char) (text : List Glyph) :
    (literal value letters text).2 <:+ text := by
  induction letters generalizing text with
  | nil => exact List.suffix_rfl
  | cons c letters ih =>
    cases text with
    | nil => exact List.suffix_rfl
    | cons g rest =>
      rw [literal]
      split
      · exact (ih rest).trans (List.suffix_cons g rest)
      · exact List.suffix_cons g rest

theorem ofString_rest (found : Scan String) : (ofString found).2 = found.rest := by cases found <;> rfl

theorem ofNumber_rest (found : Scan Number) : (ofNumber found).2 = found.rest := by cases found <;> rfl

/-- What is left where a list is over, or where its next part begins. -/
def Place.rest : Place → List Glyph
  | .over _ rest => rest
  | .next text => text

theorem itemPlace_suffix (first : Bool) (text : List Glyph) : (itemPlace first text).rest <:+ text := by
  rw [itemPlace]
  cases hskip : skipBlanks text with
  | nil => exact List.nil_suffix
  | cons g rest =>
    have hall : g :: rest <:+ text := hskip ▸ skipBlanks_suffix text
    have hrest : rest <:+ text := suffix_of_skipBlanks hskip
    dsimp only
    split
    · exact hrest
    · split
      · exact hall
      · split
        · cases hnext : skipBlanks rest with
          | nil => exact List.nil_suffix
          | cons d behind =>
            dsimp only
            split
            · exact (suffix_of_skipBlanks hnext).trans hrest
            · exact (hnext ▸ skipBlanks_suffix rest).trans hrest
        · exact hrest

theorem entryPlace_suffix (first : Bool) (text : List Glyph) :
    (entryPlace first text).rest <:+ text := by
  rw [entryPlace]
  cases hskip : skipBlanks text with
  | nil => exact List.nil_suffix
  | cons g rest =>
    have hrest : rest <:+ text := suffix_of_skipBlanks hskip
    dsimp only
    split
    · exact hrest
    · split
      · split <;> exact hrest
      · split
        · cases hnext : skipBlanks rest with
          | nil => exact List.nil_suffix
          | cons d behind =>
            have hbehind : behind <:+ text := (suffix_of_skipBlanks hnext).trans hrest
            dsimp only
            split
            · exact hbehind
            · split <;> exact hbehind
        · exact hrest

theorem suffix_of_colon_eq_ok {text rest : List Glyph} (h : colon text = .ok rest) : rest <:+ text := by
  rw [colon] at h
  split at h
  · cases h
  · rename_i hskip
    split at h
    · cases h
      exact suffix_of_skipBlanks hskip
    · cases h

-- by induction on the fuel, as the readers call each other
mutual

theorem scan_suffix : (fuel : Nat) → (text : List Glyph) → (scan fuel text).2 <:+ text
  | 0, _ => List.suffix_rfl
  | fuel + 1, text => by
    rw [scan]
    cases hskip : skipBlanks text with
    | nil => exact List.nil_suffix
    | cons g rest =>
      have hall : g :: rest <:+ text := hskip ▸ skipBlanks_suffix text
      have hrest : rest <:+ text := suffix_of_skipBlanks hskip
      cases g with
      | none => exact hrest
      | some c =>
        dsimp only
        split_ifs
        · exact (literal_suffix ..).trans hrest
        · exact (literal_suffix ..).trans hrest
        · exact (literal_suffix ..).trans hrest
        · exact ofString_rest _ ▸ (scanString_suffix rest).trans hrest
        · exact ofNumber_rest _ ▸ (scanNumber_suffix true rest).trans hrest
        · exact ofNumber_rest _ ▸ (scanNumber_suffix false _).trans hall
        · exact (scanItems_suffix fuel true rest).trans hrest
        · exact (scanEntries_suffix fuel true rest).trans hrest
        · exact hrest

theorem scanItems_suffix :
    (fuel : Nat) → (first : Bool) → (text : List Glyph) → (scanItems fuel first text).2.2 <:+ text
  | 0, _, _ => List.suffix_rfl
  | fuel + 1, first, text => by
    have hplace := itemPlace_suffix first text
    rw [scanItems]
    split
    · rename_i heq
      rw [heq] at hplace
      exact hplace
    · rename_i next heq
      rw [heq] at hplace
      dsimp only
      split_ifs
      · exact (scan_suffix fuel next).trans hplace
      · exact ((scanItems_suffix fuel false _).trans (scan_suffix fuel next)).trans hplace

theorem scanEntries_suffix :
    (fuel : Nat) → (first : Bool) → (text : List Glyph) → (scanEntries fuel first text).2.2 <:+ text
  | 0, _, _ => List.suffix_rfl
  | fuel + 1, first, text => by
    have hplace := entryPlace_suffix first text
    rw [scanEntries]
    split
    · rename_i heq
      rw [heq] at hplace
      exact hplace
    · rename_i next heq
      rw [heq] at hplace
      have hkey := (scanString_suffix next).trans hplace
      split
      · exact List.nil_suffix
      · rename_i hfound
        rw [hfound] at hkey
        exact (scanEntry_suffix fuel _ _).trans hkey
      · rename_i hspoilt
        rw [hspoilt] at hkey
        exact (scanEntry_suffix fuel _ _).trans hkey

theorem scanEntry_suffix : (fuel : Nat) → (key : Except Fault String) → (text : List Glyph) →
    (scanEntry fuel key text).2.2 <:+ text
  | 0, _, _ => List.suffix_rfl
  | fuel + 1, key, text => by
    rw [scanEntry]
    split
    · exact List.nil_suffix
    · rename_i behind hcolon
      have hbehind := suffix_of_colon_eq_ok hcolon
      dsimp only
      split_ifs
      · exact (scan_suffix fuel behind).trans hbehind
      · exact ((scanEntries_suffix fuel false _).trans (scan_suffix fuel behind)).trans hbehind

end

end Draft

end CredentialWallet.Json
