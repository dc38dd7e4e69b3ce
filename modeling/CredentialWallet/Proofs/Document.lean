import CredentialWallet.Json.Printer
import CredentialWallet.Proofs.Occurrence
/-!
# Documents

What makes a text one JSON document is said here by a grammar, without a value in sight: numbers have no
needless zeros in front, strings hold no bare control characters, and blanks stand only where they count
for nothing. Whatever value is written, on one line or on many, the text is such a document.
-/

namespace CredentialWallet.Json

/-! ### The grammar -/

def IsBlank (cs : List Char) : Prop := ∀ c ∈ cs, c = ' ' ∨ c = '\t' ∨ c = '\n' ∨ c = '\r'

/-- One digit or more. -/
structure IsDigits (cs : List Char) : Prop where
  ne_nil : cs ≠ []
  digits : ∀ c ∈ cs, c.isDigit = true

/-- The digits in front of a point, which begin with a zero only if that is all of them. -/
structure IsWhole (cs : List Char) : Prop extends IsDigits cs where
  lone : cs.head? = some '0' → cs = ['0']

/-- Digits behind a point, if any. -/
inductive IsFraction : List Char → Prop
  | absent : IsFraction []
  | present {digits : List Char} (h : IsDigits digits) : IsFraction ('.' :: digits)

/-- A power of ten, if any. -/
inductive IsPower : List Char → Prop
  | absent : IsPower []
  | present {mark : Char} {sign digits : List Char} (hmark : mark = 'e' ∨ mark = 'E')
    (hsign : sign ∈ [[], ['+'], ['-']]) (h : IsDigits digits) : IsPower (mark :: (sign ++ digits))

/-- A number without its sign. -/
inductive IsMagnitude : List Char → Prop
  | mk {whole fraction power : List Char} (hwhole : IsWhole whole) (hfraction : IsFraction fraction)
    (hpower : IsPower power) : IsMagnitude (whole ++ (fraction ++ power))

inductive IsNumeral : List Char → Prop
  | plain {cs : List Char} (h : IsMagnitude cs) : IsNumeral cs
  | negative {cs : List Char} (h : IsMagnitude cs) : IsNumeral ('-' :: cs)

/-- What stands in a string up to and with the quote that ends it. -/
inductive IsStringEnd : List Char → Prop
  | quote : IsStringEnd ['"']
  | plain {c : Char} {rest : List Char} (hc : IsPlain c) (h : IsStringEnd rest) : IsStringEnd (c :: rest)
  | letter {c : Char} {rest : List Char} (hc : c ∈ "\"\\/bfnrt".toList) (h : IsStringEnd rest) :
    IsStringEnd ('\\' :: c :: rest)
  | number {digits rest : List Char} (hlength : digits.length = 4)
    (hdigits : ∀ c ∈ digits, (Text.hexValue? c).isSome) (h : IsStringEnd rest) :
    IsStringEnd ('\\' :: 'u' :: (digits ++ rest))

inductive IsString : List Char → Prop
  | mk {cs : List Char} (h : IsStringEnd cs) : IsString ('"' :: cs)

mutual

inductive IsValue : List Char → Prop
  | null : IsValue ['n', 'u', 'l', 'l']
  | yes : IsValue ['t', 'r', 'u', 'e']
  | no : IsValue ['f', 'a', 'l', 's', 'e']
  | number {cs : List Char} (h : IsNumeral cs) : IsValue cs
  | string {cs : List Char} (h : IsString cs) : IsValue cs
  | emptyArray {gap : List Char} (h : IsBlank gap) : IsValue ('[' :: (gap ++ [']']))
  | array {cs : List Char} (h : IsItems cs) : IsValue ('[' :: (cs ++ [']']))
  | emptyObject {gap : List Char} (h : IsBlank gap) : IsValue ('{' :: (gap ++ ['}']))
  | object {cs : List Char} (h : IsEntries cs) : IsValue ('{' :: (cs ++ ['}']))

/-- Values with a comma between each two. -/
inductive IsItems : List Char → Prop
  | last {before value behind : List Char} (hbefore : IsBlank before) (hvalue : IsValue value)
    (hbehind : IsBlank behind) : IsItems (before ++ (value ++ behind))
  | cons {before value behind rest : List Char} (hbefore : IsBlank before) (hvalue : IsValue value)
    (hbehind : IsBlank behind) (hrest : IsItems rest) :
    IsItems (before ++ (value ++ (behind ++ ',' :: rest)))

/-- Keys and values with a colon between the two of an entry and a comma between each two entries. -/
inductive IsEntries : List Char → Prop
  | last {before key gap front value behind : List Char} (hbefore : IsBlank before) (hkey : IsString key)
    (hgap : IsBlank gap) (hfront : IsBlank front) (hvalue : IsValue value) (hbehind : IsBlank behind) :
    IsEntries (before ++ (key ++ (gap ++ ':' :: (front ++ (value ++ behind)))))
  | cons {before key gap front value behind rest : List Char} (hbefore : IsBlank before)
    (hkey : IsString key) (hgap : IsBlank gap) (hfront : IsBlank front) (hvalue : IsValue value)
    (hbehind : IsBlank behind) (hrest : IsEntries rest) :
    IsEntries (before ++ (key ++ (gap ++ ':' :: (front ++ (value ++ (behind ++ ',' :: rest))))))

end

/-- One value, and blanks around it. -/
inductive IsDocument : List Char → Prop
  | mk {before value behind : List Char} (hbefore : IsBlank before) (hvalue : IsValue value)
    (hbehind : IsBlank behind) : IsDocument (before ++ (value ++ behind))

/-! ### Numbers -/

theorem isDigits_toDigits (n : Nat) : IsDigits (Nat.toDigits 10 n) where
  ne_nil := Nat.toDigits_ne_nil
  digits := fun _ hc => Nat.isDigit_of_mem_toDigits (by decide) (by decide) hc

theorem eq_zero_of_head?_toDigits {n : Nat} (h : (Nat.toDigits 10 n).head? = some '0') : n = 0 := by
  induction n using Nat.strongRecOn with
  | ind n ih =>
    by_cases hn : n < 10
    · rw [Nat.toDigits_of_lt_base hn] at h
      have hdigit : ∀ n < 10, Nat.digitChar n = '0' → n = 0 := by decide
      exact hdigit n hn (Option.some.inj h)
    · rw [Nat.toDigits_of_base_le (by decide) (by omega), List.head?_append,
        List.head?_eq_some_head Nat.toDigits_ne_nil, Option.some_or] at h
      have hfront := ih (n / 10) (by omega) ((List.head?_eq_some_head Nat.toDigits_ne_nil).trans h)
      omega

theorem isWhole_toDigits (n : Nat) : IsWhole (Nat.toDigits 10 n) where
  toIsDigits := isDigits_toDigits n
  lone := fun h => by rw [eq_zero_of_head?_toDigits h]; rfl

theorem IsDigits.append_zeros {cs : List Char} (h : IsDigits cs) (n : Nat) :
    IsDigits (cs ++ List.replicate n '0') where
  ne_nil := List.append_ne_nil_of_left_ne_nil h.ne_nil _
  digits := fun c hc => (List.mem_append.1 hc).elim (h.digits c) fun hzero => by
    rw [(List.mem_replicate.1 hzero).2]
    rfl

theorem IsDigits.isWhole {cs : List Char} (h : IsDigits cs) (hfirst : cs.head? ≠ some '0') : IsWhole cs where
  toIsDigits := h
  lone := fun hzero => absurd hzero hfirst

theorem isWhole_singleton {d : Char} (h : d.isDigit = true) : IsWhole [d] where
  ne_nil := List.cons_ne_nil d []
  digits := fun _ hc => List.mem_singleton.1 hc ▸ h
  lone := fun hzero => by rw [Option.some.inj hzero]

theorem IsWhole.isMagnitude {cs : List Char} (h : IsWhole cs) : IsMagnitude cs := by
  have hmagnitude := IsMagnitude.mk h .absent .absent
  rwa [List.append_nil, List.append_nil] at hmagnitude

theorem isNumeral_integerText (i : Int) : IsNumeral (integerText i) := by
  rw [integerText]
  split
  · exact .negative (isWhole_toDigits i.natAbs).isMagnitude
  · exact .plain (isWhole_toDigits i.natAbs).isMagnitude

end CredentialWallet.Json

namespace CredentialWallet.Decimal.Binary64

open Json (IsDigits IsWhole IsPower IsMagnitude IsNumeral isWhole_singleton isDigits_toDigits)

variable {x : Binary64}

theorem decimalRatio_den_pos (digits : Nat) (exponent : Int) : 0 < (decimalRatio digits exponent).2 := by
  cases exponent with
  | ofNat e => exact Nat.one_pos
  | negSucc e => exact Nat.pow_pos (by decide)

theorem interval_below_lt (hx : x.isZero = false) : x.interval.below < x.interval.value := by
  have hpos : 0 < x.significand := by
    rw [isZero, beq_eq_false_iff_ne] at hx
    omega
  have hhalf (narrow : Bool) (unit : Nat) (hunit : 0 < unit) :
      (if narrow then 1 else 2) * unit < 4 * x.significand * unit := by
    refine Nat.mul_lt_mul_of_pos_right ?_ hunit
    split <;> omega
  rw [interval]
  split
  · exact hhalf _ _ (Nat.pow_pos (by decide))
  · simpa only [Nat.mul_one] using hhalf _ 1 Nat.one_pos

theorem onGrid_pos (hx : x.isZero = false) {exponent : Int} {digits : Nat}
    (h : x.onGrid exponent = some digits) : 0 < digits := by
  have hbelow := interval_below_lt hx
  have hzero : x.interval.holds x.significand (decimalRatio 0 exponent).1 (decimalRatio 0 exponent).2 =
      false := by
    have hlow : 0 < (x.interval.value - x.interval.below) * (decimalRatio 0 exponent).2 :=
      Nat.mul_pos (by omega) (decimalRatio_den_pos 0 exponent)
    have hpoint : (decimalRatio 0 exponent).1 * x.interval.den = 0 := by
      cases exponent <;> simp [decimalRatio]
    rw [Interval.holds]
    simp only [hpoint]
    split
    · rw [decide_eq_false (Nat.not_le.2 hlow), Bool.false_and]
    · rw [decide_eq_false (Nat.not_lt_zero _), Bool.false_and]
  rw [onGrid] at h
  dsimp only at h
  generalize x.interval.value * (decimalRatio 1 exponent).2 /
    (x.interval.den * (decimalRatio 1 exponent).1) = low at h
  have hlow (hreads : x.interval.holds x.significand (decimalRatio low exponent).1
      (decimalRatio low exponent).2 = true) : 0 < low := by
    refine Nat.pos_of_ne_zero ?_
    rintro rfl
    rw [hzero] at hreads
    cases hreads
  split at h <;> cases h
  · split
    · exact Nat.succ_pos low
    · exact hlow ‹_›
  · exact hlow ‹_›
  · exact Nat.succ_pos low

theorem searchGrid_pos (hx : x.isZero = false) (first : Int) (fuel digits : Nat) :
    0 < (x.searchGrid first fuel digits).1 := by
  induction fuel generalizing digits with
  | zero =>
    rw [searchGrid]
    rcases h : x.onGrid (first + 1 - digits) with _ | found
    · exact Nat.one_pos
    · exact onGrid_pos hx h
  | succ more ih =>
    rw [searchGrid]
    split
    · exact onGrid_pos hx ‹_›
    · exact ih _

theorem trimZeros_pos {n : Nat} (hn : 0 < n) (fuel : Nat) : 0 < (trimZeros fuel n).1 := by
  induction fuel generalizing n with
  | zero => exact hn
  | succ fuel ih =>
    rw [trimZeros]
    split
    · rename_i h
      simp only [Bool.and_eq_true, beq_iff_eq] at h
      exact ih (by omega)
    · exact hn

/-- The first digit, a point and the others if there are any, and a power of ten. -/
theorem isMagnitude_scientific {digits power : List Char} {sign : Char} (hsign : sign = '+' ∨ sign = '-')
    (hpower : IsDigits power) :
    IsDigits digits →
      IsMagnitude ((match digits with
        | [] => []
        | [d] => [d]
        | d :: rest => d :: '.' :: rest) ++ ['e', sign] ++ power) := by
  intro h
  have hsigns : [sign] ∈ [[], ['+'], ['-']] := by simpa using hsign
  have hp : IsPower ('e' :: ([sign] ++ power)) := .present (.inl rfl) hsigns hpower
  rw [List.append_assoc]
  rcases digits with _ | ⟨d, _ | ⟨e, rest⟩⟩
  · exact absurd rfl h.ne_nil
  · have hmagnitude := IsMagnitude.mk (isWhole_singleton (h.digits d List.mem_cons_self)) .absent hp
    exact hmagnitude
  · have hrest : IsDigits (e :: rest) :=
      ⟨List.cons_ne_nil e rest, fun c hc => h.digits c (List.mem_cons_of_mem d hc)⟩
    have hmagnitude :=
      IsMagnitude.mk (isWhole_singleton (h.digits d List.mem_cons_self)) (.present hrest) hp
    exact hmagnitude

section

variable {digits : List Char} (h : IsDigits digits)
include h

theorem isMagnitude_whole (hfirst : digits.head? ≠ some '0') (zeros : Nat) :
    IsMagnitude (digits ++ List.replicate zeros '0' ++ ['.', '0']) := by
  have hhead : (digits ++ List.replicate zeros '0').head? ≠ some '0' := by
    rwa [List.head?_append, List.head?_eq_some_head h.ne_nil, Option.some_or,
      ← List.head?_eq_some_head h.ne_nil]
  have hzero : IsDigits ['0'] := (isWhole_singleton rfl).toIsDigits
  exact .mk ((h.append_zeros zeros).isWhole hhead) (.present hzero) .absent

theorem isMagnitude_point (hfirst : digits.head? ≠ some '0') {n : Nat} (hn : n + 1 < digits.length) :
    IsMagnitude (digits.take (n + 1) ++ '.' :: digits.drop (n + 1)) := by
  have hfront : IsDigits (digits.take (n + 1)) :=
    ⟨by simpa using h.ne_nil, fun c hc => h.digits c (List.mem_of_mem_take hc)⟩
  have hback : IsDigits (digits.drop (n + 1)) :=
    ⟨by simpa using hn, fun c hc => h.digits c (List.mem_of_mem_drop hc)⟩
  have hhead : (digits.take (n + 1)).head? ≠ some '0' := by
    rwa [List.head?_take, if_neg (Nat.succ_ne_zero n)]
  have hmagnitude := IsMagnitude.mk (hfront.isWhole hhead) (.present hback) .absent
  rwa [List.append_nil] at hmagnitude

theorem isMagnitude_small (zeros : Nat) :
    IsMagnitude ('0' :: '.' :: (List.replicate zeros '0' ++ digits)) := by
  have hfraction : IsDigits (List.replicate zeros '0' ++ digits) :=
    ⟨List.append_ne_nil_of_right_ne_nil _ h.ne_nil, fun c hc => (List.mem_append.1 hc).elim
      (fun hzero => by rw [(List.mem_replicate.1 hzero).2]; rfl) (h.digits c)⟩
  have hmagnitude := IsMagnitude.mk (isWhole_singleton (d := '0') rfl) (.present hfraction) .absent
  rwa [List.append_nil] at hmagnitude

end

theorem isNumeral_text (x : Binary64) : IsNumeral x.text := by
  have hsigned {body : List Char} (hbody : IsMagnitude body) :
      IsNumeral ((if x.negative then ['-'] else []) ++ body) := by
    split
    · exact .negative hbody
    · exact .plain hbody
  rw [text]
  dsimp only
  split
  · exact hsigned (isMagnitude_small (isWhole_singleton (d := '0') rfl).toIsDigits 0)
  · rename_i hx
    have hpos : 0 < (trimZeros 20 x.shortest.1).1 :=
      trimZeros_pos (searchGrid_pos (Bool.eq_false_iff.2 hx) _ 16 1) 20
    generalize hdigits : Nat.toDigits 10 (trimZeros 20 x.shortest.1).1 = digits
    have h : IsDigits digits := hdigits ▸ isDigits_toDigits _
    have hfirst : digits.head? ≠ some '0' := fun hzero =>
      hpos.ne' (Json.eq_zero_of_head?_toDigits (hdigits ▸ hzero))
    have hlength := List.length_pos_iff.2 h.ne_nil
    generalize x.shortest.2 + (trimZeros 20 x.shortest.1).2 = last
    refine hsigned ?_
    split
    · refine isMagnitude_scientific ?_ (isDigits_toDigits _) h
      split
      · exact .inr rfl
      · exact .inl rfl
    · split
      · exact isMagnitude_whole h hfirst _
      · split
        · exact isMagnitude_point h hfirst (by omega)
        · exact isMagnitude_small h _

end CredentialWallet.Decimal.Binary64

namespace CredentialWallet.Json

theorem isNumeral_numberText (n : Number) : IsNumeral n.text := by
  cases n with
  | int i => exact isNumeral_integerText i
  | float x => exact x.isNumeral_text

/-! ### Strings -/

theorem isSome_hexValue?_hexDigit (n : Nat) : (Text.hexValue? (hexDigit n)).isSome = true := by
  have hdigits : ∀ n < 16, (Text.hexValue? (Nat.digitChar n)).isSome = true := by decide
  exact hdigits _ (Nat.mod_lt n (by decide))

theorem isStringEnd_escape_append (c : Char) {rest : List Char} (h : IsStringEnd rest) :
    IsStringEnd (escape c ++ rest) := by
  by_cases hletter : c = '"' ∨ c = '\\' ∨ c = '\x08' ∨ c = '\t' ∨ c = '\n' ∨ c = '\x0c' ∨ c = '\r'
  · rcases hletter with rfl | rfl | rfl | rfl | rfl | rfl | rfl <;> exact .letter (by decide) h
  · simp only [not_or] at hletter
    by_cases hcontrol : c.toNat < 32
    · simp only [escape, hletter, hcontrol, if_false, if_true]
      have hdigits : ∀ d ∈ ['0', '0', hexDigit (c.toNat / 16), hexDigit (c.toNat % 16)],
          (Text.hexValue? d).isSome = true := by
        have hzero : (Text.hexValue? '0').isSome = true := by decide
        simp [hzero, isSome_hexValue?_hexDigit]
      exact .number rfl hdigits h
    · simp only [escape, hletter, hcontrol, if_false]
      exact .plain ⟨hletter.1, hletter.2.1, Nat.not_lt.1 hcontrol⟩ h

theorem isString_quote (s : String) : IsString (quote s) := by
  rw [quote]
  refine .mk ?_
  induction s.toList with
  | nil => exact .quote
  | cons c rest ih =>
    rw [List.flatMap_cons, List.append_assoc]
    exact isStringEnd_escape_append c ih

/-! ### Values -/

theorem isBlank_newLine (level : Nat) : IsBlank (newLine level) := by
  intro c hc
  rcases List.mem_cons.1 hc with rfl | hc
  · exact .inr (.inr (.inl rfl))
  · exact .inl (List.mem_replicate.1 hc).2

theorem isBlank_nil : IsBlank [] := fun _ h => absurd h List.not_mem_nil

theorem isBlank_space : IsBlank [' '] := fun _ h => .inl (List.mem_singleton.1 h)

mutual

theorem isValue_prettyChars (level : Nat) : (value : Json) → IsValue (value.prettyChars level)
  | .null => .null
  | .bool true => .yes
  | .bool false => .no
  | .number n => .number (isNumeral_numberText n)
  | .string s => .string (isString_quote s)
  | .array [] => .emptyArray isBlank_nil
  | .object [] => .emptyObject isBlank_nil
  | .array (item :: rest) =>
    .array (isItems_prettyItems (level + 1) (isBlank_newLine level) (item :: rest) (List.cons_ne_nil _ _))
  | .object (entry :: rest) =>
    .object (isEntries_prettyEntries (level + 1) (isBlank_newLine level) (entry :: rest)
      (List.cons_ne_nil _ _))

theorem isItems_prettyItems (level : Nat) {behind : List Char} (hbehind : IsBlank behind) :
    (items : List Json) → items ≠ [] → IsItems (prettyItems level items ++ behind)
  | [], h => absurd rfl h
  | [item], _ => by
    rw [prettyItems, List.append_assoc]
    exact .last (isBlank_newLine level) (isValue_prettyChars level item) hbehind
  | item :: next :: rest, _ => by
    have hrest := isItems_prettyItems level hbehind (next :: rest) (List.cons_ne_nil _ _)
    have h := IsItems.cons (isBlank_newLine level) (isValue_prettyChars level item) isBlank_nil hrest
    simpa only [prettyItems, List.append_assoc, List.cons_append, List.nil_append] using h

theorem isEntries_prettyEntries (level : Nat) {behind : List Char} (hbehind : IsBlank behind) :
    (entries : List (String × Json)) → entries ≠ [] → IsEntries (prettyEntries level entries ++ behind)
  | [], h => absurd rfl h
  | [(key, value)], _ => by
    have h := IsEntries.last (isBlank_newLine level) (isString_quote key) isBlank_nil isBlank_space
      (isValue_prettyChars level value) hbehind
    simpa only [prettyEntries, List.append_assoc, List.cons_append, List.nil_append] using h
  | (key, value) :: next :: rest, _ => by
    have hrest := isEntries_prettyEntries level hbehind (next :: rest) (List.cons_ne_nil _ _)
    have h := IsEntries.cons (isBlank_newLine level) (isString_quote key) isBlank_nil isBlank_space
      (isValue_prettyChars level value) isBlank_nil hrest
    simpa only [prettyEntries, List.append_assoc, List.cons_append, List.nil_append] using h

end

/-- A value that is written on lines of its own is one document. -/
theorem isDocument_pretty (value : Json) : IsDocument (value.pretty ++ "\n").toList := by
  have hline : IsBlank ['\n'] := by simp [IsBlank]
  rw [String.toList_append, pretty, String.toList_ofList]
  exact .mk isBlank_nil (isValue_prettyChars 0 value) hline

end CredentialWallet.Json
