import Mathlib.Data.List.Induction
import Mathlib.Data.List.TakeWhile
import CredentialWallet.Proofs.Except
import CredentialWallet.Url.Host
/-!
# Addresses made of numbers

A host that is an address of four or of eight numbers is written anew from its numbers. What is written
is read back to the same numbers: the digits of each give the number, the separators stand between the
numbers only, and what is left out of eight numbers is a run of zeros.
-/

namespace CredentialWallet

namespace Url.Host

open Text (hexValue? splitAt)

/-! ### Digits -/

section

variable {base : Nat}

theorem hexValue?_digitChar {d : Nat} (hd : d < 16) : hexValue? (Nat.digitChar d) = some d := by
  have digits : ∀ d < 16, hexValue? (Nat.digitChar d) = some d := by decide
  exact digits d hd

theorem ofDigits_concat_eq_some_iff {cs : List Char} {c : Char} {n : Nat} :
    ofDigits base (cs ++ [c]) = some n ↔
      ∃ m d, ofDigits base cs = some m ∧ hexValue? c = some d ∧ d < base ∧ base * m + d = n := by
  rw [ofDigits, List.foldlM_append, ← ofDigits]
  rcases ofDigits base cs with _ | m
  · simp
  · rcases hvalue : hexValue? c with _ | d
    · simp [hvalue]
    · by_cases hd : d < base <;> simp [hvalue, hd]

theorem ofDigits_toDigits (hbase : 1 < base) (hlimit : base ≤ 16) (n : Nat) :
    ofDigits base (Nat.toDigits base n) = some n := by
  induction n using Nat.strongRecOn with
  | ind n ih =>
    by_cases hn : n < base
    · have hvalue : hexValue? (Nat.digitChar n) = some n := hexValue?_digitChar (by omega)
      rw [Nat.toDigits_of_lt_base hn, ← List.nil_append [_]]
      exact ofDigits_concat_eq_some_iff.2 ⟨0, n, rfl, hvalue, hn, by omega⟩
    · have hmod : n % base < base := Nat.mod_lt _ (by omega)
      have hvalue : hexValue? (Nat.digitChar (n % base)) = some (n % base) :=
        hexValue?_digitChar (by omega)
      have hfront := ih (n / base) (Nat.div_lt_self (by omega) hbase)
      rw [Nat.toDigits_of_base_le hbase (by omega)]
      exact ofDigits_concat_eq_some_iff.2 ⟨_, _, hfront, hvalue, hmod, Nat.div_add_mod n base⟩

theorem toDigits_inj (hbase : 1 < base) (hlimit : base ≤ 16) {n m : Nat}
    (h : Nat.toDigits base n = Nat.toDigits base m) : n = m := by
  have hread := ofDigits_toDigits hbase hlimit n
  rw [h, ofDigits_toDigits hbase hlimit m] at hread
  exact (Option.some.inj hread).symm

theorem ofDigits_lt {n : Nat} {cs : List Char} (h : ofDigits base cs = some n) :
    n < Nat.pow base cs.length := by
  induction cs using List.reverseRecOn generalizing n with
  | nil =>
    obtain rfl := Option.some.inj h
    exact Nat.one_pos
  | append_singleton front c ih =>
    obtain ⟨m, d, hfront, _, hd, rfl⟩ := ofDigits_concat_eq_some_iff.1 h
    have hm : m + 1 ≤ Nat.pow base front.length := ih hfront
    calc base * m + d < base * (m + 1) := by rw [Nat.mul_succ]; omega
      _ ≤ base * Nat.pow base front.length := Nat.mul_le_mul_left base hm
      _ = Nat.pow base (front ++ [c]).length := by
        rw [List.length_append, List.length_singleton, Nat.mul_comm]
        rfl

theorem exists_digit_of_mem_toDigits (hbase : 1 < base) {n : Nat} {c : Char}
    (hc : c ∈ Nat.toDigits base n) : ∃ d < base, c = Nat.digitChar d := by
  induction n using Nat.strongRecOn with
  | ind n ih =>
    by_cases hn : n < base
    · rw [Nat.toDigits_of_lt_base hn, List.mem_singleton] at hc
      exact ⟨n, hn, hc⟩
    · rw [Nat.toDigits_of_base_le hbase (by omega), List.mem_append, List.mem_singleton] at hc
      rcases hc with hc | rfl
      · exact ih (n / base) (Nat.div_lt_self (by omega) hbase) hc
      · exact ⟨n % base, Nat.mod_lt _ (by omega), rfl⟩

theorem notMem_toDigits (hbase : 1 < base) (hlimit : base ≤ 16) (n : Nat) {c : Char}
    (hc : hexValue? c = none) : c ∉ Nat.toDigits base n := by
  intro hmem
  obtain ⟨d, hd, rfl⟩ := exists_digit_of_mem_toDigits hbase hmem
  rw [hexValue?_digitChar (by omega)] at hc
  cases hc

end

/-! ### Four numbers -/

theorem splitAt_fourNumbersText (n : Nat) :
    splitAt (· = '.') (fourNumbersText n) =
      [Nat.toDigits 10 (n / Nat.pow 256 3 % 256), Nat.toDigits 10 (n / Nat.pow 256 2 % 256),
        Nat.toDigits 10 (n / 256 % 256), Nat.toDigits 10 (n % 256)] := by
  have hdot : decide ('.' = '.') = true := by decide
  have hdigits (k : Nat) : splitAt (· = '.') (Nat.toDigits 10 k) = [Nat.toDigits 10 k] := by
    refine Text.splitAt_eq_singleton fun c hc => decide_eq_false ?_
    rintro rfl
    exact notMem_toDigits (by decide) (by decide) k (by decide) hc
  rw [fourNumbersText, Text.splitAt_append_cons hdot, Text.splitAt_append_cons hdot,
    Text.splitAt_append_cons hdot, hdigits, hdigits, hdigits, hdigits]
  rfl

/-- A number below 256 is read from its digits, which begin with a zero only if it is zero. -/
theorem number?_toDigits {n : Nat} (hn : n < 256) : number? (Nat.toDigits 10 n) = some n := by
  have hsmall : ∀ n < 256, number? (Nat.toDigits 10 n) = some n := by decide +kernel
  exact hsmall n hn

theorem fourNumbers?_fourNumbersText {n m : Nat} (h : fourNumbers? (fourNumbersText n) = some m) :
    fourNumbersText m = fourNumbersText n := by
  have hlabels : labels (fourNumbersText n) = splitAt (· = '.') (fourNumbersText n) := by
    have hlast : Nat.toDigits 10 (n % 256) ≠ [] := Nat.toDigits_ne_nil
    rw [labels, splitAt_fourNumbersText]
    simp [hlast]
  have hbyte (k : Nat) : number? (Nat.toDigits 10 (k % 256)) = some (k % 256) :=
    number?_toDigits (Nat.mod_lt _ (by decide))
  rw [fourNumbers?, hlabels, splitAt_fourNumbersText] at h
  have hvalue : (256 * (256 * (n / 16777216 % 256) + n / 65536 % 256) + n / 256 % 256) * 256 +
      n % 256 = m := by
    simp [hbyte] at h
    exact h.2
  have hcube : Nat.pow 256 3 = 16777216 := rfl
  have hsquare : Nat.pow 256 2 = 65536 := rfl
  have hfirst : m / Nat.pow 256 3 % 256 = n / Nat.pow 256 3 % 256 := by rw [hcube]; omega
  have hsecond : m / Nat.pow 256 2 % 256 = n / Nat.pow 256 2 % 256 := by rw [hsquare]; omega
  have hthird : m / 256 % 256 = n / 256 % 256 := by omega
  have hfourth : m % 256 = n % 256 := by omega
  rw [fourNumbersText, hfirst, hsecond, hthird, hfourth, fourNumbersText]

theorem mem_fourNumbersText {n : Nat} {c : Char} (hc : c ∈ fourNumbersText n) :
    c = '.' ∨ ∃ d < 10, c = Nat.digitChar d := by
  have hdigit {k : Nat} (hk : c ∈ Nat.toDigits 10 k) : ∃ d < 10, c = Nat.digitChar d :=
    exists_digit_of_mem_toDigits (by decide) hk
  simp only [fourNumbersText, List.mem_append, List.mem_cons] at hc
  rcases hc with ((hc | hc | hc) | hc | hc) | hc | hc
  all_goals first | exact .inl hc | exact .inr (hdigit hc)

theorem fourNumbersText_ne_nil (n : Nat) : fourNumbersText n ≠ [] := by
  simp [fourNumbersText]

/-! ### Eight numbers -/

theorem piece?_toDigits {n : Nat} (hn : n < 65536) : piece? (Nat.toDigits 16 n) = some n := by
  have hshort : (Nat.toDigits 16 n).length ≤ 4 :=
    (Nat.length_toDigits_le_iff (by decide) (by decide)).2 hn
  have hpos : 1 ≤ (Nat.toDigits 16 n).length := List.length_pos_iff.2 Nat.toDigits_ne_nil
  rw [piece?, if_pos ⟨hpos, hshort⟩, ofDigits_toDigits (by decide) (by decide)]

theorem colon_notMem_toDigits (n : Nat) : ':' ∉ Nat.toDigits 16 n :=
  notMem_toDigits (by decide) (by decide) n (by decide)

theorem piecesText_cons_cons (n k : Nat) (rest : List Nat) :
    piecesText (n :: k :: rest) = Nat.toDigits 16 n ++ ':' :: piecesText (k :: rest) := by
  simp [piecesText]

theorem piecesText_singleton (n : Nat) : piecesText [n] = Nat.toDigits 16 n :=
  List.intercalate_singleton

theorem splitAt_piecesText {pieces : List Nat} (hne : pieces ≠ []) :
    splitAt (· = ':') (piecesText pieces) = pieces.map (Nat.toDigits 16) := by
  have hcolon : ∀ digits ∈ pieces.map (Nat.toDigits 16), ':' ∉ digits := by
    intro digits hdigits
    obtain ⟨n, _, rfl⟩ := List.mem_map.1 hdigits
    exact colon_notMem_toDigits n
  rw [Text.splitAt_eq_splitOn, piecesText, List.splitOn_intercalate ':' hcolon (by simpa using hne)]

theorem exists_piecesText_cons (n : Nat) (rest : List Nat) :
    ∃ d more, piecesText (n :: rest) = d :: more ∧ d ≠ ':' := by
  obtain ⟨d, others, hdigits⟩ := List.exists_cons_of_ne_nil (Nat.toDigits_ne_nil (n := n) (b := 16))
  have hd : d ≠ ':' := by
    rintro rfl
    exact colon_notMem_toDigits n (by rw [hdigits]; exact List.mem_cons_self)
  cases rest with
  | nil => exact ⟨d, others, by rw [piecesText_singleton, hdigits], hd⟩
  | cons k rest =>
    exact ⟨d, others ++ ':' :: piecesText (k :: rest),
      by rw [piecesText_cons_cons, hdigits, List.cons_append], hd⟩

theorem piecesText_ne_nil {pieces : List Nat} (hne : pieces ≠ []) : piecesText pieces ≠ [] := by
  obtain ⟨n, rest, rfl⟩ := List.exists_cons_of_ne_nil hne
  obtain ⟨d, more, htext, -⟩ := exists_piecesText_cons n rest
  simp [htext]

theorem mapM_piece? {pieces : List Nat} (hsmall : ∀ n ∈ pieces, n < 65536) :
    (pieces.map (Nat.toDigits 16)).mapM piece? = some pieces :=
  mapM_map_eq_pure fun n hn => piece?_toDigits (hsmall n hn)

theorem pieces?_piecesText (final : Bool) {pieces : List Nat} (hsmall : ∀ n ∈ pieces, n < 65536) :
    pieces? final (piecesText pieces) = some pieces := by
  rcases List.eq_nil_or_concat pieces with rfl | ⟨front, last, rfl⟩
  · cases final <;> rfl
  · rw [List.concat_eq_append] at hsmall ⊢
    have hne : front ++ [last] ≠ [] := by simp
    have hfront : (front.map (Nat.toDigits 16)).mapM piece? = some front :=
      mapM_piece? fun n hn => hsmall n (List.mem_append_left _ hn)
    have hlast : piece? (Nat.toDigits 16 last) = some last :=
      piece?_toDigits (hsmall last (by simp))
    have hdot : '.' ∉ Nat.toDigits 16 last :=
      notMem_toDigits (by decide) (by decide) last (by decide)
    simp [pieces?, piecesText_ne_nil hne, splitAt_piecesText hne, hfront, hlast, hdot]

theorem splitAtGap_append {digits : List Char} (hdigits : ':' ∉ digits) (rest : List Char) :
    splitAtGap (digits ++ rest) =
      (splitAtGap rest).map fun parts => (digits ++ parts.1, parts.2) := by
  induction digits with
  | nil => simp
  | cons c others ih =>
    rw [List.mem_cons, not_or] at hdigits
    have hrest := ih hdigits.2
    rw [List.cons_append, splitAtGap, hrest, Option.map_map]
    · rfl
    · intro _ hcolon
      exact absurd hcolon.symm hdigits.1

theorem splitAtGap_colon_cons {cs : List Char} (h : cs.head? ≠ some ':') :
    splitAtGap (':' :: cs) = (splitAtGap cs).map fun parts => (':' :: parts.1, parts.2) := by
  rw [splitAtGap]
  rintro rest - rfl
  exact h rfl

theorem mem_piecesText {pieces : List Nat} {c : Char} (hc : c ∈ piecesText pieces) :
    c = ':' ∨ ∃ d < 16, c = Nat.digitChar d := by
  induction pieces with
  | nil => simp [piecesText] at hc
  | cons n rest ih =>
    have hdigit (hn : c ∈ Nat.toDigits 16 n) : ∃ d < 16, c = Nat.digitChar d :=
      exists_digit_of_mem_toDigits (by decide) hn
    cases rest with
    | nil => exact .inr (hdigit (by rwa [piecesText_singleton] at hc))
    | cons k others =>
      rw [piecesText_cons_cons, List.mem_append, List.mem_cons] at hc
      rcases hc with hc | hc | hc
      · exact .inr (hdigit hc)
      · exact .inl hc
      · exact ih hc

theorem splitAtGap_piecesText_append (pieces : List Nat) (rest : List Char) :
    splitAtGap (piecesText pieces ++ rest) =
      (splitAtGap rest).map fun parts => (piecesText pieces ++ parts.1, parts.2) := by
  induction pieces with
  | nil => simp [piecesText]
  | cons n others ih =>
    cases others with
    | nil => rw [piecesText_singleton, splitAtGap_append (colon_notMem_toDigits n)]
    | cons k others =>
      have hhead : (piecesText (k :: others) ++ rest).head? ≠ some ':' := by
        obtain ⟨d, more, htext, hd⟩ := exists_piecesText_cons k others
        simpa [htext] using hd
      rw [piecesText_cons_cons, List.append_assoc, List.cons_append,
        splitAtGap_append (colon_notMem_toDigits n), splitAtGap_colon_cons hhead, ih]
      cases splitAtGap rest <;> simp

/-- The longest gap is a run of zeros within the numbers. -/
theorem exists_longestGap (index : Nat) (pieces : List Nat) :
    ∃ front back, pieces = front ++ List.replicate (longestGap index pieces).2 0 ++ back ∧
      (longestGap index pieces).1 = index + front.length := by
  induction pieces generalizing index with
  | nil => exact ⟨[], [], rfl, rfl⟩
  | cons n rest ih =>
    rw [longestGap]
    split
    · refine ⟨[], (n :: rest).dropWhile (· = 0), ?_, rfl⟩
      have hzeros : (n :: rest).takeWhile (· = 0) = List.replicate (zeros (n :: rest)) 0 :=
        List.eq_replicate_iff.2 ⟨rfl, fun k hk => by simpa using List.mem_takeWhile_imp hk⟩
      rw [List.nil_append, ← hzeros, List.takeWhile_append_dropWhile]
    · obtain ⟨front, back, hrest, hplace⟩ := ih (index + 1)
      refine ⟨n :: front, back, ?_, ?_⟩
      · rw [List.cons_append, List.cons_append, ← hrest]
      · rw [hplace, List.length_cons]
        omega

theorem exists_eightNumbersText {pieces : List Nat} (hlength : pieces.length = 8)
    (hsmall : ∀ n ∈ pieces, n < 65536) :
    ∃ inner, eightNumbersText pieces = '[' :: (inner ++ [']']) ∧ eightNumbers? inner = some pieces ∧
      ∀ c ∈ inner, c = ':' ∨ ∃ d < 16, c = Nat.digitChar d := by
  obtain ⟨front, back, hpieces, hplace⟩ := exists_longestGap 0 pieces
  rw [Nat.zero_add] at hplace
  rw [eightNumbersText]
  split
  · refine ⟨piecesText pieces, rfl, ?_, fun c => mem_piecesText⟩
    have hgap := splitAtGap_piecesText_append pieces []
    rw [List.append_nil] at hgap
    simp [eightNumbers?, hgap, splitAtGap, pieces?_piecesText true hsmall, hlength]
  · generalize hcount : (longestGap 0 pieces).2 = count at *
    have hfront : pieces.take (longestGap 0 pieces).1 = front := by
      rw [hplace, hpieces, List.append_assoc, List.take_left]
    have hback : pieces.drop ((longestGap 0 pieces).1 + count) = back := by
      have hlen : front.length + count = (front ++ List.replicate count 0).length := by simp
      rw [hplace, hlen, hpieces, List.drop_left]
    have hcount : front.length + count + back.length = 8 := by
      rw [← hlength, hpieces]
      simp [Nat.add_assoc]
    have hsplit : splitAtGap (piecesText front ++ ':' :: ':' :: piecesText back) =
        some (piecesText front, piecesText back) := by
      simp [splitAtGap_piecesText_append, splitAtGap]
    have hread : pieces? false (piecesText front) = some front :=
      pieces?_piecesText false fun n hn => hsmall n (by simp [hpieces, hn])
    have hread' : pieces? true (piecesText back) = some back :=
      pieces?_piecesText true fun n hn => hsmall n (by simp [hpieces, hn])
    refine ⟨piecesText front ++ ':' :: ':' :: piecesText back, by rw [hfront, hback]; simp, ?_, ?_⟩
    · have hfew : front.length + back.length ≤ 7 := by omega
      have hzeros : 8 - (front.length + back.length) = count := by omega
      rw [eightNumbers?, hsplit]
      simp [hread, hread', hfew, hzeros, hpieces]
    · intro c hc
      simp only [List.mem_append, List.mem_cons] at hc
      rcases hc with hc | hc | hc | hc
      · exact mem_piecesText hc
      · exact .inl hc
      · exact .inl hc
      · exact mem_piecesText hc

/-! ### What is read between brackets -/

theorem piece?_lt {cs : List Char} {n : Nat} (h : piece? cs = some n) : n < 65536 := by
  rw [piece?] at h
  split at h
  · rename_i hlength
    calc n < Nat.pow 16 cs.length := ofDigits_lt h
      _ ≤ Nat.pow 16 4 := Nat.pow_le_pow_right (by decide) hlength.2
  · cases h

theorem tailPieces?_lt {cs : List Char} {numbers : List Nat} (h : tailPieces? cs = some numbers) :
    ∀ n ∈ numbers, n < 65536 := by
  rw [tailPieces?, Option.bind_eq_bind, Option.bind_eq_some_iff] at h
  obtain ⟨found, _, h⟩ := h
  split at h
  · split at h
    · rename_i hbytes
      obtain rfl := Option.some.inj h
      intro n hn
      simp only [List.mem_cons, List.not_mem_nil, or_false] at hn
      omega
    · cases h
  · cases h

theorem pieces?_lt {final : Bool} {cs : List Char} {pieces : List Nat}
    (h : pieces? final cs = some pieces) : ∀ n ∈ pieces, n < 65536 := by
  rw [pieces?] at h
  split at h
  · obtain rfl := Option.some.inj h
    simp
  · simp only [Option.bind_eq_bind, Option.bind_eq_some_iff] at h
    obtain ⟨front, hfront, last, _, h⟩ := h
    have hsmall : ∀ n ∈ front, n < 65536 := by
      intro n hn
      obtain ⟨part, _, hpart⟩ := forall_mem_of_mapM_eq_some hfront n hn
      exact piece?_lt hpart
    split at h
    · simp only [Option.bind_eq_some_iff] at h
      obtain ⟨back, hback, h⟩ := h
      obtain rfl := Option.some.inj h
      intro n hn
      exact (List.mem_append.1 hn).elim (hsmall n) (tailPieces?_lt hback n)
    · simp only [Option.bind_eq_some_iff] at h
      obtain ⟨back, hback, h⟩ := h
      obtain rfl := Option.some.inj h
      intro n hn
      rcases List.mem_append.1 hn with hn | hn
      · exact hsmall n hn
      · rw [List.mem_singleton.1 hn]
        exact piece?_lt hback

theorem eightNumbers?_eq_some {cs : List Char} {pieces : List Nat} (h : eightNumbers? cs = some pieces) :
    pieces.length = 8 ∧ ∀ n ∈ pieces, n < 65536 := by
  rw [eightNumbers?] at h
  split at h
  · simp only [Option.bind_eq_bind, Option.bind_eq_some_iff] at h
    obtain ⟨found, hfound, h⟩ := h
    split at h
    · rename_i hlength
      obtain rfl := Option.some.inj h
      exact ⟨hlength, pieces?_lt hfound⟩
    · cases h
  · simp only [Option.bind_eq_bind, Option.bind_eq_some_iff] at h
    obtain ⟨front, hfront, back, hback, h⟩ := h
    split at h
    · obtain rfl := Option.some.inj h
      refine ⟨by simp; omega, fun n hn => ?_⟩
      simp only [List.mem_append, List.mem_replicate] at hn
      rcases hn with (hn | ⟨_, rfl⟩) | hn
      · exact pieces?_lt hfront n hn
      · decide
      · exact pieces?_lt hback n hn
    · cases h

/-- A host in brackets stands in the form that it is read to. -/
theorem bracketed_eq_ok {cs host : List Char} (h : bracketed cs = .ok host) :
    ∃ inner, host = '[' :: (inner ++ [']']) ∧ bracketed (inner ++ [']']) = .ok host ∧
      ∀ c ∈ inner, c = ':' ∨ ∃ d < 16, c = Nat.digitChar d := by
  rw [bracketed] at h
  split at h
  · rename_i pieces _ hpieces
    obtain rfl := Except.ok.inj h
    obtain ⟨hlength, hsmall⟩ := eightNumbers?_eq_some hpieces
    obtain ⟨inner, htext, hread, hmem⟩ := exists_eightNumbersText hlength hsmall
    refine ⟨inner, htext, ?_, hmem⟩
    rw [bracketed, List.getLast?_concat, List.dropLast_concat, hread]
    rfl
  · cases h

end Url.Host

end CredentialWallet
