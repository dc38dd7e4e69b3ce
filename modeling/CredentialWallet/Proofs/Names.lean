import CredentialWallet.Proofs.Numerals
/-!
# Names of hosts in their final form

What a name is read to is in ASCII and without capitals, and a text like that is what it is read to: it
maps to itself, it is in composed form, and its labels are given in ASCII already. So a name in its
final form stays as it is, unless it is refused.
-/

namespace CredentialWallet.Url

open Text (hexValue? splitAt)

namespace Domain

/-- Whether a character is in ASCII and no capital. -/
def isPlain (c : Char) : Bool := isAscii c && isKept c

theorem isPlain_iff {c : Char} : isPlain c = true ↔ c.toNat < 128 ∧ isKept c = true := by
  simp [isPlain, isAscii]

/-! ### Texts that are read to themselves -/

theorem mapM_mapped?_of_kept {cs : List Char} (h : ∀ c ∈ cs, isKept c = true) :
    cs.mapM mapped? = some (cs.map fun c => [c]) := by
  induction cs with
  | nil => rfl
  | cons c rest ih =>
    have hc : mapped? c = some [c] := of_decide_eq_true (h c List.mem_cons_self)
    have hrest := ih fun d hd => h d (List.mem_cons_of_mem c hd)
    simp [hc, hrest]

theorem normalize_of_ascii {cs : List Char} (h : ∀ c ∈ cs, c.toNat < 128) :
    Unicode.normalize cs = cs := by
  rw [Unicode.normalize, if_pos]
  simpa using h

theorem labels?_of_plain {cs : List Char} (h : ∀ c ∈ cs, isPlain c = true) :
    labels? cs = (splitAt (· = '.') cs).mapM Label.ofChars? := by
  have hascii : ∀ c ∈ cs, c.toNat < 128 := fun c hc => (isPlain_iff.1 (h c hc)).1
  have hkept : ∀ c ∈ cs, isKept c = true := fun c hc => (isPlain_iff.1 (h c hc)).2
  have hflat : (cs.map fun c => [c]).flatten = cs := by
    induction cs <;> simp_all
  rw [labels?, mapM_mapped?_of_kept hkept]
  simp only [Option.bind_eq_bind, Option.bind_some, hflat, normalize_of_ascii hascii]
  rw [if_pos (List.all_eq_true.2 hkept)]

/-! ### The form of a label -/

theorem Label.ascii_of_ofChars? {cs : List Char} {l : Label} (h : ofChars? cs = some l)
    (hascii : ∀ c ∈ cs, c.toNat < 128) : l.ascii = cs := by
  have hall : cs.all isAscii = true := by simpa [isAscii] using hascii
  rw [ofChars?.eq_def] at h
  split at h
  · split at h
    · obtain ⟨chars, _, rfl⟩ := Option.map_eq_some_iff.1 h
      rfl
    · cases h
  · rw [if_pos hall] at h
    obtain rfl := Option.some.inj h
    rfl

/-- What the form of a label in ASCII is made of. -/
def isLabelChar (c : Char) : Bool := isPlain c && c ≠ '.'

end Domain

namespace Punycode

open Domain

theorem isLabelChar_digit {d : Nat} (hd : d < 36) : isLabelChar (digit d) = true := by
  have hdigits : ∀ d < 36, isLabelChar (digit d) = true := by decide +kernel
  exact hdigits d hd

theorem isLabelChar_digits (bias k q : Nat) : ∀ c ∈ digits bias k q, isLabelChar c = true := by
  have hthreshold (k : Nat) : threshold k bias ≤ 26 := by
    rw [threshold]
    omega
  induction k, q using digits.induct bias with
  | case1 k q t hq =>
    have hsmall : q < 36 := by
      have := hthreshold k
      omega
    rw [digits, if_pos hq]
    intro c hc
    rw [List.mem_singleton.1 hc]
    exact isLabelChar_digit hsmall
  | case2 k q t hq ih =>
    have hsmall : t + (q - t) % (36 - t) < 36 := by
      have hbound : t ≤ 26 := hthreshold k
      have hmod := Nat.mod_lt (q - t) (by omega : 0 < 36 - t)
      omega
    rw [digits, if_neg hq]
    intro c hc
    rcases List.mem_cons.1 hc with rfl | hc
    · exact isLabelChar_digit hsmall
    · exact ih c hc

theorem isLabelChar_place {basic n : Nat} {s : State} (hs : ∀ c ∈ s.written, isLabelChar c = true)
    (a : Char) : ∀ c ∈ (place basic n s a).written, isLabelChar c = true := by
  rw [place]
  split
  · exact hs
  · split
    · intro c hc
      rcases List.mem_append.1 hc with hc | hc
      · exact hs c hc
      · exact isLabelChar_digits _ _ _ c hc
    · exact hs

theorem isLabelChar_foldl_place {basic n : Nat} (label : List Char) {s : State}
    (hs : ∀ c ∈ s.written, isLabelChar c = true) :
    ∀ c ∈ (label.foldl (place basic n) s).written, isLabelChar c = true := by
  induction label generalizing s with
  | nil => exact hs
  | cons a rest ih => exact ih (isLabelChar_place hs a)

theorem isLabelChar_placeAll {label : List Char} {basic : Nat} (numbers : List Nat) (low : Nat)
    {s : State} (hs : ∀ c ∈ s.written, isLabelChar c = true) :
    ∀ c ∈ (placeAll label basic numbers low s).written, isLabelChar c = true := by
  induction numbers generalizing low s with
  | nil => exact hs
  | cons n rest ih =>
    rw [placeAll]
    exact ih (n + 1) (isLabelChar_foldl_place label hs)

theorem isLabelChar_encode {label : List Char}
    (h : ∀ c ∈ label, c.toNat < 128 → isLabelChar c = true) :
    ∀ c ∈ encode label, isLabelChar c = true := by
  intro c hc
  rw [encode] at hc
  simp only [List.mem_append] at hc
  rcases hc with (hc | hc) | hc
  · obtain ⟨hmem, hascii⟩ := List.mem_filter.1 hc
    exact h c hmem (of_decide_eq_true hascii)
  · split at hc
    · cases hc
    · rw [List.mem_singleton.1 hc]
      decide +kernel
  · exact isLabelChar_placeAll _ _ (by simp) c hc

end Punycode

namespace Domain

theorem Label.isLabelChar_ascii {cs : List Char} {l : Label} (h : ofChars? cs = some l)
    (hkept : ∀ c ∈ cs, isKept c = true ∧ c ≠ '.') : ∀ c ∈ l.ascii, isLabelChar c = true := by
  have hlabel (c : Char) (hc : c ∈ cs) (hascii : c.toNat < 128) : isLabelChar c = true := by
    simp [isLabelChar, isPlain_iff, hascii, hkept c hc]
  by_cases hascii : cs.all isAscii = true
  · have hall : ∀ c ∈ cs, c.toNat < 128 := by simpa [isAscii] using hascii
    rw [ascii_of_ofChars? h hall]
    exact fun c hc => hlabel c hc (hall c hc)
  · rw [ofChars?.eq_def] at h
    split at h
    · rename_i code
      have hcode : ¬ code.all isAscii = true := by
        have hmark : isAscii 'x' = true ∧ isAscii 'n' = true ∧ isAscii '-' = true := by decide
        simpa [hmark] using hascii
      rw [if_neg hcode] at h
      cases h
    · rw [if_neg hascii] at h
      split at h
      · obtain rfl := Option.some.inj h
        intro c hc
        rcases List.mem_append.1 hc with hc | hc
        · have hmark : codeMark.all isLabelChar = true := by decide +kernel
          exact List.all_eq_true.1 hmark c hc
        · exact Punycode.isLabelChar_encode hlabel c hc
      · cases h

/-! ### Names -/

theorem map_ascii_of_mapM_ofChars? {parts : List (List Char)} {labels : List Label}
    (h : parts.mapM Label.ofChars? = some labels) (hascii : ∀ part ∈ parts, ∀ c ∈ part, c.toNat < 128) :
    labels.map Label.ascii = parts := by
  induction parts generalizing labels with
  | nil =>
    obtain rfl := Option.some.inj h
    rfl
  | cons part rest ih =>
    simp only [List.mapM_cons, Option.bind_eq_bind, Option.bind_eq_some_iff] at h
    obtain ⟨first, hfirst, others, hothers, h⟩ := h
    obtain rfl := Option.some.inj h
    rw [List.map_cons, Label.ascii_of_ofChars? hfirst (hascii part List.mem_cons_self),
      ih hothers fun other hother => hascii other (List.mem_cons_of_mem part hother)]

theorem eq_of_toAscii?_plain {cs name : List Char} (hplain : ∀ c ∈ cs, isPlain c = true)
    (h : toAscii? cs = some name) : name = cs := by
  rw [toAscii?, labels?_of_plain hplain] at h
  simp only [Option.bind_eq_bind, Option.bind_eq_some_iff] at h
  obtain ⟨labels, hlabels, h⟩ := h
  split at h
  · obtain rfl := Option.some.inj h
    have hascii : ∀ part ∈ splitAt (· = '.') cs, ∀ c ∈ part, c.toNat < 128 := fun part hpart c hc =>
      (isPlain_iff.1 (hplain c (Text.mem_of_mem_splitAt hpart hc))).1
    rw [map_ascii_of_mapM_ofChars? hlabels hascii, Text.splitAt_eq_splitOn, List.intercalate_splitOn]
  · cases h

theorem mem_intercalate_dot {parts : List (List Char)} {c : Char} (hc : c ∈ ['.'].intercalate parts) :
    c = '.' ∨ ∃ part ∈ parts, c ∈ part := by
  induction parts with
  | nil => cases hc
  | cons part rest ih =>
    cases rest with
    | nil => exact .inr ⟨part, List.mem_cons_self, by simpa using hc⟩
    | cons next others =>
      rw [List.intercalate_cons_cons, List.mem_append, List.mem_append, List.mem_singleton] at hc
      rcases hc with (hc | hc) | hc
      · exact .inr ⟨part, List.mem_cons_self, hc⟩
      · exact .inl hc
      · rcases ih hc with hc | ⟨other, hother, hc⟩
        · exact .inl hc
        · exact .inr ⟨other, List.mem_cons_of_mem part hother, hc⟩

theorem isLabelChar_of_labels? {cs : List Char} {labels : List Label} (h : labels? cs = some labels) :
    ∀ l ∈ labels, ∀ c ∈ l.ascii, isLabelChar c = true := by
  rw [labels?] at h
  simp only [Option.bind_eq_bind, Option.bind_eq_some_iff] at h
  obtain ⟨mapped, _, h⟩ := h
  split at h
  · rename_i hkept
    intro l hl
    obtain ⟨part, hpart, hread⟩ := forall_mem_of_mapM_eq_some h l hl
    refine Label.isLabelChar_ascii hread fun c hc => ⟨?_, ?_⟩
    · exact List.all_eq_true.1 hkept c (Text.mem_of_mem_splitAt hpart hc)
    · exact of_decide_eq_false (Text.not_separator_of_mem_splitAt hpart c hc)
  · cases h

/-- A name is plain and holds nothing that no name may hold. -/
theorem isPlain_of_toAscii? {cs name : List Char} (h : toAscii? cs = some name) :
    ∀ c ∈ name, isPlain c = true ∧ isForbidden c = false := by
  rw [toAscii?] at h
  simp only [Option.bind_eq_bind, Option.bind_eq_some_iff] at h
  obtain ⟨labels, hlabels, h⟩ := h
  split at h
  · rename_i hname
    obtain rfl := Option.some.inj h
    intro c hc
    refine ⟨?_, ?_⟩
    · rcases mem_intercalate_dot hc with rfl | ⟨part, hpart, hc⟩
      · decide +kernel
      · obtain ⟨l, hl, rfl⟩ := List.mem_map.1 hpart
        have hchar := isLabelChar_of_labels? hlabels l hl c hc
        exact (Bool.and_eq_true_iff.1 hchar).1
    · simp only [Bool.and_eq_true, Bool.not_eq_true'] at hname
      simpa using List.any_eq_false.1 hname.2 c hc
  · cases h

end Domain

/-! ### Hosts -/

theorem decodeBytes_of_notMem {cs : List Char} (h : '%' ∉ cs) :
    decodeBytes cs = cs.flatMap String.utf8EncodeChar := by
  induction cs with
  | nil => rfl
  | cons c rest ih =>
    rw [List.mem_cons, not_or] at h
    rw [decodeBytes_cons (Ne.symm h.1), ih h.2, List.flatMap_cons]

namespace Host

open Domain

def isNameChar (c : Char) : Bool := isPlain c && !isForbidden c

theorem isNameChar_iff {c : Char} :
    isNameChar c = true ↔ isPlain c = true ∧ isForbidden c = false := by
  simp [isNameChar]

theorem isNameChar_of_mem_fourNumbersText {n : Nat} :
    ∀ c ∈ fourNumbersText n, isNameChar c = true := by
  have hdigits : ∀ d < 10, isNameChar (Nat.digitChar d) = true := by decide +kernel
  intro c hc
  rcases mem_fourNumbersText hc with rfl | ⟨d, hd, rfl⟩
  · decide +kernel
  · exact hdigits d hd

/-- A name of a host in its final form. -/
structure IsDomain (host : List Char) : Prop where
  ne_nil : host ≠ []
  chars : ∀ c ∈ host, isNameChar c = true
  numbers : endsInNumber host = true → ∀ n, fourNumbers? host = some n → fourNumbersText n = host

theorem isDomain_of_domain {cs host : List Char} (h : domain cs = .ok host) : IsDomain host := by
  rw [domain] at h
  split at h
  · cases h
  · split at h
    · cases h
    · rename_i name hname
      split at h
      · cases h
      · rename_i hne
        split at h
        · split at h
          · obtain rfl := Except.ok.inj h
            exact ⟨fourNumbersText_ne_nil _, isNameChar_of_mem_fourNumbersText,
              fun _ _ => fourNumbers?_fourNumbersText⟩
          · cases h
        · rename_i hends
          obtain rfl := Except.ok.inj h
          exact ⟨by simpa using hne, fun c hc => isNameChar_iff.2 (isPlain_of_toAscii? hname c hc),
            fun hnumber => absurd hnumber hends⟩

/-- A name in its final form is read to itself, unless it is refused. -/
theorem IsDomain.eq_of_domain {host again : List Char} (hhost : IsDomain host) (h : domain host = .ok again) :
    again = host := by
  have hplain : ∀ c ∈ host, isPlain c = true := fun c hc => (isNameChar_iff.1 (hhost.chars c hc)).1
  have hread : (Text.decodeUtf8 (decodeBytes host)).mapM id = some host := by
    have hpercent : isNameChar '%' = false := by decide +kernel
    have hnone : '%' ∉ host := by
      intro hmem
      rw [hhost.chars _ hmem] at hpercent
      cases hpercent
    rw [decodeBytes_of_notMem hnone, Text.mapM_decodeUtf8_flatMap]
  rw [domain, hread] at h
  dsimp only at h
  split at h
  · cases h
  · rename_i name hname
    obtain rfl := eq_of_toAscii?_plain hplain hname
    split at h
    · cases h
    · split at h
      · rename_i hends
        split at h
        · rename_i n hn
          rw [← Except.ok.inj h, hhost.numbers hends n hn]
        · cases h
      · exact (Except.ok.inj h).symm

/-- A host in its final form: a name, or an address of eight numbers in brackets. -/
inductive IsFinal : List Char → Prop
  | name {host : List Char} (h : IsDomain host) : IsFinal host
  | bracketed {inner : List Char} (hchars : ∀ c ∈ inner, c = ':' ∨ ∃ d < 16, c = Nat.digitChar d)
    (hread : Host.bracketed (inner ++ [']']) = .ok ('[' :: (inner ++ [']']))) :
    IsFinal ('[' :: (inner ++ [']']))

theorem isFinal_of_parse {cs host : List Char} (h : parse cs = .ok host) : IsFinal host := by
  rw [parse.eq_def] at h
  split at h
  · cases h
  · obtain ⟨inner, rfl, hread, hchars⟩ := bracketed_eq_ok h
    exact .bracketed hchars hread
  · exact .name (isDomain_of_domain h)

theorem IsFinal.eq_of_parse {host again : List Char} (hhost : IsFinal host)
    (h : parse host = .ok again) : again = host := by
  cases hhost with
  | bracketed _ hread => exact Except.ok.inj (h.symm.trans hread)
  | name hname =>
    rw [parse.eq_def] at h
    split at h
    · cases h
    · have hbracket : isNameChar '[' = false := by decide +kernel
      rw [hname.chars _ List.mem_cons_self] at hbracket
      cases hbracket
    · exact hname.eq_of_domain h

end Host

end CredentialWallet.Url
