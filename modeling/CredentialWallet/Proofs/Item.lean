import CredentialWallet.Url.Basic
/-!
# One more segment

What is pushed behind a path stands there in its encoded form, in which nothing is left that separates
segments, and which no escape turns into dots. So it is one segment, with two exceptions: the dot
segments themselves push nothing, and two dots with characters between them that a URL drops are pushed
only to be taken for dots, which takes back the segment before them.
-/

namespace CredentialWallet.Url

open Text (hexValue? upperHexDigit hexValue?_upperHexDigit)

/-! ### Dots in an encoded text -/

theorem undot_cons {c : Char} (hc : c ≠ '%') (rest : List Char) :
    undot (c :: rest) = c :: undot rest := by
  rw [undot]
  · rintro _ rfl
    contradiction
  · rintro _ rfl
    contradiction

theorem upperHexDigit_ne_percent (n : Nat) : upperHexDigit n ≠ '%' := by
  intro h
  have hvalue := hexValue?_upperHexDigit n
  rw [h] at hvalue
  cases hvalue

theorem undot_escapeByte_append {b : UInt8} (hb : b.toNat ≠ 46) (rest : List Char) :
    undot (escapeByte b ++ rest) = escapeByte b ++ undot rest := by
  have hhigh := hexValue?_upperHexDigit (b.toNat / 16)
  have hlow := hexValue?_upperHexDigit (b.toNat % 16)
  have hbyte := b.toNat_lt
  have hdot : ¬ (upperHexDigit (b.toNat / 16) = '2' ∧
      (upperHexDigit (b.toNat % 16) = 'e' ∨ upperHexDigit (b.toNat % 16) = 'E')) := by
    rintro ⟨htwo, he⟩
    have h2 : hexValue? '2' = some 2 := by decide
    have hfourteen : hexValue? (upperHexDigit (b.toNat % 16)) = some 14 := by
      rcases he with he | he <;> rw [he] <;> decide
    rw [htwo, h2] at hhigh
    rw [hfourteen] at hlow
    simp only [Option.some.injEq] at hhigh hlow
    omega
  simp only [escapeByte, List.cons_append, List.nil_append]
  rw [undot]
  · rw [undot_cons (upperHexDigit_ne_percent _), undot_cons (upperHexDigit_ne_percent _)]
  · rintro r - h
    simp only [List.cons.injEq] at h
    exact hdot ⟨h.1, .inl h.2.1⟩
  · rintro r - h
    simp only [List.cons.injEq] at h
    exact hdot ⟨h.1, .inr h.2.1⟩

theorem eq_of_mem_utf8EncodeChar {c : Char} {b : UInt8} (hb : b ∈ String.utf8EncodeChar c)
    (hsmall : b.toNat < 128) : b.toNat = c.toNat := by
  rw [String.utf8EncodeChar] at hb
  split at hb
  · rename_i hascii
    have hc : c.toNat ≤ 127 := hascii
    obtain rfl := List.mem_singleton.1 hb
    show (UInt8.ofNat c.toNat).toNat = c.toNat
    rw [UInt8.toNat_ofNat']
    omega
  · exfalso
    -- every byte of a longer encoding has its highest bit set
    have hlarge (n m k : Nat) (hm : 0 < m) (hk : 128 ≤ k) (hsum : m + k ≤ 256) :
        ¬ (UInt8.ofNat (n % m + k)).toNat < 128 := by
      have hmod := Nat.mod_lt n hm
      rw [UInt8.toNat_ofNat']
      omega
    split at hb
    · simp only [List.mem_cons, List.not_mem_nil, or_false] at hb
      rcases hb with rfl | rfl <;> exact hlarge _ _ _ (by decide) (by decide) (by decide) hsmall
    split at hb
    · simp only [List.mem_cons, List.not_mem_nil, or_false] at hb
      rcases hb with rfl | rfl | rfl <;>
        exact hlarge _ _ _ (by decide) (by decide) (by decide) hsmall
    · simp only [List.mem_cons, List.not_mem_nil, or_false] at hb
      rcases hb with rfl | rfl | rfl | rfl <;>
        exact hlarge _ _ _ (by decide) (by decide) (by decide) hsmall

theorem undot_flatMap_escapeByte {bytes : List UInt8} (hbytes : ∀ b ∈ bytes, b.toNat ≠ 46)
    (rest : List Char) :
    undot (bytes.flatMap escapeByte ++ rest) = bytes.flatMap escapeByte ++ undot rest := by
  induction bytes with
  | nil => rfl
  | cons b bytes ih =>
    rw [List.flatMap_cons, List.append_assoc, List.append_assoc,
      undot_escapeByte_append (hbytes b List.mem_cons_self),
      ih fun other hother => hbytes other (List.mem_cons_of_mem b hother)]

/-- Where percent signs are escaped and dots are not, no escape is read as a dot. -/
theorem undot_encode {escaped : Char → Bool} (hpercent : escaped '%' = true)
    (hdot : escaped '.' = false) (cs : List Char) :
    undot (encode escaped cs) = encode escaped cs := by
  induction cs with
  | nil => rfl
  | cons c rest ih =>
    rw [encode, List.flatMap_cons, ← encode, encodeChar]
    split
    · rename_i hplain
      have hc : c ≠ '%' := by
        rintro rfl
        simp [hpercent] at hplain
      rw [List.cons_append, List.nil_append, undot_cons hc, ih]
    · rename_i hescaped
      have hbytes : ∀ b ∈ String.utf8EncodeChar c, b.toNat ≠ 46 := by
        intro b hb h46
        have hc := eq_of_mem_utf8EncodeChar hb (by omega)
        obtain rfl : c = '.' := Char.toNat_inj.1 (hc.symm.trans h46)
        exact hescaped (by simp [hdot])
      rw [undot_flatMap_escapeByte hbytes, ih]

theorem encodeChar_cases (escaped : Char → Bool) (c : Char) :
    encodeChar escaped c = [c] ∨ ∃ rest, encodeChar escaped c = '%' :: rest := by
  rw [encodeChar]
  split
  · exact .inl rfl
  · obtain ⟨b, bytes, hbytes⟩ := List.exists_cons_of_ne_nil (String.utf8EncodeChar_ne_nil (c := c))
    exact .inr ⟨_, by rw [hbytes, List.flatMap_cons, escapeByte]; rfl⟩

@[simp] theorem encode_eq_nil_iff {escaped : Char → Bool} {cs : List Char} :
    encode escaped cs = [] ↔ cs = [] := by
  cases cs with
  | nil => exact ⟨fun _ => rfl, fun _ => rfl⟩
  | cons c rest =>
    rcases encodeChar_cases escaped c with h | ⟨_, h⟩ <;> simp [encode, h]

theorem encode_eq_dot_cons_iff {escaped : Char → Bool} (hdot : escaped '.' = false)
    {cs s : List Char} :
    encode escaped cs = '.' :: s ↔ ∃ rest, cs = '.' :: rest ∧ encode escaped rest = s := by
  constructor
  · intro h
    cases cs with
    | nil => cases h
    | cons c rest =>
      rw [encode, List.flatMap_cons, ← encode] at h
      rcases encodeChar_cases escaped c with hc | ⟨_, hc⟩
      · rw [hc, List.cons_append, List.nil_append, List.cons.injEq] at h
        exact ⟨rest, by rw [h.1], h.2⟩
      · rw [hc] at h
        cases h
  · rintro ⟨rest, rfl, rfl⟩
    have hplain : encodeChar escaped '.' = ['.'] := by simp [encodeChar, hdot]
    rw [encode, List.flatMap_cons, ← encode, hplain]
    rfl

section

variable {escaped : Char → Bool} (hpercent : escaped '%' = true) (hdot : escaped '.' = false)
include hpercent hdot

theorem isSingleDot_encode (cs : List Char) :
    isSingleDot (encode escaped cs) = true ↔ cs = ['.'] := by
  simp [isSingleDot, undot_encode hpercent hdot, encode_eq_dot_cons_iff hdot]

theorem isDoubleDot_encode (cs : List Char) :
    isDoubleDot (encode escaped cs) = true ↔ cs = ['.', '.'] := by
  simp [isDoubleDot, undot_encode hpercent hdot, encode_eq_dot_cons_iff hdot]

end

/-! ### Separators in an encoded text -/

theorem notMem_encode {escaped : Char → Bool} {d : Char} (hescaped : escaped d = true)
    (hpercent : d ≠ '%') (hdigit : hexValue? d = none) (cs : List Char) :
    d ∉ encode escaped cs := by
  intro hd
  rw [encode, List.mem_flatMap] at hd
  obtain ⟨c, _, hd⟩ := hd
  rw [encodeChar] at hd
  split at hd
  · rename_i hplain
    obtain rfl := List.mem_singleton.1 hd
    simp [hescaped] at hplain
  · obtain ⟨b, _, hb⟩ := List.mem_flatMap.1 hd
    simp only [escapeByte, List.mem_cons, List.not_mem_nil, or_false] at hb
    rcases hb with rfl | rfl | rfl
    · exact hpercent rfl
    · cases (hexValue?_upperHexDigit _).symm.trans hdigit
    · cases (hexValue?_upperHexDigit _).symm.trans hdigit

/-- Whether a text is one segment, with nothing in it that ends a segment. -/
def IsOneSegment (s : List Char) : Prop := ∀ c ∈ s, c ≠ '/' ∧ c ≠ '\\' ∧ c ≠ '?' ∧ c ≠ '#'

theorem isOneSegment_encode (cs : List Char) : IsOneSegment (encode (escapedInSegment true) cs) := by
  intro c hc
  refine ⟨?_, ?_, ?_, ?_⟩ <;>
  · rintro rfl
    exact notMem_encode (by decide) (by decide) (by decide) cs hc

/-! ### Pushing -/

/-- What becomes of the path of a web address. The two dot segments push nothing; what reads as two dots
once the dropped characters are gone takes back a segment; everything else is one more segment. -/
theorem Path.push_special {path : List Segment} (hpath : path ≠ [[]]) (id : String) :
    Path.push .special path id =
      if id = "." ∨ id = ".." then path
      else if Path.kept id.toList = ['.', '.'] then Path.up path ++ [[]]
      else if Path.kept id.toList = ['.'] then path ++ [[]]
      else path ++ [encode (escapedInSegment true) (Path.kept id.toList)] := by
  have hpercent : escapedInSegment true '%' = true := by decide
  have hdot : escapedInSegment true '.' = false := by decide
  have hknown : Scheme.Kind.special.isKnown = true := rfl
  have hfile : ¬ Scheme.Kind.special = .file := nofun
  simp only [Path.push, Path.tidy, Path.appendRaw, Path.append, hknown, hfile, hpath, false_and,
    if_false, if_true, isSingleDot_encode hpercent hdot, isDoubleDot_encode hpercent hdot]

/-! ### Items -/

/-- A URL stands for one item of a collection: it leads to the same place, and its path is the path of
the collection and one more segment. -/
structure IsItemOf (item collection : Url) : Prop where
  scheme : item.scheme = collection.scheme
  authority : item.authority = collection.authority
  query : item.query = none
  fragment : item.fragment = none
  route : ∃ path segment, collection.route = .segments path ∧
    item.route = .segments (path ++ [segment]) ∧ IsOneSegment segment ∧
    item.text = collection.text ++ "/" ++ String.ofList segment

/-- A collection at a web address, behind a parent path. -/
structure IsCollection (u : Url) (parent : List Segment) (name : Segment) : Prop where
  kind : u.kind = .special
  authority : ∃ a, u.authority = some a
  query : u.query = none
  fragment : u.fragment = none
  route : u.route = .segments (parent ++ [name])
  name_ne_nil : name ≠ []
  noDrive : beginsWithDrive name = false

/-- The path of what is pushed behind a collection: the collection itself, its parent, or an item. -/
def itemPath (parent : List Segment) (name : Segment) (id : String) : List Segment :=
  if id = "." ∨ id = ".." then parent ++ [name]
  else if Path.kept id.toList = ['.', '.'] then parent ++ [[]]
  else if Path.kept id.toList = ['.'] then parent ++ [name] ++ [[]]
  else parent ++ [name] ++ [encode (escapedInSegment true) (Path.kept id.toList)]

namespace IsCollection

variable {u : Url} {parent : List Segment} {name : Segment} {id : String}

theorem push?_eq (h : u.IsCollection parent name) :
    u.push? id = some { u with route := .segments (itemPath parent name id) } := by
  have hne : parent ++ [name] ≠ [[]] := by
    intro hroot
    have hlast := congrArg List.getLast? hroot
    simp only [List.getLast?_concat, List.getLast?_singleton, Option.some.injEq] at hlast
    exact h.name_ne_nil hlast
  have hup : Path.up (parent ++ [name]) = parent := by
    simp [Path.up, h.noDrive]
  rw [Url.push?, h.route, h.kind]
  simp only [Path.push_special hne, hup, itemPath]

theorem text_concat (h : u.IsCollection parent name) (segment : Segment) :
    ({ u with route := .segments (parent ++ [name] ++ [segment]) } : Url).text =
      u.text ++ "/" ++ String.ofList segment := by
  obtain ⟨a, ha⟩ := h.authority
  refine String.toList_inj.1 ?_
  simp [Url.text, routeText, queryText, fragmentText, authorityText, ha, h.query, h.fragment,
    h.route, Path.text]

theorem isItemOf (h : u.IsCollection parent name) {segment : Segment} (hone : IsOneSegment segment) :
    { u with route := .segments (parent ++ [name] ++ [segment]) : Url }.IsItemOf u where
  scheme := rfl
  authority := rfl
  query := h.query
  fragment := h.fragment
  route := ⟨parent ++ [name], segment, h.route, rfl, hone, h.text_concat segment⟩

/-- What is pushed behind a collection is an item of it, unless it is a single dot or reads as two dots
once the dropped characters are gone. -/
theorem isItemOf_iff (h : u.IsCollection parent name) {item : Url} (hitem : u.push? id = some item) :
    item.IsItemOf u ↔ id ≠ "." ∧ Path.kept id.toList ≠ ['.', '.'] := by
  rw [h.push?_eq] at hitem
  obtain rfl := Option.some.inj hitem
  constructor
  · intro hitem
    obtain ⟨path, segment, hpath, hroute, _⟩ := hitem.route
    obtain rfl : parent ++ [name] = path := Route.segments.inj (h.route.symm.trans hpath)
    have hlength := congrArg List.length (Route.segments.inj hroute)
    simp only [List.length_append, List.length_singleton] at hlength
    refine ⟨?_, fun htwo => ?_⟩
    · rintro rfl
      simp [itemPath] at hlength
    · rw [itemPath] at hlength
      split at hlength <;> simp at hlength
  · rintro ⟨hone, htwo⟩
    have hpair : id ≠ ".." := by
      rintro rfl
      exact htwo (by decide)
    rw [itemPath, if_neg (by simp [hone, hpair]), if_neg htwo]
    split
    · exact h.isItemOf nofun
    · exact h.isItemOf (isOneSegment_encode _)

end IsCollection

end CredentialWallet.Url
