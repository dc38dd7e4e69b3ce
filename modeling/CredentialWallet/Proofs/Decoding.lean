import CredentialWallet.Proofs.Address
/-!
# What the address of an item says

The last segment of the address of an item is the id in its encoded form. Each percent sign in it begins
an escape, and with the escapes resolved it is the id again, byte by byte. An id that looks encoded is
no exception, since its own percent signs are escaped as well. So an address tells which item of which
collection it leads to, and no two items share one.
-/

namespace CredentialWallet

theorem Text.utf8_injective : Function.Injective Text.utf8 := injective_of_read textOf?_utf8

namespace Url

open Text (hexValue? upperHexDigit hexValue?_upperHexDigit)

/-! ### Resolving escapes -/

theorem decodeBytes_flatMap_escapeByte_append (bytes : List UInt8) (rest : List Char) :
    decodeBytes (bytes.flatMap escapeByte ++ rest) = bytes ++ decodeBytes rest := by
  induction bytes with
  | nil => rfl
  | cons b bytes ih =>
    rw [List.flatMap_cons, List.append_assoc, decodeBytes_escapeByte_append, ih, List.cons_append]

/-- Where percent signs are escaped, an encoded text is resolved to the bytes of the text. -/
theorem decodeBytes_encode {escaped : Char → Bool} (hpercent : escaped '%' = true) (cs : List Char) :
    decodeBytes (encode escaped cs) = cs.flatMap String.utf8EncodeChar := by
  induction cs with
  | nil => rfl
  | cons c rest ih =>
    rw [encode, List.flatMap_cons, ← encode, encodeChar, List.flatMap_cons]
    split
    · rename_i hplain
      have hc : c ≠ '%' := by
        rintro rfl
        simp [hpercent] at hplain
      rw [List.singleton_append, decodeBytes_cons hc, ih]
    · rw [decodeBytes_flatMap_escapeByte_append, ih]

/-! ### Percent signs -/

/-- Whether each percent sign of a text begins an escape. -/
def IsEscaped (s : List Char) : Prop :=
  ∀ before behind, s = before ++ '%' :: behind →
    ∃ a b rest, behind = a :: b :: rest ∧ (hexValue? a).isSome ∧ (hexValue? b).isSome

theorem IsEscaped.of_notMem {s : List Char} (h : '%' ∉ s) : IsEscaped s := by
  rintro before behind rfl
  simp at h

theorem IsEscaped.append {s t : List Char} (hs : IsEscaped s) (ht : IsEscaped t) :
    IsEscaped (s ++ t) := by
  intro before behind hsplit
  rcases List.append_eq_append_iff.1 hsplit with ⟨middle, -, hbehind⟩ | ⟨middle, hbefore, hmiddle⟩
  · exact ht middle behind hbehind
  · cases middle with
    | nil => exact ht [] behind hmiddle.symm
    | cons c middle =>
      obtain ⟨rfl, rfl⟩ := List.cons.inj hmiddle
      obtain ⟨a, b, rest, rfl, hdigits⟩ := hs before middle hbefore
      exact ⟨a, b, rest ++ t, rfl, hdigits⟩

theorem isEscaped_flatMap {α : Type} {f : α → List Char} {l : List α} (h : ∀ a ∈ l, IsEscaped (f a)) :
    IsEscaped (l.flatMap f) := by
  induction l with
  | nil => exact .of_notMem List.not_mem_nil
  | cons a l ih =>
    rw [List.forall_mem_cons] at h
    rw [List.flatMap_cons]
    exact h.1.append (ih h.2)

theorem isEscaped_escapeByte (b : UInt8) : IsEscaped (escapeByte b) := by
  have hdigit (n : Nat) : (hexValue? (upperHexDigit n)).isSome := by
    rw [hexValue?_upperHexDigit]
    rfl
  intro before behind hsplit
  cases before with
  | nil =>
    obtain ⟨-, rfl⟩ := List.cons.inj hsplit
    exact ⟨_, _, [], rfl, hdigit _, hdigit _⟩
  | cons c before =>
    obtain ⟨-, hdigits⟩ := List.cons.inj hsplit
    have hmem : '%' ∈ [upperHexDigit (b.toNat / 16), upperHexDigit (b.toNat % 16)] := by
      rw [hdigits]
      simp
    simp [(upperHexDigit_ne_percent _).symm] at hmem

theorem isEscaped_encode {escaped : Char → Bool} (hpercent : escaped '%' = true) (cs : List Char) :
    IsEscaped (encode escaped cs) := by
  refine isEscaped_flatMap fun c _ => ?_
  rw [encodeChar]
  split
  · rename_i hplain
    refine .of_notMem fun hmem => ?_
    obtain rfl := List.mem_singleton.1 hmem
    simp [hpercent] at hplain
  · exact isEscaped_flatMap fun b _ => isEscaped_escapeByte b

/-! ### Segments for ids -/

/-- A segment stands for an id: it is one segment in its encoded form, and it reads as the id. -/
structure Denotes (segment : Segment) (id : String) : Prop where
  isOneSegment : IsOneSegment segment
  isEscaped : IsEscaped segment
  decodeBytes_eq : decodeBytes segment = Text.utf8 id

/-- An id that a URL takes as it is: neither dots nor anything with a character that a URL drops. -/
def IsLiteral (id : String) : Prop :=
  id ≠ "." ∧ id ≠ ".." ∧ ∀ c ∈ id.toList, c ≠ '\t' ∧ c ≠ '\n' ∧ c ≠ '\r'

theorem denotes_encode (id : String) : Denotes (encode (escapedInSegment true) id.toList) id where
  isOneSegment := isOneSegment_encode id.toList
  isEscaped := isEscaped_encode (by decide) id.toList
  decodeBytes_eq := decodeBytes_encode (by decide) id.toList

theorem Denotes.unique {segment : Segment} {id other : String} (h : Denotes segment id)
    (hother : Denotes segment other) : id = other :=
  Text.utf8_injective (h.decodeBytes_eq.symm.trans hother.decodeBytes_eq)

theorem Denotes.slash_notMem {segment : Segment} {id : String} (h : Denotes segment id) :
    '/' ∉ segment := fun hmem => (h.isOneSegment '/' hmem).1 rfl

theorem IsLiteral.kept_eq {id : String} (h : IsLiteral id) : Path.kept id.toList = id.toList := by
  refine List.filter_eq_self.2 fun c hc => ?_
  obtain ⟨htab, hline, hreturn⟩ := h.2.2 c hc
  simp [Path.isDropped, htab, hline, hreturn]

theorem IsLiteral.itemPath_eq {id : String} (h : IsLiteral id) (parent : List Segment)
    (name : Segment) :
    itemPath parent name id = parent ++ [name] ++ [encode (escapedInSegment true) id.toList] := by
  have hdots : ¬ (id = "." ∨ id = "..") := not_or.2 ⟨h.1, h.2.1⟩
  have hpair : id.toList ≠ ['.', '.'] := fun heq => h.2.1 (String.toList_inj.1 heq)
  have hone : id.toList ≠ ['.'] := fun heq => h.1 (String.toList_inj.1 heq)
  rw [itemPath, if_neg hdots, h.kept_eq, if_neg hpair, if_neg hone]

/-! ### The last name of an address -/

theorem eq_of_append_slash {before other name last : List Char} (hname : '/' ∉ name)
    (hlast : '/' ∉ last) (h : before ++ '/' :: name = other ++ '/' :: last) :
    before = other ∧ name = last := by
  rcases List.append_eq_append_iff.1 h with ⟨middle, rfl, hmiddle⟩ | ⟨middle, rfl, hmiddle⟩
  · cases middle with
    | nil => simpa using hmiddle
    | cons c middle =>
      obtain ⟨-, rfl⟩ := List.cons.inj hmiddle
      simp at hname
  · cases middle with
    | nil => simpa using hmiddle.symm
    | cons c middle =>
      obtain ⟨-, rfl⟩ := List.cons.inj hmiddle
      simp at hlast

theorem IsCollection.exists_text_eq {u : Url} {parent : List Segment} {name : Segment}
    (h : u.IsCollection parent name) : ∃ before, u.text.toList = before ++ '/' :: name := by
  obtain ⟨a, ha⟩ := h.authority
  refine ⟨u.scheme.toList ++ ':' :: (u.authorityText ++ Path.text parent), ?_⟩
  simp [Url.text, routeText, queryText, fragmentText, h.query, h.fragment, h.route, ha, Path.text]

end Url

namespace Gateway

variable {g : Gateway} {resource other : String}

theorem scheme_eq_of_parse (hresource : Url.IsName resource.toList) (hother : Url.IsName other.toList)
    {u v : Url} (hu : Url.parse (g.endpoint resource) = .ok u)
    (hv : Url.parse (g.endpoint other) = .ok v) : u.scheme = v.scheme := by
  obtain ⟨rest, hrest⟩ := Url.exists_splitScheme_of_parse hu
  obtain ⟨last, hlast⟩ := Url.exists_splitScheme_of_parse hv
  rw [splitScheme_endpoint g hresource.visible_ne_colon, Option.map_eq_some_iff] at hrest
  rw [splitScheme_endpoint g hother.visible_ne_colon, Option.map_eq_some_iff] at hlast
  obtain ⟨parts, hparts, hscheme⟩ := hrest
  obtain ⟨same, hsame, hagain⟩ := hlast
  obtain rfl : parts = same := Option.some.inj (hparts.symm.trans hsame)
  exact (congrArg Prod.fst hscheme).symm.trans (congrArg Prod.fst hagain)

theorem itemEndpoint_of_isCollection {u : Url} {parent : List Url.Segment}
    (hparse : Url.parse (g.endpoint resource) = .ok u)
    (hcollection : u.IsCollection parent resource.toList) {id : String} (hid : Url.IsLiteral id) :
    g.itemEndpoint resource id =
      .ok (u.text ++ "/" ++ String.ofList (Url.encode (Url.escapedInSegment true) id.toList)) := by
  rw [itemEndpoint, hparse]
  simp only [hcollection.push?_eq, hid.itemPath_eq, hcollection.text_concat]

theorem eq_of_itemEndpoint_eq (hresource : resource ∈ collections) (hother : other ∈ collections)
    (hmarks : ∀ c ∈ g.baseUrl.toList, c ≠ '?' ∧ c ≠ '#') {u : Url}
    (hparse : Url.parse (g.endpoint resource) = .ok u) (hkind : u.kind = .special)
    {id last url : String} (hid : Url.IsLiteral id) (hlast : Url.IsLiteral last)
    (hurl : g.itemEndpoint resource id = .ok url) (hagain : g.itemEndpoint other last = .ok url) :
    resource = other ∧ id = last := by
  have hname := isName_of_mem_collections hresource
  have hnext := isName_of_mem_collections hother
  rcases hv : Url.parse (g.endpoint other) with e | v
  · rw [itemEndpoint, hv] at hagain
    cases hagain
  have hspecial : v.kind = .special := by
    rw [Url.kind, ← scheme_eq_of_parse hname hnext hparse hv]
    exact hkind
  obtain ⟨parent, hcollection⟩ := isCollection_of_parse hname hmarks hparse hkind
  obtain ⟨parent', hcollection'⟩ := isCollection_of_parse hnext hmarks hv hspecial
  rw [itemEndpoint_of_isCollection hparse hcollection hid, Except.ok.injEq] at hurl
  rw [itemEndpoint_of_isCollection hv hcollection' hlast, Except.ok.injEq] at hagain
  have hdenotes := Url.denotes_encode id
  have hdenotes' := Url.denotes_encode last
  have htext := congrArg String.toList (hurl.trans hagain.symm)
  simp only [String.toList_append, String.toList_ofList, List.append_assoc] at htext
  obtain ⟨hfront, hsegment⟩ :=
    Url.eq_of_append_slash hdenotes.slash_notMem hdenotes'.slash_notMem htext
  obtain ⟨before, hbefore⟩ := hcollection.exists_text_eq
  obtain ⟨before', hbefore'⟩ := hcollection'.exists_text_eq
  rw [hbefore, hbefore'] at hfront
  have hslash {name : List Char} (h : Url.IsName name) : '/' ∉ name := fun hmem =>
    absurd (h.noSlash '/' hmem) (by decide)
  obtain ⟨-, hcollections⟩ := Url.eq_of_append_slash (hslash hname) (hslash hnext) hfront
  refine ⟨String.toList_inj.1 hcollections, ?_⟩
  rw [hsegment] at hdenotes
  exact hdenotes.unique hdenotes'

/-- Behind a base URL that is a web address and does not end in a blank, every collection has an address
at the same place. Behind the address of a collection, each id that a URL takes as it is stands in a
segment of its own, which reads as that id; so the address of an item tells its collection and its id. -/
theorem itemEndpoint_denotes (hresource : resource ∈ collections)
    (hmarks : ∀ c ∈ g.baseUrl.toList, c ≠ '?' ∧ c ≠ '#') :
    (∀ base, Url.parse g.baseUrl = .ok base → base.kind = .special →
      (∀ c, g.baseUrl.toList.getLast? = some c → 32 < c.toNat) →
        ∃ u, Url.parse (g.endpoint resource) = .ok u ∧ u.scheme = base.scheme ∧
          u.authority = base.authority) ∧
    ∀ u, Url.parse (g.endpoint resource) = .ok u → u.kind = .special →
      (∀ id, Url.IsLiteral id → ∃ segment,
        g.itemEndpoint resource id = .ok (u.text ++ "/" ++ String.ofList segment) ∧
          Url.Denotes segment id) ∧
      ∀ other ∈ collections, ∀ id last url, Url.IsLiteral id → Url.IsLiteral last →
        g.itemEndpoint resource id = .ok url → g.itemEndpoint other last = .ok url →
          resource = other ∧ id = last := by
  have hname := isName_of_mem_collections hresource
  refine ⟨fun base hbase hkind hend => exists_parse_endpoint hname hbase hkind hmarks hend,
    fun u hparse hkind => ⟨fun id hid => ?_, ?_⟩⟩
  · obtain ⟨parent, hcollection⟩ := isCollection_of_parse hname hmarks hparse hkind
    exact ⟨_, itemEndpoint_of_isCollection hparse hcollection hid, Url.denotes_encode id⟩
  · intro other hother id last url hid hlast hurl hagain
    exact eq_of_itemEndpoint_eq hresource hother hmarks hparse hkind hid hlast hurl hagain

end Gateway

end CredentialWallet

namespace CredentialWallet.Gateway

open Sample

/-- An id that looks like encoded dots is an item, and not the one of the same dots in capitals. -/
theorem itemEndpoint_denotes_dots :
    ∃ u segment, Url.parse (service.gateway.endpoint "credentials") = .ok u ∧
      service.gateway.itemEndpoint "credentials" "%2e%2e" =
        .ok (u.text ++ "/" ++ String.ofList segment) ∧ Url.Denotes segment "%2e%2e" ∧
      service.gateway.itemEndpoint "credentials" "%2E%2E" ≠
        .ok (u.text ++ "/" ++ String.ofList segment) := by
  have hmarks : ∀ c ∈ service.gateway.baseUrl.toList, c ≠ '?' ∧ c ≠ '#' :=
    List.all_iff_forall_prop.1 (by decide +kernel)
  have hresource : "credentials" ∈ collections := by decide
  have hid : Url.IsLiteral "%2e%2e" :=
    ⟨by decide, by decide, List.all_iff_forall_prop.1 (by decide)⟩
  have hlast : Url.IsLiteral "%2E%2E" :=
    ⟨by decide, by decide, List.all_iff_forall_prop.1 (by decide)⟩
  have hparse : Url.parse (service.gateway.endpoint "credentials") = .ok {
      scheme := "http"
      authority := some ⟨[], [], "[::1]".toList, none⟩
      route := .segments (["diagency", "v1.0", "diagency", "credentials"].map String.toList)
      query := none
      fragment := none } := by decide +kernel
  obtain ⟨hitems, hunique⟩ := (itemEndpoint_denotes hresource hmarks).2 _ hparse rfl
  obtain ⟨segment, hitem, hdenotes⟩ := hitems "%2e%2e" hid
  refine ⟨_, segment, hparse, hitem, hdenotes, fun hagain => ?_⟩
  exact absurd (hunique "credentials" hresource _ _ _ hid hlast hitem hagain).2 (by decide)

end CredentialWallet.Gateway
