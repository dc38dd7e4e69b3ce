import Mathlib.Data.Bool.AllAny
import CredentialWallet.Proofs.Atomicity
import CredentialWallet.Proofs.Item
import CredentialWallet.Proofs.Reading
/-!
# Where items stand

The address of a collection is the base URL of a gateway and a few segments behind it. Whatever the base
URL is, the path that is read from such an address ends in the name of the collection, so the address of
an item is the work of one push, and what a push does with an id decides what the id can address.
-/

namespace CredentialWallet

/-! ### Collections behind a base URL -/

namespace Gateway

private def agency : List Char := ['d', 'i', 'a', 'g', 'e', 'n', 'c', 'y']

private def version : List Char := ['v', '1', '.', '0']

/-- What the address of a resource has behind the base URL. -/
def tail (resource : String) : List Char :=
  '/' :: (agency ++ '/' :: (version ++ '/' :: (agency ++ '/' :: resource.toList)))

theorem endpoint_toList (g : Gateway) (resource : String) :
    (g.endpoint resource).toList = g.baseUrl.toList ++ tail resource := by
  simp [endpoint, tail, apiPath, agency, version]
  rfl

theorem mem_tail {resource : String} {c : Char} (hc : c ∈ tail resource) :
    c ∈ resource.toList ∨ 32 < c.toNat ∧ c ≠ ':' ∧ c ≠ '?' ∧ c ≠ '#' := by
  have hfront : ∀ c ∈ '/' :: (agency ++ version), 32 < c.toNat ∧ c ≠ ':' ∧ c ≠ '?' ∧ c ≠ '#' :=
    List.all_iff_forall_prop.1 (by decide)
  refine or_iff_not_imp_left.2 fun hname => hfront c ?_
  simp only [tail, List.mem_cons, List.mem_append, hname, or_false] at hc ⊢
  grind

theorem parse_endpoint_of_colon_notMem {g : Gateway} {resource : String}
    (hbase : ':' ∉ g.baseUrl.toList) (hresource : ':' ∉ resource.toList) :
    Url.parse (g.endpoint resource) = .error .relative := by
  refine Url.parse_of_colon_notMem ?_
  rw [endpoint_toList, List.mem_append, not_or]
  exact ⟨hbase, fun hmem => (mem_tail hmem).elim hresource fun hplain => hplain.2.1 rfl⟩

theorem splitScheme_endpoint {resource : String} (g : Gateway)
    (hresource : ∀ c ∈ resource.toList, 32 < c.toNat ∧ c ≠ ':') :
    Url.splitScheme (Text.trimBoth (·.toNat ≤ 32) (g.endpoint resource).toList) =
      (Url.splitScheme (g.baseUrl.toList.dropWhile (·.toNat ≤ 32))).map
        fun parts => (parts.1, parts.2 ++ tail resource) := by
  have htail : ∀ c ∈ tail resource, 32 < c.toNat ∧ c ≠ ':' := fun c hc =>
    (mem_tail hc).elim (hresource c) fun h => ⟨h.1, h.2.1⟩
  have hvisible : ∀ c ∈ tail resource, decide (c.toNat ≤ 32) = false := fun c hc =>
    decide_eq_false (Nat.not_le.2 (htail c hc).1)
  have hcolon : ':' ∉ tail resource := fun hmem => (htail _ hmem).2 rfl
  have hne : tail resource ≠ [] := List.cons_ne_nil _ _
  rw [endpoint_toList, Text.trimBoth_append hne hvisible, Url.splitScheme_append hcolon]

section

variable {resource : String} (h : Url.IsName resource.toList)
include h

theorem plain_of_mem_tail {c : Char} (hc : c ∈ tail resource) :
    32 < c.toNat ∧ c ≠ ':' ∧ c ≠ '?' ∧ c ≠ '#' :=
  (mem_tail hc).elim (fun hname => ⟨h.visible c hname, h.noMark c hname⟩) id

theorem kept_append_tail (rest : List Char) :
    Url.Path.kept (rest ++ tail resource) = Url.Path.kept rest ++ tail resource := by
  rw [Url.Path.kept, List.filter_append, ← Url.Path.kept, ← Url.Path.kept,
    Url.Path.kept_eq_self fun c hc => (plain_of_mem_tail h hc).1]

omit h in
theorem splitPlace_append_tail (rest : List Char) :
    ∃ before, ∀ {resource : String}, Url.IsName resource.toList →
      (Url.splitPlace (rest ++ tail resource)).2 = before ++ '/' :: resource.toList := by
  have hd : Url.isSlash .special 'd' = false := by decide
  have hslash : Url.isSlash .special '/' = true := by decide
  refine ⟨(Url.splitBefore (Url.isSlash .special)
    ((Url.Path.kept rest ++ ['/']).dropWhile (Url.isSlash .special) ++ 'd' :: agency.tail)).2 ++
      '/' :: (version ++ '/' :: agency), fun {resource} h => ?_⟩
  have htail : Url.Path.kept rest ++ tail resource = (Url.Path.kept rest ++ ['/']) ++ 'd' ::
      (agency.tail ++ '/' :: (version ++ '/' :: (agency ++ '/' :: resource.toList))) := by
    rw [List.append_assoc]
    rfl
  rw [Url.splitPlace, kept_append_tail h, htail, Text.dropWhile_append_cons hd, ← List.cons_append,
    ← List.append_assoc, Url.splitBefore_append_cons hslash]
  simp only [List.append_assoc, List.cons_append]

theorem splitPlace_append_tail_of_ne_nil {rest : List Char} (hhost : (Url.splitPlace rest).1 ≠ []) :
    Url.splitPlace (rest ++ tail resource) =
      ((Url.splitPlace rest).1, (Url.splitPlace rest).2 ++ tail resource) := by
  have hslash : Url.isSlash .special '/' = true := by decide
  have hplace : (Url.Path.kept rest).dropWhile (Url.isSlash .special) ≠ [] := by
    intro hnil
    rw [Url.splitPlace, hnil] at hhost
    exact hhost rfl
  rw [Url.splitPlace, kept_append_tail h, List.dropWhile_append, if_neg (by simpa using hplace), tail,
    Url.splitBefore_append_cons hslash]
  rfl

theorem colon_mem_of_parse {g : Gateway} {u : Url} (hparse : Url.parse (g.endpoint resource) = .ok u) :
    ':' ∈ g.baseUrl.toList := by
  by_contra hnone
  rw [parse_endpoint_of_colon_notMem hnone fun hmem => (h.visible_ne_colon _ hmem).2 rfl] at hparse
  cases hparse

/-- What stands between the scheme and the name of a resource has no marks if the base URL has none. -/
theorem noMark_append_tail {g : Gateway} (hmarks : ∀ c ∈ g.baseUrl.toList, c ≠ '?' ∧ c ≠ '#')
    {scheme : String} {front : List Char}
    (hfront : Url.splitScheme (g.baseUrl.toList.dropWhile (·.toNat ≤ 32)) = some (scheme, front)) :
    ∀ c ∈ front ++ tail resource, c ≠ '?' ∧ c ≠ '#' := by
  intro c hc
  rcases List.mem_append.1 hc with hc | hc
  · exact hmarks c ((List.dropWhile_suffix _).subset (Url.mem_of_splitScheme hfront hc))
  · exact (plain_of_mem_tail h hc).2.2

/-- Behind a base URL that is a web address, every resource has an address at the same place. -/
theorem exists_parse_endpoint {g : Gateway} {base : Url} (hbase : Url.parse g.baseUrl = .ok base)
    (hkind : base.kind = .special) (hmarks : ∀ c ∈ g.baseUrl.toList, c ≠ '?' ∧ c ≠ '#')
    (hend : ∀ c, g.baseUrl.toList.getLast? = some c → 32 < c.toNat) :
    ∃ u, Url.parse (g.endpoint resource) = .ok u ∧ u.scheme = base.scheme ∧
      u.authority = base.authority := by
  have htrim : Text.trimBoth (·.toNat ≤ 32) g.baseUrl.toList =
      g.baseUrl.toList.dropWhile (·.toNat ≤ 32) :=
    Text.trimBoth_eq_dropWhile fun c hc => decide_eq_false (Nat.not_le.2 (hend c hc))
  obtain ⟨front, hsplit⟩ := Url.exists_splitScheme_of_parse hbase
  have hfront := htrim ▸ hsplit
  have hnoMark := noMark_append_tail h hmarks hfront
  rw [Url.parse_of_special hsplit hkind fun c hc => hnoMark c (List.mem_append_left _ hc),
    map_eq_ok_iff] at hbase
  obtain ⟨a, ha, hu⟩ := hbase
  have hendpoint := splitScheme_endpoint g h.visible_ne_colon
  rw [hfront] at hendpoint
  have hplace := splitPlace_append_tail_of_ne_nil h (Url.Authority.ne_nil hkind ha)
  have hparse := Url.parse_of_special hendpoint hkind hnoMark
  have htail : ((Url.splitPlace front).2 ++ tail resource).isEmpty = false := by
    simp [tail]
  rw [hplace, htail, Url.Authority.parse_of_ended hkind ha false] at hparse
  have hauthority : some a.1 = base.authority := congrArg Url.authority hu
  exact ⟨_, hparse, rfl, hauthority⟩

theorem isCollection_of_parse {g : Gateway} {u : Url}
    (hmarks : ∀ c ∈ g.baseUrl.toList, c ≠ '?' ∧ c ≠ '#')
    (hparse : Url.parse (g.endpoint resource) = .ok u) (hkind : u.kind = .special) :
    ∃ parent, u.IsCollection parent resource.toList := by
  obtain ⟨rest, hsplit⟩ := Url.exists_splitScheme_of_parse hparse
  have hscheme := hsplit
  rw [splitScheme_endpoint g h.visible_ne_colon, Option.map_eq_some_iff] at hscheme
  obtain ⟨⟨scheme, front⟩, hfront, hrest⟩ := hscheme
  obtain ⟨rfl, rfl⟩ := Prod.mk.inj hrest
  obtain ⟨before, hplace⟩ := splitPlace_append_tail front
  obtain ⟨parent, hparent⟩ := Url.exists_pathBehind before
  rw [Url.parse_of_special hsplit hkind (noMark_append_tail h hmarks hfront), map_eq_ok_iff] at hparse
  obtain ⟨a, _, hu⟩ := hparse
  rw [hplace h, hparent h] at hu
  refine ⟨parent, ?_⟩
  rw [← hu] at hkind ⊢
  exact ⟨hkind, ⟨a.1, rfl⟩, rfl, rfl, rfl, h.ne_nil, h.noDrive⟩

end

/-! ### Items of a collection -/

/-- The resources that are reached by an id. -/
def collections : List String := ["connections", "credentials", "invitations", "verifications"]

theorem isName_of_mem_collections {resource : String} (h : resource ∈ collections) :
    Url.IsName resource.toList := by
  simp only [collections, List.mem_cons, List.not_mem_nil, or_false] at h
  rcases h with rfl | rfl | rfl | rfl <;> decide

/-- The address of an item is the address of its collection and one more segment for every id but three
kinds. The two dot segments leave the address of the collection as it is, and an id that reads as two
dots only once tabs and line breaks are dropped from it leads to the parent. Behind a base URL that is a
web address and does not end in a blank, every collection has an address at the same place. -/
theorem itemEndpoint_isItemOf_iff {g : Gateway} {resource : String} (hresource : resource ∈ collections)
    (hmarks : ∀ c ∈ g.baseUrl.toList, c ≠ '?' ∧ c ≠ '#') :
    (∀ base, Url.parse g.baseUrl = .ok base → base.kind = .special →
      (∀ c, g.baseUrl.toList.getLast? = some c → 32 < c.toNat) →
        ∃ u, Url.parse (g.endpoint resource) = .ok u ∧ u.scheme = base.scheme ∧
          u.authority = base.authority) ∧
    ∀ u, Url.parse (g.endpoint resource) = .ok u → u.kind = .special →
      ∃ parent, u.route = .segments (parent ++ [resource.toList]) ∧
        ∀ id, ∃ item : Url, g.itemEndpoint resource id = .ok item.text ∧
          (item.IsItemOf u ↔ id ≠ "." ∧ Url.Path.kept id.toList ≠ ['.', '.']) ∧
          (id = "." ∨ id = ".." → item = u) ∧
          (id ≠ ".." → Url.Path.kept id.toList = ['.', '.'] →
            item = { u with route := .segments (parent ++ [[]]) }) := by
  have hname := isName_of_mem_collections hresource
  refine ⟨fun base hbase hkind hend => exists_parse_endpoint hname hbase hkind hmarks hend,
    fun u hparse hkind => ?_⟩
  obtain ⟨parent, hcollection⟩ := isCollection_of_parse hname hmarks hparse hkind
  refine ⟨parent, hcollection.route, fun id => ?_⟩
  refine ⟨_, ?_, hcollection.isItemOf_iff hcollection.push?_eq, ?_, ?_⟩
  · rw [itemEndpoint, hparse]
    simp only [hcollection.push?_eq]
  · intro hdots
    rw [Url.itemPath, if_pos hdots, ← hcollection.route]
  · intro hpair hdots
    have hone : id ≠ "." := by
      rintro rfl
      exact absurd hdots (by decide)
    rw [Url.itemPath, if_neg (by simp [hone, hpair]), if_pos hdots]

end Gateway

end CredentialWallet

namespace CredentialWallet.Gateway

open Sample

/-- An id with separators in it is one segment of an item. -/
theorem itemEndpoint_isItemOf_iff_slash :
    ∃ u item : Url, Url.parse (service.gateway.endpoint "credentials") = .ok u ∧
      service.gateway.itemEndpoint "credentials" "a/b?x=1" = .ok item.text ∧ item.IsItemOf u := by
  have hbase : Url.parse service.gateway.baseUrl =
      .ok ⟨"http", some ⟨[], [], "[::1]".toList, none⟩, .segments [[]], none, none⟩ := by
    decide +kernel
  have hmarks : ∀ c ∈ service.gateway.baseUrl.toList, c ≠ '?' ∧ c ≠ '#' :=
    List.all_iff_forall_prop.1 (by decide +kernel)
  have hend : service.gateway.baseUrl.toList.getLast? = some ']' := by decide +kernel
  have hresource : "credentials" ∈ collections := by decide
  obtain ⟨hexists, hitems⟩ := itemEndpoint_isItemOf_iff hresource hmarks
  obtain ⟨u, hparse, hscheme, -⟩ := hexists _ hbase rfl fun c hc => by
    rw [hend] at hc
    obtain rfl := Option.some.inj hc
    decide
  have hkind : u.kind = .special := by
    rw [Url.kind, hscheme]
    rfl
  obtain ⟨parent, -, hids⟩ := hitems u hparse hkind
  obtain ⟨item, hitem, hiff, -⟩ := hids "a/b?x=1"
  exact ⟨u, item, hparse, hitem, hiff.2 (by decide)⟩

/-- A dot leads to the collection, and two dots with a tab between them to its parent. -/
theorem itemEndpoint_of_dots :
    service.gateway.itemEndpoint "credentials" "." = .ok (service.gateway.endpoint "credentials") ∧
      service.gateway.itemEndpoint "credentials" ".\t." =
        .ok "http://[::1]/diagency/v1.0/diagency/" := by
  decide +kernel

end CredentialWallet.Gateway
