import CredentialWallet.Proofs.Names
import CredentialWallet.Proofs.Reading
/-!
# Where web addresses lead

A web address names a site, which is its scheme, its host and its port, and may name a user in front of
them. All of that is read from the text between the scheme and the first slash behind a host. So what is
put behind that slash moves no address to another site, and an address that has been read and written
again is still the same site's.
-/

namespace CredentialWallet.Url

/-- The scheme, the host and the port of an address. -/
structure Site where
  scheme : String
  host : List Char
  port : Option Nat
deriving DecidableEq

/-- The authority of a site, in which nobody is named. -/
def Site.authority (site : Site) : Authority := ⟨[], [], site.host, site.port⟩

def site? (u : Url) : Option Site := u.authority.map fun a => ⟨u.scheme, a.host, a.port⟩

/-! ### Places -/

def isMark (c : Char) : Bool := c = '?' || c = '#'

/-- The text of the authority in what stands behind the scheme of a web address. -/
def authorityIn (rest : List Char) : List Char := (splitPlace (rest.takeWhile (!isMark ·))).1

/-- The scheme of a text and the text of the authority behind it, if the text is a web address. -/
def placeIn? (cs : List Char) : Option (String × List Char) :=
  (splitScheme (Text.trimBoth (·.toNat ≤ 32) cs)).map fun parts => (parts.1, authorityIn parts.2)

/-- The user and the password in the text of an authority. -/
def userIn (authority : List Char) : List Char × List Char :=
  splitUser ((splitUserInfo authority).getD ([], authority)).1

/-- The user and the password that a text names, if it is a web address. -/
def userOf (raw : String) : List Char × List Char := userIn ((placeIn? raw.toList).elim [] (·.2))

theorem splitBefore_marks (rest : List Char) :
    (splitBefore (· = '?') (splitBefore (· = '#') rest).1).1 = rest.takeWhile (!isMark ·) := by
  simp only [splitBefore, List.takeWhile_takeWhile]
  congr 1
  funext c
  simp [isMark]

theorem scheme_eq_of_place {raw scheme : String} {text : List Char} {u : Url} (h : parse raw = .ok u)
    (hplace : placeIn? raw.toList = some (scheme, text)) : u.scheme = scheme := by
  obtain ⟨rest, hsplit⟩ := exists_splitScheme_of_parse h
  rw [placeIn?, hsplit] at hplace
  exact congrArg Prod.fst (Option.some.inj hplace)

/-- What is read of a web address is what its place says. -/
theorem exists_place_of_parse {raw : String} {u : Url} (h : parse raw = .ok u)
    (hkind : u.kind = .special) :
    ∃ text a path, placeIn? raw.toList = some (u.scheme, text) ∧
      Authority.parse u.scheme false text = .ok a ∧ u.authority = some a.1 ∧
      u.route = .segments path := by
  rw [parse] at h
  dsimp only at h
  split at h
  · cases h
  · rename_i scheme rest hsplit
    obtain ⟨found, hfound, hu⟩ := bind_eq_ok_iff.1 h
    obtain rfl := Except.ok.inj hu
    change schemeKind scheme = .special at hkind
    simp only [splitBefore_marks, parseBody, hkind] at hfound
    obtain ⟨a, ha, hroute⟩ := bind_eq_ok_iff.1 hfound
    obtain rfl := Except.ok.inj hroute
    refine ⟨authorityIn rest, a, _, ?_, Authority.parse_of_ended hkind ha false, rfl, rfl⟩
    rw [placeIn?, hsplit]
    rfl

/-- A text whose place is the one of a web address is one as well, at the same place. -/
theorem exists_parse_of_same_place {raw other : String} {u : Url} (h : parse raw = .ok u)
    (hkind : u.kind = .special) (hsame : placeIn? other.toList = placeIn? raw.toList) :
    ∃ v path, parse other = .ok v ∧ v.scheme = u.scheme ∧ v.authority = u.authority ∧
      v.route = .segments path := by
  obtain ⟨text, a, _, hplace, ha, hauthority, -⟩ := exists_place_of_parse h hkind
  rw [← hsame, placeIn?, Option.map_eq_some_iff] at hplace
  obtain ⟨⟨scheme, rest⟩, hsplit, hparts⟩ := hplace
  obtain ⟨rfl, rfl⟩ := Prod.mk.inj hparts
  have hagain := Authority.parse_of_ended hkind ha
  rw [authorityIn, splitPlace] at hagain
  have hscheme : schemeKind u.scheme = .special := hkind
  rw [parse]
  simp only [hsplit, splitBefore_marks, parseBody, hscheme, hagain]
  exact ⟨_, _, rfl, rfl, hauthority.symm, rfl⟩

/-! ### Texts that go on -/

section

variable {α : Type} (test : α → Bool) (before behind : List α)

theorem exists_takeWhile_append :
    ∃ more ⊆ behind, (before ++ behind).takeWhile test = before.takeWhile test ++ more := by
  rw [List.takeWhile_append]
  split
  · rename_i hall
    rw [(List.takeWhile_prefix test).eq_of_length hall]
    exact ⟨_, (List.takeWhile_prefix _).subset, rfl⟩
  · exact ⟨[], List.nil_subset _, (List.append_nil _).symm⟩

theorem exists_dropWhile_append :
    ∃ more ⊆ behind, (before ++ behind).dropWhile test = before.dropWhile test ++ more := by
  rw [List.dropWhile_append]
  split
  · rename_i hnil
    rw [List.isEmpty_iff.1 hnil]
    exact ⟨_, (List.dropWhile_suffix _).subset, rfl⟩
  · exact ⟨behind, List.Subset.refl _, rfl⟩

end

theorem exists_authorityIn_append (rest behind : List Char) :
    ∃ more ⊆ behind, authorityIn (rest ++ behind) = authorityIn rest ++ more := by
  obtain ⟨front, hfront, htake⟩ := exists_takeWhile_append (!isMark ·) rest behind
  obtain ⟨place, hplace, hdrop⟩ := exists_dropWhile_append (isSlash .special)
    (Path.kept (rest.takeWhile (!isMark ·))) (Path.kept front)
  obtain ⟨more, hmore, hauthority⟩ := exists_takeWhile_append (!isSlash .special ·)
    ((Path.kept (rest.takeWhile (!isMark ·))).dropWhile (isSlash .special)) place
  refine ⟨more, ?_, ?_⟩
  · exact List.Subset.trans (List.Subset.trans hmore hplace)
      (List.Subset.trans List.filter_sublist.subset hfront)
  · rw [authorityIn, htake, splitPlace, splitBefore, Path.kept, List.filter_append, ← Path.kept,
      ← Path.kept, hdrop, hauthority]
    rfl

theorem authorityIn_append_slash {d : Char} (hmark : isMark d = false)
    (hslash : isSlash .special d = false) (hkept : Path.isDropped d = false) (rest more : List Char) :
    authorityIn (rest ++ d :: '/' :: more) = authorityIn (rest ++ [d]) := by
  have hstop : isSlash .special '/' = true := by decide
  have hfront : isMark '/' = false := by decide
  have hstays : Path.isDropped '/' = false := by decide
  rw [authorityIn, authorityIn, List.takeWhile_append, List.takeWhile_append]
  split
  · simp only [List.takeWhile_cons, List.takeWhile_nil, hmark, hfront, Bool.not_false, if_true]
    simp only [splitPlace, Path.kept, List.filter_append, List.filter_cons, List.filter_nil, hkept,
      hstays, Bool.not_false, if_true, Text.dropWhile_append_cons hslash]
    rw [← List.singleton_append, ← List.append_assoc, splitBefore_append_cons hstop]
  · rfl

theorem placeIn?_append_slash {d : Char} {more : List Char} (hvisible : 32 < d.toNat) (hcolon : d ≠ ':')
    (hmark : isMark d = false) (hslash : isSlash .special d = false)
    (hmore : ∀ c ∈ more, 32 < c.toNat ∧ c ≠ ':') (before : List Char) :
    placeIn? (before ++ d :: '/' :: more) = placeIn? (before ++ [d]) := by
  have hkept : Path.isDropped d = false := by
    have hall : Path.kept [d] = [d] := Path.kept_eq_self (by simpa using hvisible)
    simpa [Path.kept] using hall
  have hbehind : ∀ c ∈ d :: '/' :: more, 32 < c.toNat ∧ c ≠ ':' := by
    simp only [List.forall_mem_cons]
    exact ⟨⟨hvisible, hcolon⟩, by decide, hmore⟩
  have hone : ∀ c ∈ [d], 32 < c.toNat ∧ c ≠ ':' := by simp [hvisible, hcolon]
  have hplace {behind : List Char} (hne : behind ≠ []) (h : ∀ c ∈ behind, 32 < c.toNat ∧ c ≠ ':') :
      placeIn? (before ++ behind) = (splitScheme (before.dropWhile (·.toNat ≤ 32))).map fun parts =>
        (parts.1, authorityIn (parts.2 ++ behind)) := by
    have htrim : ∀ c ∈ behind, decide (c.toNat ≤ 32) = false := fun c hc =>
      decide_eq_false (Nat.not_le.2 (h c hc).1)
    rw [placeIn?, Text.trimBoth_append hne htrim, splitScheme_append fun hmem => (h _ hmem).2 rfl,
      Option.map_map]
    rfl
  rw [hplace (List.cons_ne_nil _ _) hbehind, hplace (List.cons_ne_nil _ _) hone]
  simp only [authorityIn_append_slash hmark hslash hkept]

/-! ### Users -/

theorem splitUserInfo_eq_none {cs : List Char} (h : '@' ∉ cs) : splitUserInfo cs = none := by
  have hall : cs.reverse.takeWhile (· ≠ '@') = cs.reverse := by
    refine List.takeWhile_eq_self_iff.2 fun c hc => decide_eq_true ?_
    rintro rfl
    exact h (List.mem_reverse.1 hc)
  rw [splitUserInfo, hall, List.length_reverse]
  exact if_neg (Nat.lt_irrefl _)

theorem splitUserInfo_append_cons {behind : List Char} (h : '@' ∉ behind) (before : List Char) :
    splitUserInfo (before ++ '@' :: behind) = some (before, behind) := by
  have hbehind : ∀ c ∈ behind.reverse, decide (c ≠ '@') = true := by
    refine fun c hc => decide_eq_true ?_
    rintro rfl
    exact h (List.mem_reverse.1 hc)
  have htaken : (before ++ '@' :: behind).reverse.takeWhile (· ≠ '@') = behind.reverse := by
    rw [List.reverse_append, List.reverse_cons, List.append_assoc, List.takeWhile_append_of_pos hbehind]
    simp
  have hfront : (before ++ '@' :: behind).length - behind.length - 1 = before.length := by
    rw [List.length_append, List.length_cons]
    omega
  have hlonger : behind.length < (before ++ '@' :: behind).length := by
    rw [List.length_append, List.length_cons]
    omega
  simp only [splitUserInfo, htaken, List.length_reverse, hlonger, if_true, hfront, List.take_left,
    List.reverse_reverse]

theorem userIn_append {more : List Char} (h : '@' ∉ more) (text : List Char) :
    userIn (text ++ more) = userIn text := by
  by_cases hat : '@' ∈ text
  · obtain ⟨behind, before, hsplit, hlast⟩ :=
      List.eq_append_cons_of_mem (List.mem_reverse.2 hat)
    obtain rfl : text = before.reverse ++ '@' :: behind.reverse := by
      rw [← List.reverse_reverse text, hsplit]
      simp
    have hbehind : '@' ∉ behind.reverse := by simpa using hlast
    rw [userIn, userIn, List.append_assoc, List.cons_append, splitUserInfo_append_cons hbehind,
      splitUserInfo_append_cons (by simp [hlast, h])]
    rfl
  · rw [userIn, userIn, splitUserInfo_eq_none hat, splitUserInfo_eq_none (by simp [hat, h])]
    rfl

theorem userOf_append {s behind : String}
    (hbehind : ∀ c ∈ behind.toList, 32 < c.toNat ∧ c ≠ ':' ∧ c ≠ '@') :
    userOf (s ++ behind) = userOf s := by
  by_cases hne : behind.toList = []
  · rw [String.toList_eq_nil_iff.1 hne, String.append_empty]
  obtain ⟨blank, hblank, hfront⟩ := Text.exists_dropWhile_eq_trimBoth_append (·.toNat ≤ 32) s.toList
  have hnot {c : Char} (hc : 32 < c.toNat) : c ∉ blank := fun hmem => by
    have hsmall : c.toNat ≤ 32 := of_decide_eq_true (hblank c hmem)
    omega
  have hcolon : ':' ∉ blank ++ behind.toList := by
    rw [List.mem_append]
    rintro (hmem | hmem)
    · exact hnot (by decide) hmem
    · exact (hbehind _ hmem).2.1 rfl
  have hat : '@' ∉ blank ++ behind.toList := by
    rw [List.mem_append]
    rintro (hmem | hmem)
    · exact hnot (by decide) hmem
    · exact (hbehind _ hmem).2.2 rfl
  have htrim : ∀ c ∈ behind.toList, decide (c.toNat ≤ 32) = false := fun c hc =>
    decide_eq_false (Nat.not_le.2 (hbehind c hc).1)
  rw [userOf, userOf, String.toList_append, placeIn?, Text.trimBoth_append hne htrim, hfront,
    List.append_assoc, splitScheme_append hcolon, placeIn?]
  rcases splitScheme (Text.trimBoth (·.toNat ≤ 32) s.toList) with _ | ⟨scheme, rest⟩
  · rfl
  · obtain ⟨more, hmore, hauthority⟩ := exists_authorityIn_append rest (blank ++ behind.toList)
    simp only [Option.map_some, Option.elim_some, hauthority]
    exact userIn_append (fun hmem => hat (hmore hmem)) _

end CredentialWallet.Url
