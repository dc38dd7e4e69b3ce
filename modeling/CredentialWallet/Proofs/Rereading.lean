import CredentialWallet.Proofs.Site
/-!
# Web addresses that are read again

Once an address has been read, its scheme, its host and its port stand in their final form. Written
down, that form is made of characters that end nothing and name nobody, so it is read to itself: an
address that was read, written and read again leads to the site it led to.
-/

namespace CredentialWallet.Url

/-! ### Schemes -/

theorem mem_of_special {scheme : String} (h : schemeKind scheme = .special) :
    scheme ∈ ["http", "https", "ftp", "ws", "wss"] := by
  by_contra hnone
  rw [schemeKind, if_neg hnone] at h
  split at h <;> cases h

theorem splitScheme_of_special {scheme : String} (h : schemeKind scheme = .special)
    (rest : List Char) : splitScheme (scheme.toList ++ ':' :: rest) = some (scheme, rest) := by
  have hcolon : ':' ∈ scheme.toList ++ [':'] := by simp
  have hread : ∀ scheme ∈ ["http", "https", "ftp", "ws", "wss"],
      splitScheme (scheme.toList ++ [':']) = some (scheme, []) := by decide +kernel
  rw [List.append_cons, splitScheme_append_of_mem hcolon, hread scheme (mem_of_special h)]
  rfl

/-! ### Characters of an authority -/

/-- Whether a character neither ends an authority nor sets a user off from it. -/
def isInner (c : Char) : Bool := 32 < c.toNat && c ≠ '@' && !isMark c && !isSlash .special c

theorem isInner_iff {c : Char} :
    isInner c = true ↔ 32 < c.toNat ∧ c ≠ '@' ∧ isMark c = false ∧ isSlash .special c = false := by
  simp [isInner, and_assoc]

theorem isInner_digitChar {d : Nat} (hd : d < 16) : isInner (Nat.digitChar d) = true := by
  have hdigits : ∀ d < 16, isInner (Nat.digitChar d) = true := by decide
  exact hdigits d hd

namespace Host

theorem isInner_of_isNameChar {c : Char} (h : isNameChar c = true) :
    isInner c = true ∧ c ≠ ':' ∧ c ≠ '[' := by
  have hnames : ∀ n < 128, isNameChar (Char.ofNat n) = true →
      isInner (Char.ofNat n) = true ∧ Char.ofNat n ≠ ':' ∧ Char.ofNat n ≠ '[' := by decide +kernel
  have hascii := (Domain.isPlain_iff.1 (isNameChar_iff.1 h).1).1
  rw [← Char.ofNat_toNat c] at h ⊢
  exact hnames c.toNat hascii h

theorem IsFinal.ne_nil {host : List Char} (h : IsFinal host) : host ≠ [] := by
  cases h with
  | name hname => exact hname.ne_nil
  | bracketed _ _ => exact List.cons_ne_nil _ _

theorem IsFinal.isInner {host : List Char} (h : IsFinal host) : ∀ c ∈ host, isInner c = true := by
  cases h with
  | name hname => exact fun c hc => (isInner_of_isNameChar (hname.chars c hc)).1
  | bracketed hchars _ =>
    intro c hc
    simp only [List.mem_cons, List.mem_append, List.not_mem_nil, or_false] at hc
    rcases hc with rfl | hc | rfl
    · decide
    · rcases hchars c hc with rfl | ⟨d, hd, rfl⟩
      · decide
      · exact isInner_digitChar hd
    · decide

end Host

/-! ### Hosts in front of a port -/

theorem splitHost_append {host : List Char} (h : ∀ c ∈ host, c ≠ ':' ∧ c ≠ '[') {behind : List Char}
    (hbehind : behind.head?.all (· = ':') = true) : splitHost false (host ++ behind) = (host, behind) := by
  induction host with
  | nil =>
    cases behind with
    | nil => rfl
    | cons c rest =>
      have hc : c = ':' := by simpa using hbehind
      simp [splitHost, hc]
  | cons c rest ih =>
    obtain ⟨hcolon, hbracket⟩ := h c List.mem_cons_self
    have hrest := ih fun d hd => h d (List.mem_cons_of_mem c hd)
    simp [splitHost, hcolon, hbracket, hrest]

theorem splitHost_append_bracket {inner : List Char} (h : ']' ∉ inner) (behind : List Char) :
    splitHost true (inner ++ ']' :: behind) =
      (inner ++ ']' :: (splitHost false behind).1, (splitHost false behind).2) := by
  induction inner with
  | nil => simp [splitHost]
  | cons c rest ih =>
    rw [List.mem_cons, not_or] at h
    have hrest := ih h.2
    simp [splitHost, Ne.symm h.1, hrest]

theorem Host.IsFinal.splitHost_append {host behind : List Char} (h : IsFinal host)
    (hbehind : behind.head?.all (· = ':') = true) : splitHost false (host ++ behind) = (host, behind) := by
  cases h with
  | name hname =>
    exact Url.splitHost_append (fun c hc => (isInner_of_isNameChar (hname.chars c hc)).2) hbehind
  | @bracketed inner hchars _ =>
    have hclose : ']' ∉ inner := by
      intro hmem
      rcases hchars _ hmem with hcolon | ⟨d, hd, hdigit⟩
      · cases hcolon
      · have hdigits : ∀ d < 16, Nat.digitChar d ≠ ']' := by decide
        exact hdigits d hd hdigit.symm
    have hnone : splitHost false behind = ([], behind) := @Url.splitHost_append [] nofun behind hbehind
    simp [splitHost, splitHost_append_bracket hclose, hnone]

/-! ### Ports -/

/-- A port that is read is none or one that must be written. -/
def IsPort (scheme : String) (port : Option Nat) : Prop :=
  ∀ n, port = some n → n ≤ 65535 ∧ defaultPort? scheme ≠ some n

theorem isPort_of_parsePort {scheme : String} {cs : List Char} {found : Option Nat × List Char}
    (h : parsePort scheme cs = .ok found) : IsPort scheme found.1 := by
  rw [parsePort] at h
  split at h
  · cases h
  · split at h
    · cases h
    · split at h
      · cases h
      · rename_i n _ hsmall
        split at h
        · obtain rfl := Except.ok.inj h
          exact nofun
        · rename_i hwritten
          obtain rfl := Except.ok.inj h
          rintro _ ⟨⟩
          rw [Bool.or_eq_true, not_or] at hwritten
          exact ⟨by omega, fun hdefault => hwritten.2 (decide_eq_true hdefault)⟩

def portText (port : Option Nat) : List Char := port.elim [] fun n => ':' :: Nat.toDigits 10 n

theorem parsePort_portText {scheme : String} {port : Option Nat} (h : IsPort scheme port) :
    parsePort scheme ((portText port).drop 1) = .ok (port, []) := by
  cases port with
  | none => rfl
  | some n =>
    obtain ⟨hsmall, hdefault⟩ := h n rfl
    have hdigits : ∀ c ∈ Nat.toDigits 10 n, decide (c = '\\') = false := by
      intro c hc
      refine decide_eq_false ?_
      rintro rfl
      exact absurd (Nat.isDigit_of_mem_toDigits (by decide) (by decide) hc) (by decide)
    have hall : (Nat.toDigits 10 n).all Char.isDigit = true :=
      List.all_eq_true.2 fun c hc => Nat.isDigit_of_mem_toDigits (by decide) (by decide) hc
    have hne : (Nat.toDigits 10 n).isEmpty = false := by
      simp
    have hlarge : ¬ 65535 < n := by omega
    simp [portText, parsePort, splitBefore_eq_self hdigits, hall, hne, hlarge, hdefault,
      Host.ofDigits_toDigits]

/-! ### Authorities -/

/-- A site that an address of the web can lead to. -/
structure Site.IsFinal (site : Site) : Prop where
  kind : schemeKind site.scheme = .special
  host : Host.IsFinal site.host
  port : IsPort site.scheme site.port

theorem Site.authority_text (site : Site) : site.authority.text = site.host ++ portText site.port := by
  rcases site with ⟨scheme, host, _ | n⟩ <;> rfl

section

variable {scheme : String} {ended : Bool} {text : List Char} {a : Authority × List Char}

theorem Authority.exists_of_parse (hkind : schemeKind scheme = .special)
    (h : parse scheme ended text = .ok a) :
    ∃ host port, Host.parse (splitHost false ((splitUserInfo text).getD ([], text)).2).1 = .ok host ∧
      parsePort scheme ((splitHost false ((splitUserInfo text).getD ([], text)).2).2.drop 1) = .ok port ∧
      a = (⟨(userIn text).1, (userIn text).2, host, port.1⟩, port.2) := by
  have hknown : Scheme.Kind.special.isKnown = true := rfl
  simp only [parse, hkind, hknown, if_true] at h
  split at h
  · cases h
  obtain ⟨host, hhost, h⟩ := bind_eq_ok_iff.1 h
  split at h
  · cases h
  obtain ⟨port, hport, h⟩ := bind_eq_ok_iff.1 h
  split at h
  · cases h
  · cases h
    exact ⟨host, port, hhost, hport, rfl⟩

/-- An authority is made of the user in its text and of a final site. -/
theorem Authority.isFinal_of_parse (hkind : schemeKind scheme = .special)
    (h : parse scheme ended text = .ok a) :
    (a.1.user, a.1.password) = userIn text ∧ Site.IsFinal ⟨scheme, a.1.host, a.1.port⟩ := by
  obtain ⟨host, port, hhost, hport, rfl⟩ := exists_of_parse hkind h
  exact ⟨rfl, hkind, Host.isFinal_of_parse hhost, isPort_of_parsePort hport⟩

/-- What is read of a web address is the user it names and a final site. -/
theorem exists_site_of_parse {raw : String} {u : Url} (h : parse raw = .ok u)
    (hkind : u.kind = .special) :
    ∃ a : Authority, u.authority = some a ∧ (a.user, a.password) = userOf raw ∧
      Site.IsFinal ⟨u.scheme, a.host, a.port⟩ := by
  obtain ⟨text, a, _, hplace, ha, hauthority, -⟩ := exists_place_of_parse h hkind
  obtain ⟨huser, hfinal⟩ := Authority.isFinal_of_parse hkind ha
  refine ⟨a.1, hauthority, ?_, hfinal⟩
  rw [huser, userOf, hplace]
  rfl

variable {site : Site}

theorem Site.IsFinal.isInner (h : site.IsFinal) :
    ∀ c ∈ site.authority.text, c = ':' ∨ isInner c = true := by
  intro c hc
  rw [site.authority_text, List.mem_append] at hc
  rcases hc with hc | hc
  · exact .inr (h.host.isInner c hc)
  · rcases hport : site.port with _ | n
    · rw [hport] at hc
      cases hc
    · rw [hport] at hc
      rcases List.mem_cons.1 hc with rfl | hc
      · exact .inl rfl
      · obtain ⟨d, hd, rfl⟩ := Host.exists_digit_of_mem_toDigits (by decide) hc
        exact .inr (isInner_digitChar (by omega))

/-- The text of a final site is the authority of that site and of no other. -/
theorem Site.IsFinal.eq_of_parse (hsite : site.IsFinal)
    (h : Authority.parse site.scheme ended site.authority.text = .ok a) : a.1 = site.authority := by
  have hat : '@' ∉ site.authority.text := fun hmem =>
    (hsite.isInner _ hmem).elim (by decide) (by decide)
  have hport : (portText site.port).head?.all (· = ':') = true := by
    rcases site.port with _ | n <;> rfl
  obtain ⟨host, port, hhost, hparsed, rfl⟩ := Authority.exists_of_parse hsite.kind h
  have hnone := splitUserInfo_eq_none hat
  rw [hnone, Option.getD_none, site.authority_text, hsite.host.splitHost_append hport] at hhost hparsed
  obtain rfl := hsite.host.eq_of_parse hhost
  rw [parsePort_portText hsite.port] at hparsed
  obtain rfl := Except.ok.inj hparsed
  rw [userIn, hnone]
  rfl

end

/-! ### Texts of addresses -/

theorem authorityIn_of_inner {text : List Char} (hne : text ≠ [])
    (hinner : ∀ c ∈ text, 32 < c.toNat ∧ isMark c = false ∧ isSlash .special c = false)
    {behind : List Char} (hbehind : behind.head?.all (fun c => c = '/' || isMark c) = true) :
    authorityIn ('/' :: '/' :: (text ++ behind)) = text := by
  have hmark : ∀ c ∈ '/' :: '/' :: text, (!isMark c) = true := by
    simp only [List.forall_mem_cons]
    exact ⟨by decide, by decide, fun c hc => by simp [hinner c hc]⟩
  have hvisible : ∀ c ∈ '/' :: '/' :: text, 32 < c.toNat := by
    simp only [List.forall_mem_cons]
    exact ⟨by decide, by decide, fun c hc => (hinner c hc).1⟩
  have hslash : ∀ c ∈ text, (!isSlash .special c) = true := fun c hc => by simp [hinner c hc]
  have htaken : ('/' :: '/' :: (text ++ behind)).takeWhile (!isMark ·) =
      '/' :: '/' :: text ++ behind.takeWhile (!isMark ·) :=
    List.takeWhile_append_of_pos hmark
  have hfront : (Path.kept (behind.takeWhile (!isMark ·))).head?.all (isSlash .special) = true := by
    rcases behind with _ | ⟨c, rest⟩
    · rfl
    · have hc : c = '/' ∨ isMark c = true := by simpa using hbehind
      rcases hc with rfl | hc
      · rfl
      · simp [hc, Path.kept]
  rw [authorityIn, htaken, splitPlace, Path.kept, List.filter_append, ← Path.kept, ← Path.kept,
    Path.kept_eq_self hvisible]
  generalize Path.kept (behind.takeWhile (!isMark ·)) = rest at hfront
  have hdrop : ('/' :: '/' :: text ++ rest).dropWhile (isSlash .special) = text ++ rest := by
    obtain ⟨c, others, rfl⟩ := List.exists_cons_of_ne_nil hne
    have hc := (hinner c List.mem_cons_self).2.2
    have hstop : isSlash .special '/' = true := by decide
    simp [hstop, hc]
  have hend : rest.takeWhile (!isSlash .special ·) = [] := by
    rcases rest with _ | ⟨c, others⟩
    · rfl
    · have hc : isSlash .special c = true := by simpa using hfront
      simp [hc]
  rw [hdrop, splitBefore, List.takeWhile_append_of_pos hslash, hend, List.append_nil]

/-- An address that names nobody and leads to a site. -/
structure StandsAt (u : Url) (site : Site) : Prop where
  scheme : u.scheme = site.scheme
  authority : u.authority = some site.authority
  route : ∃ path, u.route = .segments path

namespace StandsAt

variable {u : Url} {site : Site}

theorem site?_eq (h : u.StandsAt site) : u.site? = some site := by
  rw [site?, h.authority, h.scheme]
  rfl

theorem push? (h : u.StandsAt site) (id : String) :
    ∃ item, u.push? id = some item ∧ item.StandsAt site := by
  obtain ⟨path, hroute⟩ := h.route
  refine ⟨{ u with route := .segments (Path.push u.kind path id) }, ?_, h.scheme, h.authority, _, rfl⟩
  rw [Url.push?, hroute]

theorem exists_text (h : u.StandsAt site) :
    ∃ behind, u.text.toList =
        site.scheme.toList ++ ':' :: '/' :: '/' :: (site.authority.text ++ behind) ∧
      behind.head?.all (fun c => c = '/' || isMark c) = true := by
  obtain ⟨path, hroute⟩ := h.route
  refine ⟨u.routeText ++ u.queryText ++ u.fragmentText, ?_, ?_⟩
  · rw [text, String.toList_ofList, h.scheme, authorityText, h.authority]
    simp
  · have hpath : u.routeText = Path.text path := by
      rw [routeText, hroute, h.authority]
    rw [hpath]
    rcases path with _ | ⟨segment, rest⟩
    · rcases hquery : u.query with _ | query
      · rcases hfragment : u.fragment with _ | fragment
        · simp [Path.text, queryText, fragmentText, hquery, hfragment]
        · simp [Path.text, queryText, fragmentText, hquery, hfragment, isMark]
      · simp [Path.text, queryText, hquery, isMark]
    · simp [Path.text]

theorem placeIn?_text (h : u.StandsAt site) (hsite : site.IsFinal) :
    placeIn? u.text.toList = some (site.scheme, site.authority.text) := by
  obtain ⟨behind, htext, hbehind⟩ := h.exists_text
  have hinner : ∀ c ∈ site.authority.text,
      32 < c.toNat ∧ isMark c = false ∧ isSlash .special c = false := by
    intro c hc
    rcases hsite.isInner c hc with rfl | hc
    · decide
    · exact ⟨(isInner_iff.1 hc).1, (isInner_iff.1 hc).2.2⟩
  have hne : site.authority.text ≠ [] := by
    rw [site.authority_text]
    exact List.append_ne_nil_of_left_ne_nil hsite.host.ne_nil _
  have hschemes : ∀ scheme ∈ ["http", "https", "ftp", "ws", "wss"],
      scheme.toList.all (32 < ·.toNat) = true := by decide
  have hscheme : ∀ c ∈ site.scheme.toList, 32 < c.toNat := by
    simpa using hschemes _ (mem_of_special hsite.kind)
  have hvisible : ∀ c ∈ site.scheme.toList ++ ':' :: '/' :: '/' :: site.authority.text,
      decide (c.toNat ≤ 32) = false := by
    simp only [List.forall_mem_append, List.forall_mem_cons, decide_eq_false_iff_not, Nat.not_le]
    exact ⟨hscheme, by decide, by decide, by decide, fun c hc => (hinner c hc).1⟩
  obtain ⟨rest, hprefix, htrim⟩ := Text.exists_trimBoth_append
    (fun c hc => hvisible c (List.mem_of_head? hc)) (fun c hc => hvisible c (List.mem_of_getLast? hc))
    (by simp) behind
  have hrest : rest.head?.all (fun c => c = '/' || isMark c) = true := by
    obtain ⟨more, rfl⟩ := hprefix
    rcases rest with _ | ⟨c, others⟩
    · rfl
    · exact hbehind
  rw [placeIn?, htext]
  simp only [List.append_assoc, List.cons_append] at htrim ⊢
  rw [htrim, splitScheme_of_special hsite.kind, Option.map_some, authorityIn_of_inner hne hinner hrest]

theorem of_parse_text (h : u.StandsAt site) (hsite : site.IsFinal) {v : Url}
    (hparse : parse u.text = .ok v) : v.StandsAt site := by
  have hplace := h.placeIn?_text hsite
  have hscheme : v.scheme = site.scheme := scheme_eq_of_place hparse hplace
  have hkind : v.kind = .special := by
    rw [kind, hscheme, hsite.kind]
  obtain ⟨text, a, path, htext, ha, hauthority, hroute⟩ := exists_place_of_parse hparse hkind
  rw [hplace, hscheme] at htext
  obtain ⟨-, rfl⟩ := Prod.mk.inj (Option.some.inj htext)
  rw [hscheme] at ha
  rw [hsite.eq_of_parse ha] at hauthority
  exact ⟨hscheme, hauthority, path, hroute⟩

end StandsAt

end CredentialWallet.Url
