import CredentialWallet.Proofs.Session
/-!
# Where invitations are handed in

Invitations are handed in at an address of their own, beside the parts of a wallet. It stands at the same
site as they do, and it is no longer than the one at which the verifications are listed. So where a wallet
was fetched, an invitation can be handed in with the same token.
-/

namespace CredentialWallet

open Http (Request)

namespace Url

/-! ### What stands behind an authority -/

/-- A mark and what is kept behind it, encoded. -/
def markedText (mark : Char) (escaped : Char → Bool) (cs : List Char) : List Char :=
  ((behindMark cs).map (encode escaped)).elim [] (mark :: ·)

/-- The path, the query and the fragment in what stands behind the scheme of a web address. -/
def behindPlace (rest : List Char) : List Char :=
  let parts := splitBefore (· = '#') rest
  Path.text (pathBehind .special (splitPlace (rest.takeWhile (!isMark ·))).2) ++
    markedText '?' (escapedInQuery true) (splitBefore (· = '?') parts.1).2 ++
    markedText '#' escapedInFragment parts.2

theorem text_behind_of_parse {raw : String} {u : Url} (h : parse raw = .ok u) (hkind : u.kind = .special)
    {scheme : String} {rest : List Char}
    (hsplit : splitScheme (Text.trimBoth (·.toNat ≤ 32) raw.toList) = some (scheme, rest)) :
    u.routeText ++ u.queryText ++ u.fragmentText = behindPlace rest := by
  rw [parse] at h
  simp only [hsplit] at h
  obtain ⟨found, hfound, hu⟩ := bind_eq_ok_iff.1 h
  obtain rfl := Except.ok.inj hu
  change schemeKind scheme = .special at hkind
  have hknown : Scheme.Kind.special.isKnown = true := rfl
  simp only [splitBefore_marks, parseBody, hkind] at hfound
  obtain ⟨a, _, hroute⟩ := bind_eq_ok_iff.1 hfound
  obtain rfl := Except.ok.inj hroute
  simp only [routeText, queryText, fragmentText, hkind, hknown]
  rfl

theorem markedText_append {mark : Char} {escaped : Char → Bool} {cs behind : List Char} (hne : cs ≠ [])
    (hbehind : ∀ c ∈ behind, 32 < c.toNat) :
    markedText mark escaped (cs ++ behind) = markedText mark escaped cs ++ encode escaped behind := by
  obtain ⟨c, rest, rfl⟩ := List.exists_cons_of_ne_nil hne
  have hkept : Path.kept (rest ++ behind) = Path.kept rest ++ behind := by
    rw [Path.kept, List.filter_append, ← Path.kept, ← Path.kept, Path.kept_eq_self hbehind]
  simp only [markedText, List.cons_append, behindMark, hkept, Option.map_some, Option.elim_some,
    encode_append]

theorem splitBefore_append_of_mem {stops : Char → Bool} {cs : List Char} (h : ∃ c ∈ cs, stops c = true)
    (behind : List Char) :
    splitBefore stops (cs ++ behind) = ((splitBefore stops cs).1, (splitBefore stops cs).2 ++ behind) ∧
      (splitBefore stops cs).2 ≠ [] := by
  obtain ⟨c, hc, hstops⟩ := h
  obtain ⟨before, after, rfl⟩ := List.append_of_mem hc
  rw [List.append_assoc, List.cons_append, splitBefore_append_cons hstops, splitBefore_append_cons hstops]
  simp

theorem splitBefore_of_notMem {c : Char} {cs : List Char} (h : c ∉ cs) :
    splitBefore (· = c) cs = (cs, []) :=
  splitBefore_eq_self fun _ hd => decide_eq_false fun heq => h (heq ▸ hd)

theorem notMem_of_noMark {cs : List Char} (h : ∀ c ∈ cs, isMark c = false) : '?' ∉ cs ∧ '#' ∉ cs :=
  ⟨fun hmem => absurd (h _ hmem) (by decide), fun hmem => absurd (h _ hmem) (by decide)⟩

theorem exists_behindPlace_append {rest : List Char} (h : ∃ c ∈ rest, isMark c = true) :
    ∃ escaped, (escaped = escapedInQuery true ∨ escaped = escapedInFragment) ∧
      ∀ behind : List Char, (∀ c ∈ behind, 32 < c.toNat ∧ c ≠ '#') →
        behindPlace (rest ++ behind) = behindPlace rest ++ encode escaped behind := by
  have hfront (behind : List Char) :
      (rest ++ behind).takeWhile (!isMark ·) = rest.takeWhile (!isMark ·) :=
    congrArg Prod.fst (splitBefore_append_of_mem h behind).1
  by_cases hhash : '#' ∈ rest
  · refine ⟨escapedInFragment, .inr rfl, fun behind hbehind => ?_⟩
    have hstop : ∃ c ∈ rest, decide (c = '#') = true := ⟨_, hhash, rfl⟩
    obtain ⟨hsplit, hne⟩ := splitBefore_append_of_mem hstop behind
    simp only [behindPlace, hfront, hsplit, markedText_append hne fun c hc => (hbehind c hc).1,
      List.append_assoc]
  · refine ⟨escapedInQuery true, .inl rfl, fun behind hbehind => ?_⟩
    have hquery : ∃ c ∈ rest, decide (c = '?') = true := by
      obtain ⟨c, hc, hmark⟩ := h
      have hor : c = '?' ∨ c = '#' := by simpa [isMark] using hmark
      exact ⟨c, hc, decide_eq_true (hor.resolve_right fun heq => hhash (heq ▸ hc))⟩
    have hwhole : '#' ∉ rest ++ behind := fun hmem =>
      (List.mem_append.1 hmem).elim hhash fun hmem => (hbehind _ hmem).2 rfl
    obtain ⟨hsplit, hne⟩ := splitBefore_append_of_mem hquery behind
    simp only [behindPlace, hfront, splitBefore_of_notMem hwhole, splitBefore_of_notMem hhash, hsplit,
      markedText_append hne fun c hc => (hbehind c hc).1]
    simp [markedText, behindMark]

theorem behindPlace_of_noMark {rest : List Char} (h : ∀ c ∈ rest, isMark c = false) :
    behindPlace rest = Path.text (pathBehind .special (splitPlace rest).2) ∧
      ∀ behind : List Char, (∀ c ∈ behind, 32 < c.toNat ∧ c ≠ '#') →
        behindPlace (rest ++ '?' :: behind) =
          behindPlace rest ++ '?' :: encode (escapedInQuery true) behind := by
  obtain ⟨hquery, hhash⟩ := notMem_of_noMark h
  have hplain : behindPlace rest = Path.text (pathBehind .special (splitPlace rest).2) := by
    have hfront := congrArg Prod.fst (splitBefore_eq_self h)
    dsimp only [splitBefore] at hfront
    simp only [behindPlace, hfront, splitBefore_of_notMem hhash, splitBefore_of_notMem hquery]
    simp [markedText, behindMark]
  refine ⟨hplain, fun behind hbehind => ?_⟩
  have hwhole : '#' ∉ rest ++ '?' :: behind := by
    intro hmem
    rcases List.mem_append.1 hmem with hmem | hmem
    · exact hhash hmem
    · exact (hbehind _ ((List.mem_cons.1 hmem).resolve_left (by decide))).2 rfl
  have hsplit : splitBefore (· = '?') (rest ++ '?' :: behind) = (rest, '?' :: behind) := by
    rw [splitBefore_append_cons (decide_eq_true rfl), splitBefore_of_notMem hquery]
    rfl
  have hmark : isMark '?' = true := rfl
  have hfront := congrArg Prod.fst (splitBefore_append_cons hmark rest behind)
  rw [splitBefore_eq_self h] at hfront
  dsimp only [splitBefore] at hfront
  rw [hplain]
  simp only [behindPlace, hfront, splitBefore_of_notMem hwhole, hsplit]
  simp [markedText, behindMark, Path.kept_eq_self fun c hc => (hbehind c hc).1]

/-! ### Shorter addresses -/

theorem text_length (u : Url) :
    u.text.length = u.scheme.length + 1 + u.authorityText.length +
      (u.routeText ++ u.queryText ++ u.fragmentText).length := by
  simp only [text, String.length_ofList, List.length_append, List.length_cons, String.length_toList]
  omega

theorem exists_splitCredentials_eq (a : Authority) :
    ∃ b, ∀ u : Url, u.authority = some a →
      (Gateway.splitCredentials u).1 = { u with authority := some b } := by
  rcases hnamed : a.credentials? with _ | named
  · refine ⟨a, fun u hu => ?_⟩
    rw [Gateway.splitCredentials, hu]
    simp only [hnamed, ← hu]
  · refine ⟨{ a with user := [], password := [] }, fun u hu => ?_⟩
    rw [Gateway.splitCredentials, hu]
    simp only [hnamed]

/-- Where a request can be sent, one can be sent to a place at the same site that is no longer. -/
theorem IsReachable.of_length_le {u v : Url} (h : u.IsReachable) (hscheme : v.scheme = u.scheme)
    (hauthority : v.authority = u.authority)
    (hlength : (v.routeText ++ v.queryText ++ v.fragmentText).length ≤
      (u.routeText ++ u.queryText ++ u.fragmentText).length) : v.IsReachable := by
  rcases hu : u.authority with _ | a
  · have hhost := h.host
    rw [hu] at hhost
    cases hhost
  obtain ⟨b, hsent⟩ := exists_splitCredentials_eq a
  have hroute {w : Url} (hw : w.authority = some a) :
      ({ w with authority := some b } : Url).routeText = w.routeText := by
    simp only [routeText, hw]
  have hv := hauthority.trans hu
  have haddressable := h.addressable
  refine ⟨hscheme ▸ h.scheme, hauthority ▸ h.host, ?_⟩
  rw [hsent u hu, Http.isAddressable, Bool.and_eq_true, decide_eq_true_eq, text_length, hroute hu]
    at haddressable
  rw [hsent v hv, Http.isAddressable, Bool.and_eq_true, decide_eq_true_eq, text_length, hroute hv]
  refine ⟨le_trans ?_ haddressable.1, haddressable.2⟩
  dsimp only [authorityText, queryText, fragmentText] at hlength ⊢
  rw [hscheme]
  exact Nat.add_le_add_left hlength _

end Url

namespace Gateway

/-- The name under which the verifications in a state are listed. -/
def verificationsIn (state : VerificationState) : String :=
  "verifications" ++ ("?state=" ++ Word.text state)

theorem tail_verificationsIn (state : VerificationState) :
    tail (verificationsIn state) =
      tail "verifications" ++ '?' :: ("state=" ++ Word.text state).toList := by
  simp [tail, verificationsIn]

theorem encode_processor_length_le (state : VerificationState) {escaped : Char → Bool}
    (hescaped : escaped = Url.escapedInQuery true ∨ escaped = Url.escapedInFragment) :
    (Url.encode escaped (tail "invitation_processor")).length ≤
      (Url.encode escaped (tail (verificationsIn state))).length := by
  rcases hescaped with rfl | rfl <;> cases state <;> decide

theorem exists_behindPlace_tail {rest : List Char} (hrest : ∀ c ∈ rest, Url.isMark c = false) :
    ∃ parent : List Char, ∀ resource : String, Url.IsName resource.toList →
      (∀ c ∈ rest ++ tail resource, Url.isMark c = false) ∧
        Url.behindPlace (rest ++ tail resource) = parent ++ '/' :: resource.toList := by
  obtain ⟨before, hplace⟩ := splitPlace_append_tail rest
  obtain ⟨parent, hparent⟩ := Url.exists_pathBehind before
  refine ⟨Url.Path.text parent, fun resource hname => ?_⟩
  have hmarks : ∀ c ∈ rest ++ tail resource, Url.isMark c = false := by
    intro c hc
    rcases List.mem_append.1 hc with hc | hc
    · exact hrest c hc
    · have hplain := plain_of_mem_tail hname hc
      simp [Url.isMark, hplain.2.2]
  refine ⟨hmarks, ?_⟩
  rw [(Url.behindPlace_of_noMark hmarks).1, hplace hname, hparent hname, Url.Path.text,
    List.flatMap_append, ← Url.Path.text]
  simp

/-- Behind any beginning, the place where invitations are handed in is no longer than the one where the
verifications are listed. -/
theorem behindPlace_tail_length_le (rest : List Char) (state : VerificationState) :
    (Url.behindPlace (rest ++ tail "invitation_processor")).length ≤
      (Url.behindPlace (rest ++ tail (verificationsIn state))).length := by
  by_cases hmarks : ∃ c ∈ rest, Url.isMark c = true
  · have hprocessor : ∀ c ∈ tail "invitation_processor", 32 < c.toNat ∧ c ≠ '#' :=
      List.all_iff_forall_prop.1 (by decide)
    have hverifications : ∀ c ∈ tail (verificationsIn state), 32 < c.toNat ∧ c ≠ '#' :=
      List.all_iff_forall_prop.1 (by cases state <;> decide)
    obtain ⟨escaped, hescaped, happend⟩ := Url.exists_behindPlace_append hmarks
    rw [happend _ hprocessor, happend _ hverifications, List.length_append, List.length_append]
    exact Nat.add_le_add_left (encode_processor_length_le state hescaped) _
  · have hrest : ∀ c ∈ rest, Url.isMark c = false := fun c hc =>
      Bool.eq_false_iff.2 fun hmark => hmarks ⟨c, hc, hmark⟩
    obtain ⟨parent, hparent⟩ := exists_behindPlace_tail hrest
    obtain ⟨-, hprocessor⟩ := hparent "invitation_processor" (by decide)
    obtain ⟨hnoMark, hverifications⟩ := hparent "verifications" (by decide)
    have hquery : ∀ c ∈ ("state=" ++ Word.text state).toList, 32 < c.toNat ∧ c ≠ '#' :=
      List.all_iff_forall_prop.1 (by cases state <;> decide)
    rw [tail_verificationsIn, ← List.append_assoc, (Url.behindPlace_of_noMark hnoMark).2 _ hquery,
      hprocessor, hverifications]
    simp only [List.length_append, List.append_assoc]
    refine Nat.add_le_add_left ?_ _
    cases state <;> decide

theorem verifications_address (g : Gateway) (state : VerificationState) :
    Holdings.Part.verifications.address g state = g.endpoint (verificationsIn state) := by
  rw [Holdings.Part.address, String.append_assoc, endpoint_append, verificationsIn]

/-- Where the verifications can be asked for, an invitation can be handed in with the same token. -/
theorem exists_prepare_processor {g : Gateway} {state : VerificationState} {token : String} {r : Request}
    (h : prepare g.userAgent .get (Holdings.Part.verifications.address g state) (some token) none = .ok r)
    (body : Option Http.Body) :
    ∃ handing, prepare g.userAgent .post (g.endpoint "invitation_processor") (some token) body =
      .ok handing := by
  have hprocessor : Url.IsQuiet "invitation_processor" := by decide
  have hverifications : Url.IsQuiet (verificationsIn state) := by cases state <;> decide
  rw [verifications_address] at h
  obtain ⟨u, hu, -⟩ := prepare_eq_ok h
  have hreachable := isReachable_of_prepare h hu
  have hsame := (g.placeIn?_endpoint hprocessor).trans (g.placeIn?_endpoint hverifications).symm
  obtain ⟨v, _, hv, hscheme, hauthority, -⟩ := Url.exists_parse_of_same_place hu hreachable.kind hsame
  have hkind : v.kind = .special := by
    rw [Url.kind, hscheme]
    exact hreachable.kind
  -- both addresses go on from the same text behind the scheme of the base URL
  obtain ⟨rest, hrest⟩ := Url.exists_splitScheme_of_parse hu
  rw [splitScheme_endpoint g hverifications.visible_ne_colon, Option.map_eq_some_iff] at hrest
  obtain ⟨parts, hparts, hbehind⟩ := hrest
  have hsplit {resource : String} (hquiet : Url.IsQuiet resource) :
      Url.splitScheme (Text.trimBoth (·.toNat ≤ 32) (g.endpoint resource).toList) =
        some (parts.1, parts.2 ++ tail resource) := by
    rw [splitScheme_endpoint g hquiet.visible_ne_colon, hparts]
    rfl
  refine exists_prepare_eq_ok_iff.2 ⟨⟨v, hv, ?_⟩, (exists_prepare_eq_ok_iff.1 ⟨r, h⟩).2⟩
  refine hreachable.of_length_le hscheme hauthority ?_
  rw [Url.text_behind_of_parse hv hkind (hsplit hprocessor),
    Url.text_behind_of_parse hu hreachable.kind (hsplit hverifications)]
  exact behindPlace_tail_length_le parts.2 state

end Gateway

end CredentialWallet
