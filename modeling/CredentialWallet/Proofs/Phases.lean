import CredentialWallet.Proofs.Session
/-!
# The phases of an opening

An opening reads the descriptor, signs in and fetches, in that order, and each of its failures tells how
far it came. Nothing is sent for a descriptor that is refused; for somebody who is not let in only the
grant was asked for; and the five parts are asked for with the token that was granted. What is received
for a part decides whether the fetch fails, also where a part cannot be asked for at all.
-/

namespace CredentialWallet

open Http (Answer Request Transport)

namespace Holdings

/-! ### What is received -/

namespace Fetched

theorem holdings_eq_arriving_all (f : Fetched) : f.holdings = f.arriving Part.all := by
  obtain ⟨agent, connections, invitations, credentials, verifications⟩ := f
  cases agent with
  | error e => rfl
  | ok agent =>
    cases connections with
    | error e => rfl
    | ok connections =>
      cases invitations with
      | error e => rfl
      | ok invitations =>
        cases credentials with
        | error e => rfl
        | ok credentials => cases verifications <;> rfl

/-- Parts that an order does not name arrive behind those it names. -/
theorem arriving_append_all (f : Fetched) (order : List Part) :
    f.arriving (order ++ Part.all) = f.arriving order := by
  rw [arriving, arriving, List.findSome?_append]
  cases order.findSome? fun part => (f.failure? part).map (OpeningFailure.notFetched part.name) with
  | none => exact f.holdings_eq_arriving_all.symm
  | some e => rfl

end Fetched

theorem Part.read_error (part : Part) (e : Transport) :
    part.read (.error e) = .error (.transport e) := by
  cases part <;> rfl

section

variable (g : Gateway) (token : String) (state : VerificationState) (link : Link)

/-- What is received for a part that is asked for behind a journal, or why it cannot be asked for. -/
def Part.received (part : Part) (j : Journal) : Except Transport Answer :=
  match Gateway.prepare g.userAgent .get (part.address g state) (some token) none with
  | .error e => .error e
  | .ok r =>
    match link with
    | .down => .error (.unreachable r.url.text)
    | .up agency => Talk.received r (Link.answer? (.up agency) (j ++ [.request r]))

/-- What goes into the journal for a part that is asked for. -/
def Part.asked (part : Part) : Journal := (g.listing token state part).event?.toList

/-- What is received for each part when all are asked for in turn, behind a journal. -/
def Answers.received (j : Journal) : Answers := fun part =>
  part.received g token state link (j ++ (Part.all.takeWhile (· ≠ part)).flatMap (Part.asked g token state))

variable {g token state link}

theorem Part.asked_of_prepared {part : Part} {r : Request}
    (h : Gateway.prepare g.userAgent .get (part.address g state) (some token) none = .ok r) :
    part.asked g token state = [.request r] := by
  have hevent : (g.listing token state part).event? = some (.request r) := by
    simp only [Gateway.listing, Gateway.request?, Except.toOption, Option.bind_some, Option.map_none, h,
      Option.map_some]
  rw [asked, hevent]
  rfl

theorem ask_cases (part : Part) (j : Journal) :
    (∃ e, ask g token state part link j = (.error (.notFetched part.name (.transport e)), j) ∧
      part.received g token state link j = .error e) ∨
    ask g token state part link j =
      (.ok (part.received g token state link j), j ++ part.asked g token state) := by
  rcases hr : Gateway.prepare g.userAgent .get (part.address g state) (some token) none with e | r
  · refine .inl ⟨e, ?_, ?_⟩
    · rw [ask, hr]
      rfl
    · rw [Part.received, hr]
  · cases link with
    | down =>
      refine .inl ⟨.unreachable r.url.text, ?_, ?_⟩
      · rw [ask, hr]
        rfl
      · rw [Part.received, hr]
    | up agency =>
      right
      rw [ask_of_prepared agency j hr, Part.received, hr, Part.asked_of_prepared hr]

theorem fetch_eq (order : List Part) (j : Journal) :
    (∃ (part : Part) (e : Transport),
      (fetch g token state order link j).1 = .error (.notFetched part.name (.transport e)) ∧
        Answers.received g token state link j part = .error e) ∨
    (fetch g token state order link j).1 =
      (Answers.received g token state link j).fetched.arriving order := by
  have hreceived (part : Part) : Answers.received g token state link j part =
      part.received g token state link
        (j ++ (Part.all.takeWhile (· ≠ part)).flatMap (Part.asked g token state)) := rfl
  have hagent := hreceived .agent
  have hconnections := hreceived .connections
  have hinvitations := hreceived .invitations
  have hcredentials := hreceived .credentials
  have hverifications := hreceived .verifications
  simp only [Part.all, List.takeWhile, ne_eq, reduceCtorEq, not_false_eq_true, not_true_eq_false,
    decide_true, decide_false, List.flatMap_cons, List.flatMap_nil, List.append_nil,
    ← List.append_assoc] at hagent hconnections hinvitations hcredentials hverifications
  rw [fetch]
  rcases ask_cases .agent j with ⟨e, hask, he⟩ | h₁
  · exact .inl ⟨.agent, e, by rw [Talk.bind_of_error hask], hagent.trans he⟩
  rw [Talk.bind_of_ok h₁]
  rcases ask_cases .connections _ with ⟨e, hask, he⟩ | h₂
  · exact .inl ⟨.connections, e, by rw [Talk.bind_of_error hask], hconnections.trans he⟩
  rw [Talk.bind_of_ok h₂]
  rcases ask_cases .invitations _ with ⟨e, hask, he⟩ | h₃
  · exact .inl ⟨.invitations, e, by rw [Talk.bind_of_error hask], hinvitations.trans he⟩
  rw [Talk.bind_of_ok h₃]
  rcases ask_cases .credentials _ with ⟨e, hask, he⟩ | h₄
  · exact .inl ⟨.credentials, e, by rw [Talk.bind_of_error hask], hcredentials.trans he⟩
  rw [Talk.bind_of_ok h₄]
  rcases ask_cases .verifications _ with ⟨e, hask, he⟩ | h₅
  · exact .inl ⟨.verifications, e, by rw [Talk.bind_of_error hask], hverifications.trans he⟩
  rw [Talk.bind_of_ok h₅]
  right
  simp only [Answers.fetched, hagent, hconnections, hinvitations, hcredentials, hverifications]
  rfl

variable (g token state link) in
/-- A fetch gives what was received for the five parts, or fails with the failure of one of them. -/
theorem fetch_cases (order : List Part) (j : Journal) :
    (∃ h, (fetch g token state order link j).1 = .ok h ∧
      (Answers.received g token state link j).Hold h) ∨
    ∃ (part : Part) (cause : Failure),
      (fetch g token state order link j).1 = .error (.notFetched part.name cause) ∧
        part.read (Answers.received g token state link j part) = .error cause := by
  rcases fetch_eq (g := g) order j with ⟨part, e, hfetch, he⟩ | hfetch
  · exact .inr ⟨part, .transport e, hfetch, by rw [he, part.read_error]⟩
  · have hall (part : Part) : part ∈ order ++ Part.all := List.mem_append_right order part.mem_all
    rw [hfetch, ← Fetched.arriving_append_all]
    rcases Answers.arriving_cases hall with ⟨h, hhold, hok⟩ | ⟨part, cause, ⟨_, _, _, _, hbad⟩, herror⟩
    · exact .inl ⟨h, hok, hhold⟩
    · exact .inr ⟨part, cause, herror, hbad⟩

theorem fetch_eq_ok_iff {order : List Part} {j : Journal} {h : Holdings} :
    (fetch g token state order link j).1 = .ok h ↔ (Answers.received g token state link j).Hold h := by
  rcases fetch_cases g token state link order j with ⟨found, hfetch, hhold⟩ | ⟨part, cause, hfetch, hbad⟩
  · rw [hfetch, Answers.hold_iff, Answers.hold_iff.1 hhold]
  · rw [hfetch]
    refine ⟨nofun, fun hhold => ?_⟩
    obtain ⟨content, hgood⟩ := hhold.read part
    cases hbad.symm.trans hgood

theorem exists_of_fetch_eq_error {order : List Part} {j : Journal} {e : OpeningFailure}
    (h : (fetch g token state order link j).1 = .error e) :
    ∃ (part : Part) (cause : Failure), e = .notFetched part.name cause ∧
      part.read (Answers.received g token state link j part) = .error cause := by
  rcases fetch_cases g token state link order j with ⟨found, hfetch, -⟩ | ⟨part, cause, hfetch, hbad⟩
  · cases hfetch.symm.trans h
  · exact ⟨part, cause, Except.error.inj (h.symm.trans hfetch), hbad⟩

theorem exists_fetch_eq_error (order : List Part) {j : Journal} {part : Part} {cause : Failure}
    (hbad : part.read (Answers.received g token state link j part) = .error cause) :
    ∃ (part : Part) (cause : Failure),
      (fetch g token state order link j).1 = .error (.notFetched part.name cause) := by
  rcases fetch_cases g token state link order j with ⟨found, -, hhold⟩ | ⟨part, cause, hfetch, -⟩
  · obtain ⟨content, hgood⟩ := hhold.read part
    cases hbad.symm.trans hgood
  · exact ⟨part, cause, hfetch⟩

end

end Holdings

/-! ### Openings -/

/-- The grant by which somebody signs in. -/
def Login.grant (login : Login) : Grant := .password login.username login.password

namespace Opener

open Holdings (Answers Part)

section

variable (o : Opener) (login : Login) (link : Link) (j : Journal)

/-- What an opening comes to behind a journal, and what it leaves there. -/
structure IsPhased (result : Except OpeningFailure Wallet) (k : Journal) : Prop where
  /-- The descriptor is refused. -/
  refused_iff : ∀ e,
    result = .error (.badDescriptor e) ↔ Descriptor.ofText login.descriptor = .error e
  /-- Nothing has been sent then. -/
  refused : ∀ e, result = .error (.badDescriptor e) → k = j
  usable : ∀ e, result ≠ .error (.badSettings e)
  /-- The descriptor is read, but no token is granted. -/
  unsigned_iff : ∀ e, result = .error (.notSignedIn e) ↔
    ∃ d, Descriptor.ofText login.descriptor = .ok d ∧
      (o.provider.ask d.client login.grant link j).1 = .error e
  /-- Nothing but the grant has been asked for then. -/
  unsigned : ∀ e, result = .error (.notSignedIn e) →
    ∃ d forms, Descriptor.ofText login.descriptor = .ok d ∧
      k = j ++ .grant d.client login.grant :: forms ∧
      ∀ event ∈ forms, event.Submits d.client login.grant
  /-- A token is granted, but what is received for one of the parts is no good. -/
  unfetched_iff : (∃ resource cause, result = .error (.notFetched resource cause)) ↔
    ∃ d g token i, o.SignsIn login link j i d g token ∧ ∃ (part : Part) (cause : Failure),
      part.read (Answers.received g token.access o.settings.verificationState link i part) =
        .error cause
  /-- It is such a part that is named then, with what is wrong with it. -/
  unfetched : ∀ resource cause, result = .error (.notFetched resource cause) →
    ∃ d g token i, o.SignsIn login link j i d g token ∧ ∃ part : Part, resource = part.name ∧
      part.read (Answers.received g token.access o.settings.verificationState link i part) =
        .error cause
  /-- A token is granted and all that is received is good. -/
  opened_iff : ∀ w, result = .ok w ↔
    ∃ d g token i holdings, o.SignsIn login link j i d g token ∧
      (Answers.received g token.access o.settings.verificationState link i).Hold holdings ∧
      w = {
        toHoldings := holdings
        refreshUri := d.tokenUrl
        baseUri := Text.dropTrailingSlashes d.serviceBaseUrl
        clientId := d.clientId
        clientSecret := d.clientSecret
        token }
  /-- The parts are asked for behind the grant of a token, and with that token. -/
  signedIn : ∀ d g token i, o.SignsIn login link j i d g token →
    ∃ forms requests, i = j ++ .grant d.client login.grant :: forms ∧
      (∀ event ∈ forms, event.Submits d.client login.grant) ∧ k = i ++ requests ∧
      Follows link (Part.all.map (g.listing token.access o.settings.verificationState)) i requests

end

variable {o : Opener} {login : Login} {link : Link} {i j : Journal} {d : Descriptor} {g : Gateway}
  {token : Token}

theorem SignsIn.unique (h : o.SignsIn login link j i d g token) {i' : Journal} {d' : Descriptor}
    {g' : Gateway} {token' : Token} (h' : o.SignsIn login link j i' d' g' token') :
    d' = d ∧ g' = g ∧ token' = token ∧ i' = i := by
  obtain rfl := Except.ok.inj (h'.descriptor.symm.trans h.descriptor)
  obtain rfl := Except.ok.inj (h'.gateway.symm.trans h.gateway)
  cases h'.granted.symm.trans h.granted
  exact ⟨rfl, rfl, rfl, rfl⟩

theorem SignsIn.filled_eq (h : o.SignsIn login link j i d g token) (holdings : Holdings) :
    filled d g token holdings = {
      toHoldings := holdings
      refreshUri := d.tokenUrl
      baseUri := Text.dropTrailingSlashes d.serviceBaseUrl
      clientId := d.clientId
      clientSecret := d.clientSecret
      token } := by
  rw [filled, Gateway.new_eq_ok h.gateway, Descriptor.baseUrl, Text.dropTrailingSlashes_idem]
  rfl

theorem isPhased_of_refused {e : Descriptor.Error}
    (hd : Descriptor.ofText login.descriptor = .error e) :
    o.IsPhased login link j (.error (.badDescriptor e)) j := by
  have hnobody (d g token i) : ¬ o.SignsIn login link j i d g token := fun h =>
    nomatch hd.symm.trans h.descriptor
  exact {
    refused_iff := by simp [hd]
    refused := fun _ _ => rfl
    usable := by simp
    unsigned_iff := by simp [hd]
    unsigned := by simp
    unfetched_iff := by simp [hnobody]
    unfetched := by simp
    opened_iff := by simp [hnobody]
    signedIn := fun d g token i h => absurd h (hnobody d g token i) }

theorem isPhased_of_unsigned {e : Failure} (hd : Descriptor.ofText login.descriptor = .ok d)
    (hask : o.provider.ask d.client login.grant link j = (.error e, i)) :
    o.IsPhased login link j (.error (.notSignedIn e)) i := by
  have hnobody (d' g token i) : ¬ o.SignsIn login link j i d' g token := by
    intro h
    obtain rfl := Except.ok.inj (h.descriptor.symm.trans hd)
    cases hask.symm.trans h.granted
  obtain ⟨forms, hforms, hsubmits⟩ := o.provider.ask_journal d.client login.grant link j
  rw [hask] at hforms
  exact {
    refused_iff := by simp [hd]
    refused := by simp
    usable := by simp
    unsigned_iff := by simp [hd, hask]
    unsigned := fun _ _ => ⟨d, forms, hd, hforms, hsubmits⟩
    unfetched_iff := by simp [hnobody]
    unfetched := by simp
    opened_iff := by simp [hnobody]
    signedIn := fun d g token i h => absurd h (hnobody d g token i) }

theorem SignsIn.journal (h : o.SignsIn login link j i d g token) (order : List Part) :
    ∃ forms requests, i = j ++ .grant d.client login.grant :: forms ∧
      (∀ event ∈ forms, event.Submits d.client login.grant) ∧
      (Holdings.fetch g token.access o.settings.verificationState order link i).2 = i ++ requests ∧
      Follows link (Part.all.map (g.listing token.access o.settings.verificationState)) i requests := by
  obtain ⟨forms, hforms, hsubmits⟩ := o.provider.ask_journal d.client login.grant link j
  obtain ⟨requests, hrequests, hfollows⟩ := Holdings.fetch_keepsTo g token.access
    o.settings.verificationState order link i
  refine ⟨forms, requests, ?_, hsubmits, hrequests, hfollows⟩
  rw [← hforms]
  exact (congrArg Prod.snd h.granted).symm

theorem SignsIn.isPhased (h : o.SignsIn login link j i d g token) (order : List Part) :
    o.IsPhased login link j (o.initiate login order link j).1 (o.initiate login order link j).2 := by
  have hgranted : o.provider.ask d.client login.grant link j = (.ok token, i) := h.granted
  rcases hfetched : Holdings.fetch g token.access o.settings.verificationState order link i with
    ⟨result, k⟩
  have hresult : (Holdings.fetch g token.access o.settings.verificationState order link i).1 = result :=
    congrArg Prod.fst hfetched
  rw [h.initiate hfetched]
  have hfailed {e : OpeningFailure} (he : result.map (filled d g token) = .error e) :
      ∃ (part : Part) (cause : Failure), e = .notFetched part.name cause ∧
        part.read (Answers.received g token.access o.settings.verificationState link i part) =
          .error cause := by
    cases result with
    | ok holdings => cases he
    | error e' =>
      cases he
      exact Holdings.exists_of_fetch_eq_error hresult
  have hnever {e : OpeningFailure} (he : ∀ resource cause, e ≠ .notFetched resource cause) :
      result.map (filled d g token) ≠ .error e := fun herror =>
    let ⟨_, _, hnamed, _⟩ := hfailed herror
    he _ _ hnamed
  exact {
    refused_iff := by simp [hnever, h.descriptor]
    refused := by simp [hnever]
    usable := by simp [hnever]
    unsigned_iff := by simp [hnever, h.descriptor, hgranted]
    unsigned := by simp [hnever]
    unfetched_iff := by
      constructor
      · rintro ⟨resource, cause, he⟩
        obtain ⟨part, cause', -, hbad⟩ := hfailed he
        exact ⟨d, g, token, i, h, part, cause', hbad⟩
      · rintro ⟨d', g', token', i', h', part, cause, hbad⟩
        obtain ⟨rfl, rfl, rfl, rfl⟩ := h.unique h'
        obtain ⟨part', cause', hfetch⟩ := Holdings.exists_fetch_eq_error order hbad
        obtain rfl := hresult.symm.trans hfetch
        exact ⟨_, _, rfl⟩
    unfetched := by
      intro resource cause he
      obtain ⟨part, cause', hnamed, hbad⟩ := hfailed he
      cases hnamed
      exact ⟨d, g, token, i, h, part, rfl, hbad⟩
    opened_iff := by
      intro w
      rw [map_eq_ok_iff]
      constructor
      · rintro ⟨holdings, rfl, rfl⟩
        exact ⟨d, g, token, i, holdings, h, Holdings.fetch_eq_ok_iff.1 hresult, h.filled_eq holdings⟩
      · rintro ⟨d', g', token', i', holdings, h', hhold, rfl⟩
        obtain ⟨rfl, rfl, rfl, rfl⟩ := h.unique h'
        exact ⟨holdings, hresult.symm.trans (Holdings.fetch_eq_ok_iff.2 hhold), h.filled_eq holdings⟩
    signedIn := by
      intro d' g' token' i' h'
      obtain ⟨rfl, rfl, rfl, rfl⟩ := h.unique h'
      have hjournal := h.journal order
      rwa [hfetched] at hjournal }

/-- An opening is refused exactly if its descriptor is, and nothing is sent then; or else it fails to sign
in exactly if no token is granted, and no part is asked for then; or else it fails to fetch exactly if one
of the five parts does; or else it gives the wallet of the descriptor, the token and what was received. -/
theorem initiate_isPhased (ho : Http.isSendable o.settings.userAgent = true) (login : Login)
    (order : List Part) (link : Link) (j : Journal) :
    o.IsPhased login link j (o.initiate login order link j).1 (o.initiate login order link j).2 := by
  rcases hd : Descriptor.ofText login.descriptor with e | d
  · have hinitiate : o.initiate login order link j = (.error (.badDescriptor e), j) := by
      rw [initiate, hd]
      rfl
    rw [hinitiate]
    exact isPhased_of_refused hd
  · have hgateway : Gateway.new d.baseUrl o.settings =
        .ok ⟨Text.dropTrailingSlashes d.baseUrl, Text.trimHeader o.settings.userAgent⟩ := by
      rw [Gateway.new, if_pos ho]
    rcases hask : o.provider.ask d.client login.grant link j with ⟨e | token, i⟩
    · have hinitiate : o.initiate login order link j = (.error (.notSignedIn e), i) := by
        rw [initiate, hd, Talk.bind_of_ok rfl, hgateway, Talk.bind_of_ok rfl]
        exact Talk.bind_of_error (Talk.mapError_apply hask _) _
      rw [hinitiate]
      exact isPhased_of_unsigned hd hask
    · have hsigned : o.SignsIn login link j i d _ token := ⟨hd, hgateway, hask⟩
      exact hsigned.isPhased order

end Opener

end CredentialWallet

namespace CredentialWallet.Opener

open Sample

theorem initiate_listing : (opener.initiate login [] (.up listing) []).1 = .ok opened := by
  decide +kernel

/-- A wallet is opened as it is listed. -/
theorem initiate_isPhased_listing :
    ∃ k, opener.initiate login [] (.up listing) [] = (.ok opened, k) ∧
      opener.IsPhased login (.up listing) [] (.ok opened) k := by
  have ho : Http.isSendable opener.settings.userAgent = true := by decide +kernel
  have hphased := initiate_isPhased ho login [] (.up listing) []
  have hresult := initiate_listing
  rcases hopened : opener.initiate login [] (.up listing) [] with ⟨result, k⟩
  rw [hopened] at hphased hresult
  obtain rfl := hresult
  exact ⟨k, rfl, hphased⟩

/-- Two credentials are received, and the wallet holds the one of them that is stored. -/
theorem initiate_leaves_out :
    (opener.initiate login [] (.up listing) []).1 = .ok opened ∧
      Holdings.Part.read .credentials (Holdings.Answers.received service.gateway "access" .passed
        (.up listing) signedIn .credentials) =
          .ok [credential "1" .accepted, credential "2" .stored] ∧
      opened.credentials = [credential "2" .stored] :=
  ⟨initiate_listing, by decide +kernel, rfl⟩

end CredentialWallet.Opener
