import CredentialWallet.Proofs.Bearer
import CredentialWallet.Proofs.Delivery
import CredentialWallet.Proofs.Reload
/-!
# Sessions

A session begins when a wallet is opened: somebody signs in as a client and is granted a token. From then
on the client and the agency stay what they were. Only a refresh changes the token, to what the refresh
tells, and each refresh presents the refresh token that was issued last. Whatever else is done sends the
access token that is held at the time, and to nobody but the agency.
-/

namespace CredentialWallet

/-! ### Grants -/

/-- A request for a grant carries the form of the grant. -/
def Event.Submits (event : Event) (client : Client) (grant : Grant) : Prop :=
  ∃ r, event = .request r ∧ r.body = some (.form (grant.form client))

/-- Asking for a grant makes a note of it first, and nothing is sent for it but its form. -/
theorem TokenProvider.ask_journal (provider : TokenProvider) (client : Client) (grant : Grant)
    (link : Link) (j : Journal) :
    ∃ sent, (provider.ask client grant link j).2 = j ++ .grant client grant :: sent ∧
      ∀ event ∈ sent, event.Submits client grant := by
  cases provider with
  | own answer => exact ⟨[], rfl, fun _ h => absurd h List.not_mem_nil⟩
  | endpoint userAgent =>
    obtain ⟨hnone, -⟩ | ⟨r, hsent, -, hbody⟩ := endpoint_ask_journal userAgent client grant link j
    · exact ⟨[], hnone, fun _ h => absurd h List.not_mem_nil⟩
    · refine ⟨[.request r], hsent, fun event hevent => ?_⟩
      obtain rfl := List.mem_singleton.1 hevent
      exact ⟨r, rfl, hbody⟩

namespace Service

/-! ### Refreshes -/

section

variable {s : Service} {link : Link} {w : Wallet} {j k : Journal}

theorem perform_refreshToken_of_none (h : w.token.refresh = none) :
    s.perform .refreshToken link w j =
      (.error (.failure (.authentication "wallet has no refresh token")), w, j) := by
  have hasked : s.askForToken w link j =
      (.error (.authentication "wallet has no refresh token"), j) := by
    rw [askForToken, h]
    rfl
  exact perform_of_error (finding_of_error hasked)

variable {old : String} (h : w.token.refresh = some old)
include h

theorem perform_refreshToken_of_ok {granted : Token}
    (hgranted : s.provider.ask w.client (.refresh old) link j = (.ok granted, k)) :
    s.perform .refreshToken link w j =
      (.ok (.token { granted with refresh := granted.refresh.or (some old) }),
        w.recordToken { granted with refresh := granted.refresh.or (some old) }, k) := by
  have hasked : s.askForToken w link j =
      (.ok { granted with refresh := granted.refresh.or (some old) }, k) := by
    rw [askForToken, h]
    exact Talk.bind_of_ok hgranted _
  have hfound : s.inquire w .refreshToken link j =
      (.ok (.token { granted with refresh := granted.refresh.or (some old) }), k) :=
    finding_of_ok hasked
  exact perform_of_ok hfound

theorem perform_refreshToken_of_error {e : Failure}
    (hrefused : s.provider.ask w.client (.refresh old) link j = (.error e, k)) :
    s.perform .refreshToken link w j = (.error (.failure e), w, k) := by
  have hasked : s.askForToken w link j = (.error e, k) := by
    rw [askForToken, h]
    exact Talk.bind_of_error hrefused _
  exact perform_of_error (finding_of_error hasked)

theorem perform_refreshToken_journal :
    (s.perform .refreshToken link w j).2.2 = (s.provider.ask w.client (.refresh old) link j).2 := by
  rcases hasked : s.provider.ask w.client (.refresh old) link j with ⟨e | granted, k⟩
  · rw [perform_refreshToken_of_error h hasked]
  · rw [perform_refreshToken_of_ok h hasked]

end

def Step.refreshed? (step : Step) : Option Token :=
  match step.operation, step.told with
  | .refreshToken, .ok (.token t) => some t
  | _, _ => none

/-- The token that a provider grants to a refresh, before anything is kept of the old one. -/
def granted? (s : Service) (link : Link) (step : Step) : Option Token :=
  match step.operation, step.before.1.token.refresh with
  | .refreshToken, some old =>
    (s.provider.ask step.before.1.client (.refresh old) link step.before.2).1.toOption
  | _, _ => none

/-- The refresh token that a provider issues to a refresh. -/
def issued? (s : Service) (link : Link) (step : Step) : Option String :=
  (s.granted? link step).bind Token.refresh

/-- A refresh tells the token that was granted, which keeps the old refresh token if it has none. -/
theorem step_refreshed? (s : Service) (link : Link) (operation : Operation) (state : Wallet × Journal) :
    (s.step link operation state).refreshed? =
      (s.granted? link (s.step link operation state)).map fun granted =>
        { granted with refresh := granted.refresh.or state.1.token.refresh } := by
  obtain ⟨w, j⟩ := state
  cases operation with
  | refreshToken =>
    rcases hold : w.token.refresh with _ | old
    · simp only [step, Step.refreshed?, granted?, hold, perform_refreshToken_of_none hold]
      rfl
    · rcases hasked : s.provider.ask w.client (.refresh old) link j with ⟨e | granted, k⟩
      · simp only [step, Step.refreshed?, granted?, hold, hasked,
          perform_refreshToken_of_error hold hasked]
        rfl
      · simp only [step, Step.refreshed?, granted?, hold, hasked, perform_refreshToken_of_ok hold hasked]
        rfl
  | _ => rfl

/-! ### What an operation keeps -/

theorem record_client (operation : Operation) (found : Finding) (w : Wallet) :
    (operation.record found w).client = w.client ∧ (operation.record found w).baseUri = w.baseUri := by
  cases operation with
  | actOnProofRequest request action => cases action <;> cases found <;> exact ⟨rfl, rfl⟩
  | _ => cases found <;> exact ⟨rfl, rfl⟩

theorem record_token (operation : Operation) (found : Finding) (w : Wallet) :
    (operation.record found w).token =
      match operation, found with
      | .refreshToken, .token t => t
      | _, _ => w.token := by
  cases operation with
  | actOnProofRequest request action => cases action <;> cases found <;> rfl
  | _ => cases found <;> rfl

section

variable (s : Service) (link : Link) (operation : Operation) (w : Wallet) (j : Journal)

theorem perform_client :
    (s.perform operation link w j).2.1.client = w.client ∧
      (s.perform operation link w j).2.1.baseUri = w.baseUri := by
  rcases hasked : s.inquire w operation link j with ⟨e | found, k⟩
  · rw [perform_of_error hasked]
    exact ⟨rfl, rfl⟩
  · rw [perform_of_ok hasked]
    exact record_client operation found w

theorem perform_token :
    (s.perform operation link w j).2.1.token =
      (s.step link operation (w, j)).refreshed?.getD w.token := by
  rcases hasked : s.inquire w operation link j with ⟨e | found, k⟩
  · simp only [step, Step.refreshed?, perform_of_error hasked]
    cases operation <;> rfl
  · simp only [step, Step.refreshed?, perform_of_ok hasked, record_token]
    cases operation with
    | refreshToken => cases found <;> rfl
    | _ => rfl

theorem perform_refresh :
    (s.perform operation link w j).2.1.token.refresh =
      (s.issued? link (s.step link operation (w, j))).or w.token.refresh := by
  rw [perform_token, step_refreshed?, issued?]
  rcases s.granted? link (s.step link operation (w, j)) with _ | granted <;> rfl

end

/-! ### Runs -/

theorem getLast?_filterMap_cons_or {α β : Type} (f : α → Option β) (a : α) (rest : List α)
    (before : Option β) :
    (((a :: rest).filterMap f).getLast?).or before = ((rest.filterMap f).getLast?).or ((f a).or before) := by
  rcases h : f a with _ | b
  · rw [List.filterMap_cons_none h, Option.none_or]
  · rw [List.filterMap_cons_some h, List.getLast?_cons, Option.some_or, Option.some_or, Option.or_some]

section

variable (s : Service) (link : Link)

theorem run_client (past : List Operation) (w : Wallet) (j : Journal) :
    (s.run link past (w, j)).1.client = w.client ∧ (s.run link past (w, j)).1.baseUri = w.baseUri := by
  induction past generalizing w j with
  | nil => exact ⟨rfl, rfl⟩
  | cons operation rest ih =>
    obtain ⟨hclient, hbase⟩ := s.perform_client link operation w j
    obtain ⟨hclients, hbases⟩ := ih _ (s.perform operation link w j).2.2
    exact ⟨hclients.trans hclient, hbases.trans hbase⟩

/-- What each step either replaces or keeps is, after a run, what the last step to replace it put there. -/
theorem run_last {β : Type} (held : Wallet → Option β) (put? : Step → Option β)
    (hstep : ∀ operation w j, held (s.perform operation link w j).2.1 =
      (put? (s.step link operation (w, j))).or (held w))
    (past : List Operation) (w : Wallet) (j : Journal) :
    held (s.run link past (w, j)).1 =
      (((s.steps link past (w, j)).filterMap put?).getLast?).or (held w) := by
  induction past generalizing w j with
  | nil => rfl
  | cons operation rest ih =>
    rw [run_cons, steps, getLast?_filterMap_cons_or, ← hstep]
    exact ih _ _

theorem run_token (past : List Operation) (w : Wallet) (j : Journal) :
    (s.run link past (w, j)).1.token =
      (((s.steps link past (w, j)).filterMap Step.refreshed?).getLast?).getD w.token := by
  have hstep (operation : Operation) (w : Wallet) (j : Journal) :
      some (s.perform operation link w j).2.1.token =
        ((s.step link operation (w, j)).refreshed?).or (some w.token) := by
    rw [perform_token, Option.or_some]
  rw [← Option.some_inj, ← Option.or_some]
  exact s.run_last link (fun v => some v.token) Step.refreshed? hstep past w j

theorem run_refresh (past : List Operation) (w : Wallet) (j : Journal) :
    (s.run link past (w, j)).1.token.refresh =
      (((s.steps link past (w, j)).filterMap (s.issued? link)).getLast?).or w.token.refresh :=
  s.run_last link (·.token.refresh) (s.issued? link) (s.perform_refresh link) past w j

end

/-! ### Sessions -/

/-- What holds of a wallet and a journal after some steps of the session that began with a wallet. -/
structure InSession (s : Service) (link : Link) (site : Url.Site) (opened : Wallet) (past : List Step)
    (state : Wallet × Journal) : Prop where
  client : state.1.client = opened.client
  baseUri : state.1.baseUri = opened.baseUri
  /-- The token is the one that was told last. -/
  token : state.1.token = ((past.filterMap Step.refreshed?).getLast?).getD opened.token
  /-- The refresh token is the one that was issued last. -/
  refresh : state.1.token.refresh =
    ((past.filterMap (s.issued? link)).getLast?).or opened.token.refresh
  held (later : List Operation) (h : state.1.token.refresh.isSome) :
    (s.run link later state).1.token.refresh.isSome
  refuses (h : state.1.token.refresh = none) :
    s.perform .refreshToken link state.1 state.2 =
      (.error (.failure (.authentication "wallet has no refresh token")), state)
  refreshes (old : String) (h : state.1.token.refresh = some old) :
    ∃ sent, (s.perform .refreshToken link state.1 state.2).2.2 =
        state.2 ++ .grant opened.client (.refresh old) :: sent ∧
      ∀ event ∈ sent, event.Submits opened.client (.refresh old)
  tells (operation : Operation) :
    (s.step link operation state).refreshed? =
      (s.granted? link (s.step link operation state)).map fun granted =>
        { granted with refresh := granted.refresh.or state.1.token.refresh }
  asks (operation : Operation) (h : operation ≠ .refreshToken) :
    ∃ sent, (s.perform operation link state.1 state.2).2.2 = state.2 ++ sent ∧
      ∀ event ∈ sent, event.Bears state.1.token.access site

theorem run_inSession {s : Service} {site : Url.Site} (hs : s.gateway.LeadsTo site) (link : Link)
    (past : List Operation) (w : Wallet) (j : Journal) :
    s.InSession link site w (s.steps link past (w, j)) (s.run link past (w, j)) := by
  obtain ⟨hclient, hbase⟩ := s.run_client link past w j
  -- what refers to the past was shown by induction on it, the rest holds of any one operation
  refine {
    client := hclient
    baseUri := hbase
    token := s.run_token link past w j
    refresh := s.run_refresh link past w j
    held := fun later h => ?_
    refuses := perform_refreshToken_of_none
    refreshes := fun old h => ?_
    tells := fun operation => s.step_refreshed? link operation _
    asks := fun operation h => ?_ }
  · rw [run_refresh, Option.isSome_or, h, Bool.or_true]
  · rw [perform_refreshToken_journal h, hclient]
    exact s.provider.ask_journal w.client (.refresh old) link _
  · obtain ⟨sent, hsent, hfollows⟩ := s.perform_follows operation link (s.run link past (w, j)).1
      (s.run link past (w, j)).2
    exact ⟨sent, hsent, hfollows.bears (plan_bears hs _ h)⟩

end Service

/-! ### Openings -/

theorem Text.exists_eq_dropTrailingSlashes_append (s : String) :
    ∃ n, s = dropTrailingSlashes s ++ slashes n := by
  have hslashes : ∀ c ∈ s.toList.rtakeWhile (· == '/'), c = '/' := by
    intro c hc
    simpa using List.mem_rtakeWhile_imp hc
  refine ⟨(s.toList.rtakeWhile (· == '/')).length, String.toList_inj.1 ?_⟩
  rw [String.toList_append, dropTrailingSlashes, slashes, String.toList_ofList, String.toList_ofList,
    ← List.eq_replicate_of_mem hslashes]
  exact List.rdropWhile_append_rtakeWhile.symm

theorem Url.userOf_dropTrailingSlashes (base : String) :
    userOf (Text.dropTrailingSlashes base) = userOf base := by
  obtain ⟨n, hn⟩ := Text.exists_eq_dropTrailingSlashes_append base
  have hslashes : ∀ c ∈ (Text.slashes n).toList, 32 < c.toNat ∧ c ≠ ':' ∧ c ≠ '@' := by
    intro c hc
    rw [Text.slashes, String.toList_ofList] at hc
    rw [(List.mem_replicate.1 hc).2]
    decide
  conv_rhs => rw [hn, userOf_append hslashes]

namespace Opener

variable {o : Opener} {login : Login} {order : List Holdings.Part} {link : Link} {j k : Journal}
  {w : Wallet}

theorem SignsIn.exists_leadsTo {d : Descriptor} {g : Gateway} {token : Token} {i : Journal}
    {holdings : Holdings} (h : o.SignsIn login link j i d g token)
    (hfetch : Holdings.fetch g token.access o.settings.verificationState order link i =
      (.ok holdings, k)) (huser : Url.userOf d.serviceBaseUrl = ([], [])) :
    ∃ site, g.LeadsTo site := by
  obtain ⟨requests, hprepared⟩ := Holdings.prepared_of_fetch hfetch
  have hconnections := hprepared .connections
  obtain ⟨u, hparse, -⟩ := Gateway.prepare_eq_ok hconnections
  have hkind := (Gateway.isReachable_of_prepare hconnections hparse).kind
  have hnobody : Url.userOf g.baseUrl = ([], []) := by
    rw [Gateway.new_eq_ok h.gateway, Descriptor.baseUrl, Url.userOf_dropTrailingSlashes,
      Url.userOf_dropTrailingSlashes, huser]
  exact Gateway.exists_leadsTo_of_parse hnobody (by decide) hparse hkind

end Opener

namespace Service

/-- A wallet is opened with the token of somebody who signs in as the client of its descriptor, and the
session that begins there stays with that client and with the site of its base URL, whatever is done in
it and whatever the agency and the provider do. -/
theorem run_stays_in_session {o : Opener} {login : Login} {order : List Holdings.Part} {link : Link}
    {j k : Journal} {w : Wallet} {d : Descriptor} {settings : Settings} {provider : TokenProvider}
    {s : Service} (hopened : o.initiate login order link j = (.ok w, k))
    (hd : Descriptor.ofText login.descriptor = .ok d)
    (huser : Url.userOf d.serviceBaseUrl = ([], [])) (hs : new w settings provider = .ok s) :
    ∃ (site : Url.Site) (forms requests : Journal),
      s.gateway.LeadsTo site ∧ w.client = d.client ∧
      o.provider.ask d.client (.password login.username login.password) link j =
        (.ok w.token, j ++ .grant d.client (.password login.username login.password) :: forms) ∧
      (∀ event ∈ forms, event.Submits d.client (.password login.username login.password)) ∧
      k = j ++ .grant d.client (.password login.username login.password) :: (forms ++ requests) ∧
      (∀ event ∈ requests, event.Bears w.token.access site) ∧
      ∀ past, s.InSession link site w (s.steps link past (w, k)) (s.run link past (w, k)) := by
  obtain ⟨found, g, token, i, holdings, hsigned, hfetch, rfl⟩ := Opener.exists_signsIn_of_initiate hopened
  obtain rfl : found = d := Except.ok.inj (hsigned.descriptor.symm.trans hd)
  obtain ⟨site, hg⟩ := hsigned.exists_leadsTo hfetch huser
  obtain ⟨gateway, hgateway, rfl⟩ := map_eq_ok_iff.1 hs
  have hbase : gateway.baseUrl = g.baseUrl := by
    rw [Gateway.new_eq_ok hgateway, Opener.filled, Gateway.new_eq_ok hsigned.gateway]
    exact Text.dropTrailingSlashes_idem _
  have hleads := hg.of_baseUrl_eq hbase
  obtain ⟨forms, hforms, hsubmits⟩ := o.provider.ask_journal found.client
    (.password login.username login.password) link j
  obtain ⟨requests, hrequests, hfollows⟩ := Holdings.fetch_keepsTo g token.access
    o.settings.verificationState order link i
  have hi : i = j ++ .grant found.client (.password login.username login.password) :: forms := by
    rw [← hforms, hsigned.granted]
  have hk : k = i ++ requests := by
    rw [← hrequests, hfetch]
  have hbears : ∀ event ∈ requests, event.Bears token.access site := by
    refine hfollows.bears ?_
    rw [List.forall_mem_map]
    exact fun part _ => hg.stage_bears _ (part.isAddress _ _) _ _
  refine ⟨site, forms, requests, hleads, rfl, ?_, hsubmits, ?_, hbears, fun past => ?_⟩
  · rw [hsigned.granted, hi]
    rfl
  · rw [hk, hi, List.append_assoc, List.cons_append]
  · exact run_inSession hleads link past _ k

end Service

end CredentialWallet

namespace CredentialWallet.Sample

/-- An agency that always says the same, which makes an agent as well as an empty listing. -/
def steady : Http.Request → Option Http.Answer := fun _ =>
  some (answering (braced ["\"id\":\"a\",", "\"name\":\"holder\",", "\"url\":\"\",", "\"items\":[]"]))

/-- A provider that grants a token that can be refreshed to whoever signs in, and for its refresh token
one that cannot. -/
def renewer : TokenProvider := .own fun grants =>
  match grants.getLast? with
  | some (_, .refresh _) => .ok (.bearer "renewed")
  | _ => .ok { Token.bearer "access" with refresh := some "refresh" }

theorem renewer_ask_refresh (client : Client) (old : String) (link : Link) (j : Journal) :
    renewer.ask client (.refresh old) link j =
      (.ok (.bearer "renewed"), j ++ [.grant client (.refresh old)]) := by
  have hlast : (Journal.grants (j ++ [.grant client (.refresh old)])).getLast? =
      some (client, .refresh old) := by
    rw [Journal.grants_append]
    exact List.getLast?_concat ..
  simp only [renewer, TokenProvider.ask, bind, Talk.note, Talk.ofExcept, hlast]

end CredentialWallet.Sample

namespace CredentialWallet.Service

open Sample

/-- A wallet is opened and refreshed twice, and still presents the refresh token of the beginning. -/
theorem run_stays_in_session_renewed :
    ∃ (w : Wallet) (k : Journal) (s : Service) (site : Url.Site),
      Opener.initiate ⟨opener.settings, renewer⟩ login [] (.up (.forgetful steady)) [] = (.ok w, k) ∧
        Descriptor.ofText login.descriptor = .ok ⟨"http://[::1]", "t", "c", none, none⟩ ∧
        Url.userOf "http://[::1]" = ([], []) ∧
        new w opener.settings renewer = .ok s ∧
        s.InSession (.up (.forgetful steady)) site w
          (s.steps (.up (.forgetful steady)) [.refreshToken, .refreshToken] (w, k))
          (s.run (.up (.forgetful steady)) [.refreshToken, .refreshToken] (w, k)) ∧
        (s.run (.up (.forgetful steady)) [.refreshToken, .refreshToken] (w, k)).1.token =
          { Token.bearer "renewed" with refresh := some "refresh" } := by
  have h : (Opener.initiate ⟨opener.settings, renewer⟩ login [] (.up (.forgetful steady)) []).1 =
      .ok { opened with
        credentials := []
        token := { Token.bearer "access" with refresh := some "refresh" } } := by decide +kernel
  rcases hopened : Opener.initiate ⟨opener.settings, renewer⟩ login [] (.up (.forgetful steady)) []
    with ⟨r, k⟩
  rw [hopened] at h
  obtain rfl := h
  have hd : Descriptor.ofText login.descriptor = .ok ⟨"http://[::1]", "t", "c", none, none⟩ := by
    decide +kernel
  have huser : Url.userOf "http://[::1]" = ([], []) := by decide +kernel
  have hgateway : Gateway.new baseUrl opener.settings = .ok service.gateway := by decide +kernel
  have hs : new { opened with
      credentials := []
      token := { Token.bearer "access" with refresh := some "refresh" } } opener.settings renewer =
        .ok ⟨service.gateway, renewer, .passed⟩ := by
    rw [new, opened, hgateway]
    rfl
  obtain ⟨site, _, _, -, -, -, -, -, -, hsession⟩ := run_stays_in_session hopened hd huser hs
  have hkept := hsession [.refreshToken, .refreshToken]
  refine ⟨_, k, _, site, rfl, hd, huser, hs, hkept, ?_⟩
  rw [run_cons, perform_refreshToken_of_ok rfl (renewer_ask_refresh ..), run_cons,
    perform_refreshToken_of_ok rfl (renewer_ask_refresh ..)]
  rfl

end CredentialWallet.Service
