import CredentialWallet.Command.Run
import CredentialWallet.Proofs.Document
import CredentialWallet.Proofs.Processor
/-!
# What a command does

A command opens the wallet, which changes nothing at the agency. What deals with an invitation then hands
it in to be inspected, and goes on only if the agency answers by a preview of the right kind; from then on
the id and the URL of that preview are used. Whatever happens, the program leaves one document on its
output or none.
-/

namespace CredentialWallet

open Http (Answer Request)

/-! ### Requests that change nothing -/

/-- Neither commits an invitation nor changes or deletes a record. -/
structure Http.Request.IsHarmless (r : Request) : Prop where
  noPatch : r.method ≠ .patch
  noDelete : r.method ≠ .delete
  noCommit : ∀ body, r.body = some (.json body) → body.get? "inspect" ≠ some (.bool false)

/-- All requests that a talk sends are of one sort. -/
def Talk.SendsOnly {ε α : Type} (sort : Request → Prop) (x : Talk ε α) : Prop :=
  ∀ link j, ∃ sent, (x link j).2 = j ++ sent ∧ ∀ r, .request r ∈ sent → sort r

namespace Talk

variable {ε ε' α β : Type} {sort : Request → Prop}

theorem sendsOnly_ofExcept (x : Except ε α) : (ofExcept x).SendsOnly sort := fun _ j =>
  ⟨[], (List.append_nil j).symm, fun _ h => absurd h List.not_mem_nil⟩

theorem sendsOnly_pure (a : α) : (pure a : Talk ε α).SendsOnly sort := sendsOnly_ofExcept (.ok a)

namespace SendsOnly

variable {x : Talk ε α}

theorem mono {sort' : Request → Prop} (h : x.SendsOnly sort) (himp : ∀ r, sort r → sort' r) :
    x.SendsOnly sort' := by
  intro link j
  obtain ⟨sent, hsent, hsort⟩ := h link j
  exact ⟨sent, hsent, fun r hr => himp r (hsort r hr)⟩

theorem mapError (h : x.SendsOnly sort) (f : ε → ε') : (x.mapError f).SendsOnly sort := h

theorem bind (hx : x.SendsOnly sort) {f : α → Talk ε β} (hf : ∀ a, (f a).SendsOnly sort) :
    (x >>= f).SendsOnly sort := by
  intro link j
  obtain ⟨now, hnow, hsort⟩ := hx link j
  rcases hresult : x link j with ⟨e | a, k⟩
  · obtain rfl : k = j ++ now := by rw [← hnow, hresult]
    exact ⟨now, by rw [bind_of_error hresult], hsort⟩
  · obtain rfl : k = j ++ now := by rw [← hnow, hresult]
    obtain ⟨later, hlater, hsort'⟩ := hf a link (j ++ now)
    refine ⟨now ++ later, ?_, fun r hr => (List.mem_append.1 hr).elim (hsort r) (hsort' r)⟩
    rw [bind_of_ok hresult, hlater, List.append_assoc]

end SendsOnly

theorem KeepsTo.sendsOnly {x : Talk ε α} {plan : List Stage} (h : x.KeepsTo plan)
    (hplan : ∀ stage ∈ plan, ∀ r, stage.event? = some (.request r) → sort r) : x.SendsOnly sort := by
  intro link j
  obtain ⟨sent, hsent, hfollows⟩ := h link j
  refine ⟨sent, hsent, fun r hr => ?_⟩
  obtain ⟨stage, hstage, hevent⟩ := hfollows.exists_stage hr
  exact hplan stage hstage r hevent

end Talk

theorem Gateway.isHarmless_of_inspection {g : Gateway} {token url : String} {r : Request}
    (hr : (g.submission token ⟨url, true⟩).event? = some (.request r)) : r.IsHarmless := by
  obtain ⟨hmethod, hbody⟩ := request_of_event hr
  refine ⟨by simp [hmethod], by simp [hmethod], fun body hjson => ?_⟩
  rw [hbody] at hjson
  cases hjson
  simp [Invitation.Submission.toJson, Json.get?, Entries.get?]

theorem Holdings.fetch_isHarmless (g : Gateway) (token : String) (state : VerificationState)
    (order : List Part) : (fetch g token state order).SendsOnly Request.IsHarmless := by
  refine (fetch_keepsTo g token state order).sendsOnly ?_
  rw [List.forall_mem_map]
  intro part _ r hr
  obtain ⟨hmethod, hbody⟩ := Gateway.request_of_event hr
  exact ⟨by simp [hmethod], by simp [hmethod], by simp [hbody]⟩

theorem TokenProvider.ask_isHarmless (provider : TokenProvider) (client : Client) (grant : Grant) :
    (provider.ask client grant).SendsOnly Request.IsHarmless := by
  refine (provider.ask_keepsTo client grant).sendsOnly fun stage hstage r hr => ?_
  obtain ⟨hmethod, hbody⟩ := request_of_granting hstage hr
  exact ⟨by simp [hmethod], by simp [hmethod], by simp [hbody]⟩

theorem Opener.initiate_isHarmless (o : Opener) (login : Login) (order : List Holdings.Part) :
    (o.initiate login order).SendsOnly Request.IsHarmless := by
  rw [initiate]
  refine (Talk.sendsOnly_ofExcept _).bind fun d => ?_
  refine (Talk.sendsOnly_ofExcept _).bind fun g => ?_
  refine ((o.provider.ask_isHarmless d.client _).mapError _).bind fun token => ?_
  exact (Holdings.fetch_isHarmless _ _ _ _).bind fun holdings => Talk.sendsOnly_pure _

/-! ### Opened wallets -/

theorem Holdings.exists_up_of_fetch {g : Gateway} {token : String} {state : VerificationState}
    {order : List Part} {link : Link} {j k : Journal} {h : Holdings}
    (hfetch : fetch g token state order link j = (.ok h, k)) : ∃ agency, link = .up agency := by
  cases link with
  | up agency => exact ⟨agency, rfl⟩
  | down =>
    obtain ⟨requests, hprepared⟩ := prepared_of_fetch hfetch
    have hasked : ask g token state .agent .down j =
        (.error (.notFetched "agent" (.transport (.unreachable (requests .agent).url.text))), j) := by
      rw [ask, hprepared]
      rfl
    rw [fetch, Talk.bind_of_error hasked] at hfetch
    cases hfetch

/-- Once a wallet is open, the service for it can hand in any invitation. -/
theorem Opener.exists_handing {o : Opener} {login : Login} {order : List Holdings.Part} {link : Link}
    {j k : Journal} {w : Wallet} {s : Service} (hopened : o.initiate login order link j = (.ok w, k))
    (hs : Service.new w o.settings o.provider = .ok s) :
    ∃ agency, link = .up agency ∧ ∀ body, ∃ r,
      Gateway.prepare s.gateway.userAgent .post (s.gateway.endpoint "invitation_processor")
        (some w.accessToken) body = .ok r := by
  obtain ⟨d, g, token, i, holdings, hsigned, hfetch, rfl⟩ := exists_signsIn_of_initiate hopened
  obtain ⟨agency, rfl⟩ := Holdings.exists_up_of_fetch hfetch
  obtain ⟨requests, hprepared⟩ := Holdings.prepared_of_fetch hfetch
  obtain rfl := Except.ok.inj ((hsigned.service_of_filled holdings).symm.trans hs)
  exact ⟨agency, rfl, Gateway.exists_prepare_processor (hprepared .verifications)⟩

namespace Command

variable {files : Files} {o : Options} {link : Link} {j k : Journal} {s : Service} {w : Wallet}

theorem openWallet_isHarmless (files : Files) (o : Options) :
    (openWallet files o).SendsOnly Request.IsHarmless := by
  rw [openWallet]
  refine (Talk.sendsOnly_ofExcept _).bind fun descriptor => ?_
  refine (Talk.sendsOnly_ofExcept _).bind fun opener => ?_
  refine ((opener.initiate_isHarmless _ []).mapError _).bind fun w => ?_
  exact (Talk.sendsOnly_ofExcept _).bind fun service => Talk.sendsOnly_pure _

theorem openWallet_eq_ok (h : openWallet files o link j = (.ok (s, w), k)) :
    ∃ (opener : Opener) (login : Login), opener.initiate login [] link j = (.ok w, k) ∧
      Service.new w opener.settings opener.provider = .ok s := by
  rw [openWallet] at h
  obtain ⟨descriptor, _, hdescriptor, hread⟩ := Talk.bind_eq_ok h
  obtain ⟨opener, _, hopener, hready⟩ := Talk.bind_eq_ok hread
  obtain ⟨v, i, hopened, hfilled⟩ := Talk.bind_eq_ok hready
  obtain ⟨service, _, hservice, hdone⟩ := Talk.bind_eq_ok hfilled
  obtain ⟨-, rfl⟩ := Talk.ofExcept_eq_ok hdescriptor
  obtain ⟨-, rfl⟩ := Talk.ofExcept_eq_ok hopener
  obtain ⟨hs, rfl⟩ := Talk.ofExcept_eq_ok hservice
  cases hdone
  exact ⟨opener, _, Talk.mapError_eq_ok hopened, mapError_eq_ok_iff.1 hs⟩

end Command

/-! ### Inspections -/

/-- The agency answers the last request of a journal by a preview. -/
def Link.Previews (link : Link) (j : Journal) (p : Preview) : Prop :=
  ∃ (a : Answer) (payload : Json),
    link.answer? j = some a ∧ a.Holds payload ∧ Preview.ofJson payload = .ok p

theorem Invitation.submitForPreview_of_prepared {g : Gateway} {token : String} {m : Submission}
    {r : Request} (agency : Agency) (j : Journal)
    (h : Gateway.prepare g.userAgent .post (g.endpoint "invitation_processor") (some token)
      (some (.json m.toJson)) = .ok r) :
    ∃ result, submitForPreview g token m (.up agency) j = (result, j ++ [.request r]) ∧
      ∀ p, result = .ok p ↔ Link.Previews (.up agency) (j ++ [.request r]) p := by
  have hprepared : Gateway.prepare g.userAgent .post (g.endpoint "invitation_processor") (some token)
      ((some m.toJson).map .json) = .ok r := h
  have hperformed := Gateway.perform_of_prepared (α := Json) agency j hprepared
  have hposted := Talk.bind_ofExcept_apply hperformed Gateway.Reply.intoContent
  have hread := Talk.bind_ofExcept_apply hposted fun payload =>
    (Preview.ofJson payload).mapError Failure.malformed
  rw [submitForPreview, submit, Gateway.post]
  refine ⟨_, hread, fun p => ?_⟩
  simp only [bind_eq_ok_iff, mapError_eq_ok_iff, Talk.received_eq_ok_iff]
  constructor
  · rintro ⟨payload, ⟨reply, ⟨a, ha, hreply⟩, hcontent⟩, hp⟩
    obtain rfl := Gateway.intoContent_eq_ok hcontent
    exact ⟨a, payload, ha, Gateway.interpret_eq_content_iff.1 hreply, hp⟩
  · rintro ⟨a, payload, ha, hholds, hp⟩
    exact ⟨payload, ⟨.content payload, ⟨a, ha, Gateway.interpret_eq_content_iff.2 hholds⟩, rfl⟩, hp⟩

theorem Service.preview_apply {s : Service} {url : String} {link : Link} {w : Wallet} {j k : Journal}
    {result : Except Failure Preview}
    (h : Invitation.inspect s.gateway w.accessToken url link j = (result, k)) :
    s.preview url link w j = (result, w, k) := by
  rw [preview_eq, Deed.consult_apply, h]
  cases result <;> rfl

/-! ### Commands that deal with an invitation -/

namespace Command

/-- The URL of the invitation that a command deals with, and the kind that it takes it for. -/
def deals? : Command → Option (String × Preview.Kind)
  | accept url => some (url, .credential)
  | reject url => some (url, .credential)
  | prove url => some (url, .verification)
  | _ => none

/-- What a command does about an invitation of its kind. -/
def operation? : Command → Preview → Option Service.Operation
  | accept _, .offer offer => some (.actOnOffer offer .accept)
  | reject _, .offer offer => some (.actOnOffer offer .reject)
  | prove _, .proofRequest request => some (.actOnProofRequest request .generate)
  | _, _ => none

/-- What a command may send about an invitation, with the id and the URL of its preview. -/
def followUp (g : Gateway) (token : String) (p : Preview) : Command → List Stage
  | accept _ =>
    g.submission token ⟨p.url, false⟩ ::
      g.revising token "credentials" p.id (Credential.Update.toState .accepted).toJson
  | reject _ => g.revising token "credentials" p.id (Credential.Update.toState .rejected).toJson
  | prove _ =>
    g.submission token ⟨p.url, false⟩ ::
      g.revising token "verifications" p.id (Verification.Update.mk .proofGenerated).toJson
  | _ => []

theorem plan_of_operation {c : Command} {p : Preview} {operation : Service.Operation}
    (h : c.operation? p = some operation) (s : Service) (w : Wallet) :
    s.plan w operation = c.followUp s.gateway w.accessToken p := by
  cases c <;> cases p <;> cases h <;> rfl

/-- What a command comes to once its wallet is open, and what it sends: first it inspects the invitation
at a URL, and then come the other events. -/
structure InspectsFirst (c : Command) (url : String) (kind : Preview.Kind) (s : Service) (w : Wallet)
    (link : Link) (opened : Journal) (result : Except Complaint Json) (inspection : Request)
    (others : Journal) : Prop where
  inspects : (s.gateway.submission w.accessToken ⟨url, true⟩).event? = some (.request inspection)
  /-- Without a preview of the right kind nothing else is sent, and the command fails. -/
  goesOn (h : others ≠ [] ∨ ∃ value, result = .ok value) :
    ∃ p, link.Previews (opened ++ [.request inspection]) p ∧ p.kind = kind ∧
      Follows link (c.followUp s.gateway w.accessToken p) (opened ++ [.request inspection]) others
  /-- A preview of the right kind is acted on. -/
  acts (p : Preview) (h : link.Previews (opened ++ [.request inspection]) p) (hkind : p.kind = kind) :
    ∃ operation told v, c.operation? p = some operation ∧
      s.perform operation link w (opened ++ [.request inspection]) =
        (told, v, opened ++ .request inspection :: others) ∧
      ((∃ value, result = .ok value) ↔ ∃ outcome, told = .ok outcome)
  /-- A preview of the other kind is not. -/
  refuses (p : Preview) (h : link.Previews (opened ++ [.request inspection]) p) (hkind : p.kind ≠ kind) :
    others = [] ∧ ∃ complaint, result = .error complaint

namespace InspectsFirst

variable {c : Command} {url : String} {kind : Preview.Kind} {opened : Journal} {inspection : Request}

theorem of_refused
    (hinspects : (s.gateway.submission w.accessToken ⟨url, true⟩).event? = some (.request inspection))
    (hother : ∀ p, link.Previews (opened ++ [.request inspection]) p → p.kind ≠ kind)
    (complaint : Complaint) :
    c.InspectsFirst url kind s w link opened (.error complaint) inspection [] where
  inspects := hinspects
  goesOn := by simp
  acts p h hkind := absurd hkind (hother p h)
  refuses _ _ _ := ⟨rfl, complaint, rfl⟩

theorem of_operation {p : Preview} {operation : Service.Operation} {result : Except Complaint Json}
    {told : Except Service.Mishap Service.Outcome} {v : Wallet} {others : Journal}
    (hinspects : (s.gateway.submission w.accessToken ⟨url, true⟩).event? = some (.request inspection))
    (hpreviews : link.Previews (opened ++ [.request inspection]) p)
    (honly : ∀ q, link.Previews (opened ++ [.request inspection]) q → q = p) (hkind : p.kind = kind)
    (hoperation : c.operation? p = some operation)
    (htold : s.perform operation link w (opened ++ [.request inspection]) =
      (told, v, opened ++ .request inspection :: others))
    (hiff : (∃ value, result = .ok value) ↔ ∃ outcome, told = .ok outcome) :
    c.InspectsFirst url kind s w link opened result inspection others where
  inspects := hinspects
  goesOn _ := by
    obtain ⟨sent, hsent, hfollows⟩ :=
      s.perform_follows operation link w (opened ++ [.request inspection])
    rw [plan_of_operation hoperation] at hfollows
    rw [htold, List.append_cons, List.append_cancel_left_eq] at hsent
    exact ⟨p, hpreviews, hkind, hsent ▸ hfollows⟩
  acts q h _ := by
    obtain rfl := honly q h
    exact ⟨operation, told, v, hoperation, htold, hiff⟩
  refuses q h hother := absurd (honly q h ▸ hkind) hother

end InspectsFirst

theorem exists_report_eq {α : Type} (d : Deed Failure α) (give : α → Json) (right : α → Service.Outcome)
    (link : Link) (w : Wallet) (j : Journal) :
    ∃ result told state,
      (d.mapError Complaint.failed >>= fun a => pure (give a)) link w j = (result, state) ∧
        Service.report .failure right d link w j = (told, state) ∧
          ((∃ value, result = .ok value) ↔ ∃ outcome, told = .ok outcome) := by
  rcases h : d link w j with ⟨e | a, v, k⟩
  · have hfailed := Deed.mapError_apply h Complaint.failed
    exact ⟨_, _, (v, k), Deed.bind_of_error hfailed _, Service.report_of_error h, by simp⟩
  · have hdone := Deed.mapError_apply h Complaint.failed
    exact ⟨_, _, (v, k), Deed.bind_of_ok hdone _, Service.report_of_ok h, by simp⟩

/-- A command that deals with an invitation looks at it, and then either does what an operation does or
fails without asking anything. -/
theorem exists_carryOut_eq {c : Command} {url : String} {kind : Preview.Kind}
    (hc : c.deals? = some (url, kind)) (s : Service) :
    ∃ go : Preview → Deed Complaint Json,
      carryOut s c = (s.preview url).mapError .failed >>= go ∧ ∀ p,
        (p.kind = kind → ∃ operation, c.operation? p = some operation ∧ ∀ link w j,
          ∃ result told state, go p link w j = (result, state) ∧
            s.perform operation link w j = (told, state) ∧
              ((∃ value, result = .ok value) ↔ ∃ outcome, told = .ok outcome)) ∧
        (p.kind ≠ kind → ∃ complaint, go p = Deed.ofTalk (.fail complaint)) := by
  cases c with
  | accept | reject =>
    cases hc
    refine ⟨_, rfl, fun p => ?_⟩
    cases p with
    | offer offer =>
      exact ⟨fun _ => ⟨_, rfl, fun link w j => exists_report_eq _ _ _ link w j⟩, fun h => absurd rfl h⟩
    | proofRequest request => exact ⟨nofun, fun _ => ⟨_, rfl⟩⟩
  | prove =>
    cases hc
    refine ⟨_, rfl, fun p => ?_⟩
    cases p with
    | offer offer => exact ⟨nofun, fun _ => ⟨_, rfl⟩⟩
    | proofRequest request =>
      exact ⟨fun _ => ⟨_, rfl, fun link w j => exists_report_eq _ _ _ link w j⟩, fun h => absurd rfl h⟩
  | _ => cases hc

theorem carryOut_inspectsFirst {c : Command} {url : String} {kind : Preview.Kind}
    (hc : c.deals? = some (url, kind)) {s : Service} {w : Wallet} (agency : Agency) (j : Journal)
    (hhanding : ∀ body, ∃ r,
      Gateway.prepare s.gateway.userAgent .post (s.gateway.endpoint "invitation_processor")
        (some w.accessToken) body = .ok r) :
    ∃ inspection others,
      (carryOut s c (.up agency) w j).2.2 = j ++ .request inspection :: others ∧
        c.InspectsFirst url kind s w (.up agency) j (carryOut s c (.up agency) w j).1 inspection others := by
  obtain ⟨r, hr⟩ := hhanding (some (.json (Invitation.Submission.mk url true).toJson))
  have hevent : (s.gateway.submission w.accessToken ⟨url, true⟩).event? = some (.request r) := by
    simp only [Gateway.submission, Gateway.request?, Except.toOption, Option.bind_some, Option.map_some, hr]
  obtain ⟨found, hfound, hpreviews⟩ := Invitation.submitForPreview_of_prepared agency j hr
  have hpreview := Deed.mapError_apply (Service.preview_apply hfound) Complaint.failed
  obtain ⟨go, hgo, hdeals⟩ := exists_carryOut_eq hc s
  rw [hgo]
  cases found with
  | error e =>
    rw [Deed.bind_of_error hpreview]
    refine ⟨r, [], rfl, .of_refused hevent (fun p h => ?_) _⟩
    cases (hpreviews p).2 h
  | ok p =>
    have honly (q : Preview) (h : Link.Previews (.up agency) (j ++ [.request r]) q) : q = p :=
      (Except.ok.inj ((hpreviews q).2 h)).symm
    rw [Deed.bind_of_ok hpreview]
    by_cases hkind : p.kind = kind
    · obtain ⟨operation, hoperation, hdone⟩ := (hdeals p).1 hkind
      obtain ⟨result, told, ⟨v, k⟩, hresult, htold, hiff⟩ := hdone (.up agency) w (j ++ [.request r])
      obtain ⟨others, hothers, -⟩ := s.perform_follows operation (.up agency) w (j ++ [.request r])
      rw [htold, List.append_assoc] at hothers
      obtain rfl : k = j ++ .request r :: others := hothers
      rw [hresult]
      exact ⟨r, others, rfl,
        .of_operation hevent ((hpreviews p).1 rfl) honly hkind hoperation htold hiff⟩
    · obtain ⟨complaint, hcomplaint⟩ := (hdeals p).2 hkind
      rw [hcomplaint]
      exact ⟨r, [], rfl, .of_refused hevent (fun q h => honly q h ▸ hkind) complaint⟩

/-! ### Other commands -/

/-- What a command does that deals with no invitation, unless it only looks at the wallet. -/
def direct? : Command → Option Service.Operation
  | preview url => some (.preview url)
  | share id => some (.shareProof id)
  | rejectProof id => some (.rejectProof id)
  | deleteCredential id => some (.deleteCredential id)
  | _ => none

section

variable {c : Command} {operation : Service.Operation}

theorem eq_wallet_or_direct (h : c.deals? = none) :
    c = .wallet ∨ ∃ operation, c.direct? = some operation := by
  cases c with
  | wallet => exact .inl rfl
  | accept url => cases h
  | reject url => cases h
  | prove url => cases h
  | _ => exact .inr ⟨_, rfl⟩

theorem move?_of_direct (h : c.direct? = some operation) : operation.move? = none := by
  cases c <;> cases h <;> rfl

theorem carryOut_of_direct (h : c.direct? = some operation) (s : Service) (link : Link) (w : Wallet)
    (j : Journal) : (carryOut s c link w j).2 = (s.perform operation link w j).2 := by
  have hsame {α : Type} (d : Deed Failure α) (give : α → Json) (right : α → Service.Outcome) :
      ((d.mapError Complaint.failed >>= fun a => pure (give a)) link w j).2 =
        (Service.report .failure right d link w j).2 := by
    obtain ⟨_, _, _, hdone, hreported, -⟩ := exists_report_eq d give right link w j
    rw [hdone, hreported]
  cases c with
  | preview | share | rejectProof | deleteCredential =>
    cases h
    rw [carryOut, Service.perform]
    exact hsame _ _ _
  | _ => cases h

theorem on_sendsOnly_of_direct (h : c.direct? = some operation) (s : Service) (w : Wallet)
    {sort : Request → Prop}
    (hplan : ∀ stage ∈ s.plan w operation, ∀ r, stage.event? = some (.request r) → sort r) :
    ((carryOut s c).on w).SendsOnly sort := by
  intro link j
  obtain ⟨sent, hsent, hfollows⟩ := s.perform_follows operation link w j
  rw [← carryOut_of_direct h] at hsent
  refine ⟨sent, hsent, fun r hr => ?_⟩
  obtain ⟨stage, hstage, hevent⟩ := hfollows.exists_stage hr
  exact hplan stage hstage r hevent

end

theorem wallet_on_sendsOnly (s : Service) (w : Wallet) (sort : Request → Prop) :
    ((carryOut s .wallet).on w).SendsOnly sort := Talk.sendsOnly_pure w.toHoldings.toJson

theorem execute_sendsOnly {sort : Request → Prop} (hsort : ∀ r, r.IsHarmless → sort r) {c : Command}
    (hc : ∀ s w, ((carryOut s c).on w).SendsOnly sort) : (execute files o c).SendsOnly sort := by
  rw [execute]
  exact ((openWallet_isHarmless files o).mono hsort).bind fun ⟨s, w⟩ => hc s w

/-- To look at the wallet or at an invitation changes nothing. -/
theorem execute_isHarmless {c : Command} (hc : c = .wallet ∨ ∃ url, c = .preview url) :
    (execute files o c).SendsOnly Request.IsHarmless := by
  refine execute_sendsOnly (fun _ h => h) fun s w => ?_
  rcases hc with rfl | ⟨url, rfl⟩
  · exact wallet_on_sendsOnly s w _
  · refine on_sendsOnly_of_direct rfl s w ?_
    rw [Service.plan, List.forall_mem_singleton]
    exact fun r hr => Gateway.isHarmless_of_inspection hr

theorem execute_commits_nothing {c : Command} (hc : c.deals? = none) :
    (execute files o c).SendsOnly fun r => ¬ r.Commits := by
  have hsort (r : Request) (h : r.IsHarmless) : ¬ r.Commits := fun ⟨_, body, hjson, hinspect⟩ =>
    h.noCommit body hjson hinspect
  refine execute_sendsOnly hsort fun s w => ?_
  rcases eq_wallet_or_direct hc with rfl | ⟨operation, hoperation⟩
  · exact wallet_on_sendsOnly s w _
  · exact on_sendsOnly_of_direct hoperation s w fun stage hstage r hr =>
      (s.plan_isQuiet w (move?_of_direct hoperation) stage hstage r hr).1

/-! ### Runs of the program -/

/-- A report tells a result: one document on the output, or an error and nothing there. -/
structure Report.Tells (report : Report) (result : Except Complaint Json) : Prop where
  succeeds (value : Json) (h : result = .ok value) : report.exitCode = 0 ∧
    report.output = value.pretty ++ "\n" ∧ Json.IsDocument report.output.toList
  fails (complaint : Complaint) (h : result = .error complaint) :
    report.exitCode = 1 ∧ report.output = ""

theorem exists_tells_of_parse {env : Environment} {words : List String} {c : Command}
    {result : Except Complaint Json} (h : parse env words = .ok (o, c))
    (hexecuted : execute files o c link [] = (result, j)) :
    ∃ report, run env files words link = (report, j) ∧ report.Tells result := by
  rw [run, h]
  simp only [hexecuted]
  cases result with
  | ok value =>
    refine ⟨_, rfl, fun other hother => ?_, nofun⟩
    obtain rfl := Except.ok.inj hother
    exact ⟨rfl, rfl, Json.isDocument_pretty value⟩
  | error complaint => exact ⟨_, rfl, nofun, fun _ _ => ⟨rfl, rfl⟩⟩

theorem execute_of_opened {c : Command} (h : openWallet files o link j = (.ok (s, w), k)) :
    execute files o c link j = (carryOut s c).on w link k := by
  rw [execute]
  exact Talk.bind_of_ok h _

theorem execute_inspectsFirst {c : Command} {url : String} {kind : Preview.Kind}
    (hc : c.deals? = some (url, kind)) {result : Except Complaint Json} {opened : Journal}
    (hopened : openWallet files o link j = (.ok (s, w), opened))
    (hexecuted : execute files o c link j = (result, k)) :
    ∃ inspection others, k = opened ++ .request inspection :: others ∧
      c.InspectsFirst url kind s w link opened result inspection others := by
  obtain ⟨opener, login, hinitiated, hs⟩ := openWallet_eq_ok hopened
  obtain ⟨agency, rfl, hhanding⟩ := opener.exists_handing hinitiated hs
  obtain ⟨inspection, others, hjournal, hinspects⟩ := carryOut_inspectsFirst hc agency opened hhanding
  rw [execute_of_opened hopened] at hexecuted
  obtain ⟨rfl, rfl⟩ := Prod.mk.inj hexecuted
  exact ⟨inspection, others, hjournal, hinspects⟩

/-- The program writes one document if it succeeds, and nothing if it fails. To look at the wallet or at
an invitation changes nothing at the agency, and neither does opening a wallet; a command that deals with
no invitation commits none. One that does inspects it once the wallet is open, and goes on only about a
preview of the right kind, with the id and the URL of that preview. -/
theorem run_inspects_first {env : Environment} {words : List String} {o : Options} {c : Command}
    (h : parse env words = .ok (o, c)) (files : Files) (link : Link) :
    ∃ report result j, run env files words link = (report, j) ∧
      execute files o c link [] = (result, j) ∧ report.Tells result ∧
      (c = .wallet ∨ (∃ url, c = .preview url) → ∀ r, .request r ∈ j → r.IsHarmless) ∧
      (c.deals? = none → ∀ r, .request r ∈ j → ¬ r.Commits) ∧
      ∀ opening opened, openWallet files o link [] = (opening, opened) →
        (∀ r, .request r ∈ opened → r.IsHarmless) ∧
        (∀ complaint, opening = .error complaint → result = .error complaint ∧ j = opened) ∧
        ∀ s w url kind, opening = .ok (s, w) → c.deals? = some (url, kind) →
          ∃ inspection others, j = opened ++ .request inspection :: others ∧
            c.InspectsFirst url kind s w link opened result inspection others := by
  rcases hexecuted : execute files o c link [] with ⟨result, j⟩
  obtain ⟨report, hrun, htells⟩ := exists_tells_of_parse h hexecuted
  have hsent {ε α : Type} {sort : Request → Prop} {x : Talk ε α} {result : Except ε α} {j : Journal}
      (hsends : x.SendsOnly sort) (hx : x link [] = (result, j)) : ∀ r, .request r ∈ j → sort r := by
    obtain ⟨sent, hsent, hsort⟩ := hsends link []
    rw [hx] at hsent
    obtain rfl := hsent
    exact hsort
  refine ⟨report, result, j, hrun, rfl, htells, fun hc => hsent (execute_isHarmless hc) hexecuted,
    fun hc => hsent (execute_commits_nothing hc) hexecuted, fun opening opened hopened => ?_⟩
  refine ⟨hsent (openWallet_isHarmless files o) hopened, ?_, ?_⟩
  · rintro complaint rfl
    have hfailed : execute files o c link [] = (.error complaint, opened) := by
      rw [execute]
      exact Talk.bind_of_error hopened _
    obtain ⟨rfl, rfl⟩ := Prod.mk.inj (hexecuted.symm.trans hfailed)
    exact ⟨rfl, rfl⟩
  · rintro s w url kind rfl hc
    exact execute_inspectsFirst hc hopened hexecuted

end Command

end CredentialWallet

namespace CredentialWallet.Sample

/-- An agency that always says the same, which makes a token, an agent and an empty listing, and a proof
request when an invitation is handed in. -/
def requesting : Http.Request → Option Http.Answer := fun _ =>
  some (answering (braced ["\"id\":\"a\",", "\"name\":\"holder\",", "\"url\":\"b\",",
    "\"access_token\":\"access\",", "\"items\":[],", "\"request_presentations~attach\":[]"]))

/-- What such an agency says. -/
def requested : Json :=
  .object [("access_token", .string "access"), ("id", .string "a"), ("items", .array []),
    ("name", .string "holder"), ("request_presentations~attach", .array []), ("url", .string "b")]

/-- The one file there is holds a descriptor. -/
def descriptorFile : Command.Files := fun _ => .ok (String.join
  (braced ["\"serviceBaseUrl\":\"http://[::1]\",", "\"tokenUrl\":\"http://[::1]/t\",\"clientId\":\"c\""]))

def leading : List String := ["-u", "holder", "-p", "secret", "--descriptor", "d"]

def given : Command.Options := ⟨"d", "holder", "secret", 30, .passed, "info"⟩

end CredentialWallet.Sample

namespace CredentialWallet.Command

open Sample

/-- A proof request is not accepted as an offer, and nothing but its inspection is sent. -/
theorem run_inspects_first_refusing :
    ∃ report j s w opened inspection,
      parse (fun _ => none) (leading ++ ["accept", "b"]) = .ok (given, .accept "b") ∧
        run (fun _ => none) descriptorFile (leading ++ ["accept", "b"]) (.up (.forgetful requesting)) =
          (report, j) ∧
        openWallet descriptorFile given (.up (.forgetful requesting)) [] = (.ok (s, w), opened) ∧
        j = opened ++ [.request inspection] ∧ report.exitCode = 1 ∧ report.output = "" := by
  have hparsed : (parse (fun _ => none) (leading ++ ["accept", "b"])).toOption =
      some (given, .accept "b") := by decide +kernel
  have hparse := toOption_eq_some_iff.1 hparsed
  obtain ⟨report, result, j, hrun, -, htells, -, -, hopening⟩ :=
    run_inspects_first hparse descriptorFile (.up (.forgetful requesting))
  have hok : (openWallet descriptorFile given (.up (.forgetful requesting)) []).1.isOk = true := by
    decide +kernel
  rcases hopened : openWallet descriptorFile given (.up (.forgetful requesting)) [] with
    ⟨_ | ⟨s, w⟩, opened⟩
  · rw [hopened] at hok
    cases hok
  obtain ⟨inspection, others, rfl, hinspects⟩ := (hopening _ _ hopened).2.2 s w _ _ rfl rfl
  have hpreviews : Link.Previews (.up (.forgetful requesting)) (opened ++ [.request inspection])
      (.proofRequest ⟨"a", "b", none, none, requested⟩) :=
    ⟨_, requested, Agency.forgetful_answer? requesting opened inspection,
      ⟨rfl, by decide, by decide +kernel, by decide +kernel⟩, by decide +kernel⟩
  obtain ⟨rfl, complaint, rfl⟩ := hinspects.refuses _ hpreviews (by decide)
  obtain ⟨hcode, houtput⟩ := htells.fails complaint rfl
  exact ⟨report, _, s, w, opened, inspection, hparse, hrun, rfl, rfl, hcode, houtput⟩

end CredentialWallet.Command
