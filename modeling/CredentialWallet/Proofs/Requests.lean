import CredentialWallet.Proofs.Plan
import CredentialWallet.Fetch
import CredentialWallet.TokenProvider
/-!
# What is sent for a resource

Each way to reach a resource is a plan of one or two requests. What their answers have to be for a talk
to go on is read off the statuses, here and nowhere else. A request can be put together if its URL can
be reached and a header can carry its token, and not otherwise.
-/

namespace CredentialWallet

open Http (Answer Method Request)

/-! ### Answers -/

namespace Http.Answer

/-- A success without a body. -/
def IsBodyless (a : Answer) : Prop := a.status = 204 ∨ a.isSuccess = true ∧ a.body = []

/-- A success whose body holds a value. -/
def Holds {α : Type} [Record.Codec α] (a : Answer) (value : α) : Prop :=
  a.isSuccess = true ∧ a.status ≠ 204 ∧ a.body ≠ [] ∧ Record.ofBytes a.body = .ok value

/-- A success whose body is the preview of an invitation. -/
def Previews (a : Answer) : Prop :=
  ∃ (payload : Json) (preview : Preview), a.Holds payload ∧ Preview.ofJson payload = .ok preview

end Http.Answer

namespace Gateway

theorem isSuccess_of_isRedirect {a : Answer} (h : isRedirect a.status = true) :
    a.isSuccess = false := by
  simp only [isRedirect, List.mem_cons, List.not_mem_nil, or_false, decide_eq_true_eq] at h
  simp only [Answer.isSuccess, Bool.and_eq_false_iff, decide_eq_false_iff_not]
  omega

/-- What an answer is sorted into says what it is. -/
theorem interpret_eq_ok_iff {α : Type} [Record.Codec α] {a : Answer} {reply : Reply α} :
    interpret a = .ok reply ↔
      match reply with
      | .noContent => a.IsBodyless
      | .redirect location => isRedirect a.status = true ∧ a.readableLocation? = some location
      | .content value => a.Holds value := by
  rw [interpret]
  by_cases h204 : a.status = 204
  · cases reply <;> simp [h204, Answer.IsBodyless, Answer.Holds, isRedirect]
  cases hredirect : isRedirect a.status with
  | true =>
    have hfailure := isSuccess_of_isRedirect hredirect
    rcases a.readableLocation? with _ | location <;> cases reply <;>
      simp [h204, hfailure, Answer.IsBodyless, Answer.Holds]
  | false =>
    cases hsuccess : a.isSuccess with
    | false => cases reply <;> simp [h204, hsuccess, Answer.IsBodyless, Answer.Holds]
    | true =>
      rcases hbody : a.body with _ | ⟨b, rest⟩
      · cases reply <;> simp [h204, hsuccess, hbody, Answer.IsBodyless, Answer.Holds]
      · rcases hread : (Record.ofBytes (b :: rest) : Except Record.Error α) with e | value <;>
          cases reply <;> simp [h204, hsuccess, hbody, hread, Answer.IsBodyless, Answer.Holds]

theorem interpret_eq_noContent_iff {α : Type} [Record.Codec α] {a : Answer} :
    interpret a = .ok (.noContent : Reply α) ↔ a.IsBodyless := interpret_eq_ok_iff

theorem interpret_eq_redirect_iff {α : Type} [Record.Codec α] {a : Answer} {location : String} :
    interpret a = .ok (.redirect location : Reply α) ↔
      isRedirect a.status = true ∧ a.readableLocation? = some location := interpret_eq_ok_iff

theorem interpret_eq_content_iff {α : Type} [Record.Codec α] {a : Answer} {value : α} :
    interpret a = .ok (.content value) ↔ a.Holds value := interpret_eq_ok_iff

end Gateway

/-! ### Requests -/

/-- A URL to which requests can be sent. -/
structure Url.IsReachable (u : Url) : Prop where
  scheme : u.scheme = "http" ∨ u.scheme = "https"
  host : u.authority.all (·.host.isEmpty) = false
  addressable : Http.isAddressable (Gateway.splitCredentials u).1 = true

theorem Url.IsReachable.kind {u : Url} (h : u.IsReachable) : u.kind = .special := by
  rcases h.scheme with hscheme | hscheme <;>
  · rw [Url.kind, hscheme]
    rfl

namespace Gateway

/-- A request is what it was put together from. -/
theorem prepare_eq_ok {userAgent address : String} {method : Method} {token : Option String}
    {body : Option Http.Body} {r : Request}
    (h : prepare userAgent method address token body = .ok r) :
    ∃ url, Url.parse address = .ok url ∧
      r = {
        method
        url := (splitCredentials url).1
        authorization := (splitCredentials url).2.toList ++
          (token.map fun token => Text.trimHeader ("Bearer " ++ token)).toList
        userAgent
        body } := by
  rw [prepare] at h
  split at h
  · cases h
  · rename_i url hparse
    refine ⟨url, hparse, ?_⟩
    dsimp only at h
    split at h
    · cases h
    · split at h
      · cases h
      · split at h
        · cases h
        · split at h
          · cases h
          · injection h with h
            exact h.symm

/-- Whatever is asked for with whatever body, a request can be put together exactly if the URL can be
reached and a header can carry the token, where there is one. -/
theorem exists_prepare_eq_ok_iff {userAgent address : String} {method : Method} {token : Option String}
    {body : Option Http.Body} :
    (∃ r, prepare userAgent method address token body = .ok r) ↔
      (∃ u, Url.parse address = .ok u ∧ u.IsReachable) ∧
        ∀ t ∈ token, Http.isSendable ("Bearer " ++ t) = true := by
  rw [prepare]
  rcases hparse : Url.parse address with e | u
  · simp
  dsimp only
  constructor
  · rintro ⟨r, h⟩
    split at h
    · cases h
    rename_i hhost
    split at h
    · cases h
    rename_i htoken
    split at h
    · cases h
    rename_i hscheme
    split at h
    · cases h
    rename_i haddressable
    refine ⟨⟨u, rfl, ?_⟩, fun t ht => ?_⟩
    · exact {
        scheme := (not_and_or.1 hscheme).imp not_not.1 not_not.1
        host := Bool.eq_false_iff.2 hhost
        addressable := by simpa only [Bool.not_eq_true', Bool.not_eq_false] using haddressable }
    · obtain rfl := Option.mem_def.1 ht
      simpa using htoken
  · rintro ⟨⟨v, hv, hreachable⟩, htoken⟩
    obtain rfl := Except.ok.inj hv
    have hscheme : ¬ (u.scheme ≠ "http" ∧ u.scheme ≠ "https") := fun ⟨hhttp, hhttps⟩ =>
      hreachable.scheme.elim hhttp hhttps
    have hsendable : token.all (fun t => Http.isSendable ("Bearer " ++ t)) = true :=
      (Option.all_eq_true ..).2 htoken
    simp only [hreachable.host, hreachable.addressable, hscheme, hsendable, Bool.not_true,
      Bool.false_eq_true, if_false]
    exact ⟨_, rfl⟩

theorem isReachable_of_prepare {userAgent address : String} {method : Method} {token : Option String}
    {body : Option Http.Body} {r : Request} {u : Url}
    (h : prepare userAgent method address token body = .ok r) (hparse : Url.parse address = .ok u) :
    u.IsReachable := by
  obtain ⟨⟨v, hv, hreachable⟩, -⟩ := exists_prepare_eq_ok_iff.1 ⟨r, h⟩
  obtain rfl := Except.ok.inj (hv.symm.trans hparse)
  exact hreachable

/-- The request for an address, if there is such an address and it and the headers allow one. -/
@[irreducible] def request? (g : Gateway) (method : Method) (address : Except Failure String) (token : String)
    (body : Option Json) : Option Request :=
  address.toOption.bind fun url =>
    (prepare g.userAgent method url (some token) (body.map .json)).toOption

theorem request?_eq_some {g : Gateway} {method : Method} {address : Except Failure String}
    {token : String} {body : Option Json} {r : Request}
    (h : g.request? method address token body = some r) :
    ∃ url, address = .ok url ∧
      prepare g.userAgent method url (some token) (body.map .json) = .ok r := by
  rw [request?] at h
  obtain ⟨url, haddress, hrequest⟩ := Option.bind_eq_some_iff.1 h
  exact ⟨url, toOption_eq_some_iff.1 haddress, toOption_eq_some_iff.1 hrequest⟩

theorem request?_of_prepared {g : Gateway} {method : Method} {url token : String} {body : Option Json}
    {r : Request} (h : prepare g.userAgent method url (some token) (body.map .json) = .ok r) :
    g.request? method (.ok url) token body = some r := by
  rw [request?]
  exact Option.bind_eq_some_iff.2 ⟨url, rfl, toOption_eq_some_iff.2 h⟩

theorem request_of_event {g : Gateway} {method : Method} {address : Except Failure String}
    {token : String} {body : Option Json} {r : Request}
    (h : (g.request? method address token body).map .request = some (Event.request r)) :
    r.method = method ∧ r.body = body.map .json := by
  obtain ⟨_, hr, ⟨⟩⟩ := Option.map_eq_some_iff.1 h
  obtain ⟨address, _, hprepared⟩ := request?_eq_some hr
  obtain ⟨url, _, rfl⟩ := prepare_eq_ok hprepared
  exact ⟨rfl, rfl⟩

end Gateway

theorem Talk.performs_send (r : Request) :
    (send r).Performs (some (.request r)) fun a answer => a ∈ answer :=
  ((performs_deliver r).bind_ofExcept id).mono fun _ _ ⟨_, hanswer, ha⟩ => hanswer _ ha

theorem Talk.performs_prepared (x : Except Http.Transport Request) :
    (do let r ← ofExcept (x.mapError .transport); (send r).mapError .transport :
      Talk Failure Answer).Performs (x.toOption.map .request) fun a answer => a ∈ answer := by
  rw [← toOption_mapError x Failure.transport]
  exact .ofExcept_bind fun r => (performs_send r).mapError Failure.transport

namespace Gateway

theorem intoContent_eq_ok {α : Type} {reply : Reply α} {value : α}
    (h : reply.intoContent = .ok value) : reply = .content value := by
  cases reply with
  | content v => rw [Reply.intoContent] at h; injection h with h; rw [h]
  | noContent => cases h
  | redirect location => cases h

variable {α : Type} [Record.Codec α] (g : Gateway) (token : String)

theorem perform_performs (method : Method) (url : String) (body : Option Json) :
    (g.perform method url (some token) body : Talk Failure (Reply α)).Performs
      ((g.request? method (.ok url) token body).map .request)
      fun reply answer => ∃ a ∈ answer, interpret a = .ok reply := by
  have h := (Talk.performs_prepared
    (prepare g.userAgent method url (some token) (body.map .json))).bind_ofExcept
      (fun a => interpret (α := α) a)
  rw [bind_assoc] at h
  rw [request?]
  exact h

theorem content_performs (method : Method) (url : String) (body : Option Json) :
    (do let reply ← g.perform method url (some token) body; Talk.ofExcept reply.intoContent :
      Talk Failure α).Performs ((g.request? method (.ok url) token body).map .request)
      fun value answer => ∃ a ∈ answer, a.Holds value := by
  refine ((g.perform_performs token method url body).bind_ofExcept Reply.intoContent).mono ?_
  rintro value answer ⟨reply, ⟨a, ha, hreply⟩, hvalue⟩
  obtain rfl := intoContent_eq_ok hvalue
  exact ⟨a, ha, interpret_eq_content_iff.1 hreply⟩

/-! ### Stages -/

/-- Handing in an invitation. A preview of it leads on. -/
def submission (s : Invitation.Submission) : Stage where
  event? := (g.request? .post (.ok (g.endpoint "invitation_processor")) token (some s.toJson)).map
    .request
  leadsOn answer := ∃ a ∈ answer, a.Previews

/-- Getting the item with an id. -/
def fetching (collection id : String) : Stage where
  event? := (g.request? .get (g.itemEndpoint collection id) token none).map .request
  leadsOn _ := False

/-- Asking for an update of the item with an id. Only a success without a body leads on. -/
def updating (collection id : String) (change : Json) : Stage where
  event? := (g.request? .patch (g.itemEndpoint collection id) token (some change)).map .request
  leadsOn answer := ∃ a ∈ answer, a.IsBodyless

/-- Asking for an update of the item with an id, and getting the item if the answer does not hold it. -/
def revising (collection id : String) (change : Json) : List Stage :=
  [g.updating token collection id change, g.fetching token collection id]

/-- Deleting the item with an id. -/
def deleting (collection id : String) : Stage where
  event? := (g.request? .delete (g.itemEndpoint collection id) token none).map .request
  leadsOn _ := False

/-- Asking for a part of a wallet. No answer is waited for. -/
def listing (state : VerificationState) (part : Holdings.Part) : Stage where
  event? := (g.request? .get (.ok (part.address g state)) token none).map .request
  leadsOn _ := True

end Gateway

namespace Resource

variable {τ υ : Type} [Resource τ] [Record.Codec υ] (g : Gateway) (token : String)

theorem get_keepsTo (id : String) :
    (get g token id : Talk Failure τ).KeepsTo [g.fetching token (collection τ) id] := by
  rw [get, Gateway.fetching]
  refine Talk.keepsTo_ofExcept_bind fun url hurl => ?_
  rw [hurl]
  exact (g.content_performs token .get url none).keepsTo

theorem update_keepsTo (id : String) (change : υ) :
    (update g token id change : Talk Failure τ).KeepsTo
      (g.revising token (collection τ) id (Record.Codec.write change)) := by
  rw [update, Gateway.revising, Gateway.updating]
  refine Talk.keepsTo_ofExcept_bind fun url hurl => ?_
  rw [hurl]
  refine (g.perform_performs token .patch url _).bind fun reply => ?_
  cases reply with
  | noContent =>
    right
    refine ⟨?_, get_keepsTo g token id⟩
    rintro answer ⟨a, ha, hreply⟩
    exact ⟨a, ha, Gateway.interpret_eq_noContent_iff.1 hreply⟩
  | content value => exact .inl (Talk.keepsTo_ofExcept _ _)
  | redirect location => exact .inl (Talk.keepsTo_ofExcept _ _)

theorem delete_keepsTo (id : String) :
    (delete g token τ id).KeepsTo [g.deleting token (collection τ) id] := by
  rw [delete, Gateway.deleting]
  refine Talk.keepsTo_ofExcept_bind fun url hurl => ?_
  rw [hurl]
  exact (g.perform_performs (α := Json) token .delete url none).bind
    fun _ => .inl (Talk.keepsTo_pure _ _)

end Resource

namespace Invitation

variable (g : Gateway) (token : String)

theorem submitForPreview_performs (s : Submission) :
    (submitForPreview g token s).Performs (g.submission token s).event?
      fun _ answer => ∃ a ∈ answer, a.Previews := by
  rw [submitForPreview, submit, Gateway.post, Gateway.submission]
  refine ((g.content_performs token .post _ (some s.toJson)).bind_ofExcept
    fun payload => (Preview.ofJson payload).mapError .malformed).mono ?_
  rintro preview answer ⟨payload, ⟨a, ha, hpayload⟩, hpreview⟩
  exact ⟨a, ha, payload, preview, hpayload, mapError_eq_ok_iff.1 hpreview⟩

theorem inspect_keepsTo (url : String) :
    (inspect g token url).KeepsTo [g.submission token ⟨url, true⟩] :=
  (submitForPreview_performs g token ⟨url, true⟩).keepsTo

theorem commit_bind_keepsTo {α : Type} {x : Talk Failure α} {plan : List Stage} (url : String)
    (hx : x.KeepsTo plan) :
    (do let _ ← commit g token url; x).KeepsTo (g.submission token ⟨url, false⟩ :: plan) := by
  rw [commit]
  exact (submitForPreview_performs g token ⟨url, false⟩).bind fun _ => .inr ⟨fun _ h => h, hx⟩

end Invitation

/-! ### Grants -/

namespace TokenProvider

/-- Asking for a grant, and what is sent for it. -/
def granting (provider : TokenProvider) (client : Client) (grant : Grant) : List Stage :=
  ⟨some (.grant client grant), fun _ => True⟩ ::
    match provider with
    | endpoint userAgent =>
      [⟨(Gateway.prepare userAgent .post client.tokenUrl none
        (some (.form (grant.form client)))).toOption.map .request, fun _ => False⟩]
    | own _ => []

theorem request_of_granting {provider : TokenProvider} {client : Client} {grant : Grant} {stage : Stage}
    {r : Request} (hstage : stage ∈ provider.granting client grant)
    (hr : stage.event? = some (.request r)) :
    r.method = .post ∧ r.body = some (.form (grant.form client)) := by
  unfold granting at hstage
  rcases List.mem_cons.1 hstage with rfl | hstage
  · cases Option.some.inj hr
  cases provider with
  | own answer => exact absurd hstage List.not_mem_nil
  | endpoint userAgent =>
    obtain rfl := List.mem_singleton.1 hstage
    obtain ⟨_, hprepared, ⟨⟩⟩ := Option.map_eq_some_iff.1 hr
    obtain ⟨_, _, rfl⟩ := Gateway.prepare_eq_ok (toOption_eq_some_iff.1 hprepared)
    exact ⟨rfl, rfl⟩

theorem endpoint_ask_keepsTo (userAgent : String) (client : Client) (grant : Grant) :
    (TokenEndpoint.ask userAgent client grant).KeepsTo
      [⟨(Gateway.prepare userAgent .post client.tokenUrl none
        (some (.form (grant.form client)))).toOption.map .request, fun _ => False⟩] := by
  have h := (Talk.performs_prepared (Gateway.prepare userAgent .post client.tokenUrl none
    (some (.form (grant.form client))))).bind_ofExcept TokenEndpoint.interpret
  rw [bind_assoc] at h
  exact h.keepsTo

theorem ask_keepsTo (provider : TokenProvider) (client : Client) (grant : Grant) :
    (provider.ask client grant).KeepsTo (provider.granting client grant) := by
  rw [ask]
  refine (Talk.performs_note client grant).bind fun grants => .inr ⟨fun _ _ => trivial, ?_⟩
  cases provider with
  | own answer => exact Talk.keepsTo_ofExcept _ _
  | endpoint userAgent => exact endpoint_ask_keepsTo userAgent client grant

end TokenProvider

/-! ### All records -/

namespace Holdings

variable (g : Gateway) (token : String) (state : VerificationState)

theorem ask_performs (part : Part) :
    (ask g token state part).Performs (g.listing token state part).event?
      fun a answer => ∀ b, a = .ok b → b ∈ answer := by
  rw [ask, Gateway.listing, Gateway.request?]
  exact (Talk.Performs.ofExcept_bind Talk.performs_deliver).mapError _

/-- The five requests are sent one after the other, whatever is answered. -/
theorem fetch_keepsTo (order : List Part) :
    (fetch g token state order).KeepsTo (Part.all.map (g.listing token state)) := by
  rw [fetch, Part.all]
  simp only [List.map_cons, List.map_nil]
  refine (ask_performs g token state .agent).bind fun _ => .inr ⟨fun _ _ => trivial, ?_⟩
  refine (ask_performs g token state .connections).bind fun _ => .inr ⟨fun _ _ => trivial, ?_⟩
  refine (ask_performs g token state .invitations).bind fun _ => .inr ⟨fun _ _ => trivial, ?_⟩
  refine (ask_performs g token state .credentials).bind fun _ => .inr ⟨fun _ _ => trivial, ?_⟩
  refine (ask_performs g token state .verifications).bind fun _ => .inr ⟨fun _ _ => trivial, ?_⟩
  exact Talk.keepsTo_ofExcept _ _

end Holdings

end CredentialWallet
