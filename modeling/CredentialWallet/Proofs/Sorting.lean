import CredentialWallet.Proofs.Atomicity
import CredentialWallet.Proofs.Delivery
/-!
# What an answer is sorted into

The status of an answer comes first: it says whether there is content to be read, a place to go to
instead, or a failure to be told of. Only then are the location and the body looked at, each where its
status asks for it. A failure is told in the words of the body, if it has words for it under one of some
keys, and the first key that holds a text is the one that counts.
-/

namespace CredentialWallet

open Http (Answer Method Request)

/-! ### The words of a body -/

/-- A text stands under a key, and under none of the better ones. -/
def Json.TellsFirst (value : Json) (keys : List String) (text : String) : Prop :=
  ∃ better key worse, keys = better ++ key :: worse ∧ value.get? key = some (.string text) ∧
    ∀ other ∈ better, ∀ s, value.get? other ≠ some (.string s)

/-- What a body says under the first of some keys that holds a text. -/
def BodyTells (keys : List String) (body text : String) : Prop :=
  ∃ value, Json.ofText? body = .ok value ∧ value.TellsFirst keys text

/-- What is said of a body: its own words, or stock words where it has none. -/
inductive Explains (keys : List String) (stock body : String) : String → Prop
  | told {text : String} (h : BodyTells keys body text) : Explains keys stock body text
  | untold (h : ∀ text, ¬ BodyTells keys body text) : Explains keys stock body stock

theorem Json.bind_asString?_eq_some_iff {found : Option Json} {text : String} :
    found.bind Json.asString? = some text ↔ found = some (.string text) := by
  rcases found with _ | value
  · simp
  · cases value <;> simp [Json.asString?]

theorem Json.findSome?_eq_some_iff_tellsFirst {value : Json} {keys : List String} {text : String} :
    (keys.findSome? fun key => (value.get? key).bind Json.asString?) = some text ↔
      value.TellsFirst keys text := by
  rw [List.findSome?_eq_some_iff]
  simp only [Json.bind_asString?_eq_some_iff, Option.eq_none_iff_forall_ne_some, ne_eq, TellsFirst]

theorem BodyTells.unique {keys : List String} {body text other : String}
    (h : BodyTells keys body text) (hother : BodyTells keys body other) : text = other := by
  obtain ⟨value, hvalue, hfirst⟩ := h
  obtain ⟨same, hsame, hagain⟩ := hother
  obtain rfl : value = same := Except.ok.inj (hvalue.symm.trans hsame)
  rw [← Json.findSome?_eq_some_iff_tellsFirst] at hfirst hagain
  exact Option.some.inj (hfirst.symm.trans hagain)

theorem Explains.eq_of_told {keys : List String} {stock body message text : String}
    (h : Explains keys stock body message) (htold : BodyTells keys body text) : message = text := by
  cases h with
  | told hmessage => exact hmessage.unique htold
  | untold huntold => exact absurd htold (huntold text)

/-- Whoever finds the words of a body, and takes stock words where there are none, explains it. -/
theorem explains_iff {keys : List String} {stock body message : String} {found : Option String}
    (h : ∀ text, found = some text ↔ BodyTells keys body text) :
    Explains keys stock body message ↔ message = found.getD stock := by
  cases found with
  | none =>
    have huntold : ∀ text, ¬ BodyTells keys body text := fun text htold => nomatch (h text).2 htold
    constructor
    · intro hexplains
      cases hexplains with
      | told htold => exact absurd htold (huntold message)
      | untold => rfl
    · rintro rfl
      exact .untold huntold
  | some text =>
    have htold : BodyTells keys body text := (h text).1 rfl
    constructor
    · intro hexplains
      cases hexplains with
      | told hother => exact (Option.some.inj ((h message).2 hother)).symm
      | untold huntold => exact absurd htold (huntold text)
    · rintro rfl
      exact .told htold

theorem Gateway.statedMessage?_eq_some_iff {body text : String} :
    statedMessage? body = some text ↔ BodyTells messageKeys body text := by
  rw [statedMessage?, BodyTells]
  rcases Json.ofText? body with e | value
  · simp
  · simp only [Json.findSome?_eq_some_iff_tellsFirst, Except.ok.injEq, exists_eq_left']

/-! ### Answers -/

namespace Http.Answer

/-- The answer says that what was asked for is elsewhere. -/
def IsMoved (a : Answer) : Prop := a.status ∈ [301, 303, 307, 308]

/-- The answer names a place that can be read, in visible characters of ASCII, blanks and tabs. -/
def Names (a : Answer) (location : String) : Prop :=
  ∃ header, a.location = some header ∧ Text.trimHeader header = location ∧
    ∀ c ∈ location.toList, c = '\t' ∨ 32 ≤ c.toNat ∧ c.toNat < 127

theorem readableLocation?_eq_some_iff {a : Answer} {location : String} :
    a.readableLocation? = some location ↔ a.Names location := by
  rw [readableLocation?, Option.bind_eq_some_iff, Names]
  refine exists_congr fun header => and_congr_right fun _ => ?_
  simp only [Option.ite_none_right_eq_some, Option.some.injEq, List.all_eq_true, Bool.or_eq_true,
    Bool.and_eq_true, decide_eq_true_eq]
  constructor
  · rintro ⟨hall, rfl⟩
    exact ⟨rfl, hall⟩
  · rintro ⟨rfl, hall⟩
    exact ⟨hall, rfl⟩

end Http.Answer

namespace Gateway

variable {α : Type} [Record.Codec α]

theorem isRedirect_iff {a : Answer} : isRedirect a.status = true ↔ a.IsMoved := decide_eq_true_iff

/-- What an answer is sorted into says what it is, also where it is no reply. -/
theorem interpret_eq_error_iff {a : Answer} {e : Failure} :
    (interpret a : Except Failure (Reply α)) = .error e ↔
      match e with
      | .unexpected reason => isRedirect a.status = true ∧ a.readableLocation? = none ∧
          reason = s!"{a.status} {Http.reason a.status} without a Location header"
      | .unreadable e => a.isSuccess = true ∧ a.status ≠ 204 ∧ a.body ≠ [] ∧
          (Record.ofBytes a.body : Except Record.Error α) = .error e
      | .api .. => a.isSuccess = false ∧ isRedirect a.status = false ∧ e = apiFailure a
      | _ => False := by
  rw [interpret]
  by_cases h204 : a.status = 204
  · have hsuccess : a.isSuccess = true := by simp [Answer.isSuccess, h204]
    cases e <;> simp [h204, hsuccess, isRedirect]
  cases hredirect : isRedirect a.status with
  | true =>
    have hfailure := isSuccess_of_isRedirect hredirect
    rcases a.readableLocation? with _ | location <;> cases e <;> simp [h204, hfailure, eq_comm]
  | false =>
    cases hsuccess : a.isSuccess with
    | false => cases e <;> simp [h204, apiFailure, eq_comm]
    | true =>
      rcases hbody : a.body with _ | ⟨b, rest⟩
      · cases e <;> simp [h204]
      · cases hread : (Record.ofBytes (b :: rest) : Except Record.Error α) with
        | error f => cases e <;> simp [h204]
        | ok value => cases e <;> simp [h204]

/-- What an answer comes to, said by its status, its location and its body alone. -/
structure SortsTo (a : Answer) (result : Except Failure (Reply α)) : Prop where
  noContent_iff : result = .ok .noContent ↔ a.status = 204 ∨ a.isSuccess = true ∧ a.body = []
  redirect_iff (location : String) :
    result = .ok (.redirect location) ↔ a.IsMoved ∧ a.Names location
  unexpected_iff (reason : String) :
    result = .error (.unexpected reason) ↔ a.IsMoved ∧ (∀ location, ¬ a.Names location) ∧
      reason = s!"{a.status} {Http.reason a.status} without a Location header"
  content_iff (value : α) :
    result = .ok (.content value) ↔ a.isSuccess = true ∧ a.status ≠ 204 ∧ a.body ≠ [] ∧
      Record.ofBytes a.body = .ok value
  unreadable_iff (e : Record.Error) :
    result = .error (.unreadable e) ↔ a.isSuccess = true ∧ a.status ≠ 204 ∧ a.body ≠ [] ∧
      (Record.ofBytes a.body : Except Record.Error α) = .error e
  api_iff (status : Nat) (message body : String) :
    result = .error (.api status message body) ↔ a.isSuccess = false ∧ ¬ a.IsMoved ∧
      status = a.status ∧ body = Text.lossyText a.body ∧
      Explains ["error_description", "message", "messageDescription", "error"]
        s!"request failed with status code {a.status}" body message
  kind : (∃ reply, result = .ok reply) ∨ (∃ reason, result = .error (.unexpected reason)) ∨
    (∃ e, result = .error (.unreadable e)) ∨
      ∃ status message body, result = .error (.api status message body)

theorem interpret_sortsTo (a : Answer) : SortsTo a (interpret a : Except Failure (Reply α)) where
  noContent_iff := interpret_eq_noContent_iff
  redirect_iff location := by
    rw [interpret_eq_redirect_iff, isRedirect_iff, Answer.readableLocation?_eq_some_iff]
  unexpected_iff reason := by
    rw [interpret_eq_error_iff, isRedirect_iff, Option.eq_none_iff_forall_ne_some]
    simp only [ne_eq, Answer.readableLocation?_eq_some_iff]
  content_iff value := interpret_eq_content_iff
  unreadable_iff e := interpret_eq_error_iff
  api_iff status message body := by
    rw [interpret_eq_error_iff, ← Bool.not_eq_true (isRedirect a.status), isRedirect_iff, apiFailure,
      Failure.api.injEq]
    refine and_congr_right fun _ => and_congr_right fun _ => and_congr_right fun _ => ?_
    rw [and_comm]
    refine and_congr_right fun hbody => ?_
    subst hbody
    exact (explains_iff fun _ => statedMessage?_eq_some_iff).symm
  kind := by
    cases hresult : (interpret a : Except Failure (Reply α)) with
    | ok reply => exact .inl ⟨reply, rfl⟩
    | error e =>
      right
      have hcause := interpret_eq_error_iff.1 hresult
      cases e with
      | unexpected reason => exact .inl ⟨reason, rfl⟩
      | unreadable e => exact .inr (.inl ⟨e, rfl⟩)
      | api status message body => exact .inr (.inr ⟨status, message, body, rfl⟩)
      | _ => exact hcause.elim

/-! ### Content -/

theorem content_restsOn (g : Gateway) (method : Method) (url : String) (token : Option String)
    (body : Option Json) :
    (do let reply ← g.perform method url token body; Talk.ofExcept reply.intoContent :
      Talk Failure α).RestsOn fun a value => a.Holds value := by
  refine ((g.perform_restsOn method url token body).bind_ofExcept Reply.intoContent).congr
    fun a value => ?_
  constructor
  · rintro ⟨reply, hreply, hvalue⟩
    obtain rfl := intoContent_eq_ok hvalue
    exact interpret_eq_content_iff.1 hreply
  · intro hholds
    exact ⟨.content value, interpret_eq_content_iff.2 hholds, rfl⟩

end Gateway

namespace Resource

variable {τ : Type} [Resource τ] (g : Gateway) (token : String)

theorem list_restsOn (state : Option String) :
    (list g token state : Talk Failure (List τ)).RestsOn fun a items =>
      ∃ listing : Listing τ, a.Holds listing ∧ listing.items = items := by
  have hget (url : String) : (g.get url token : Talk Failure (Listing τ)).RestsOn
      fun a listing => a.Holds listing := g.content_restsOn .get url (some token) none
  exact (hget _).bind_pure Listing.items

theorem get_restsOn (id : String) :
    (get g token id : Talk Failure τ).RestsOn fun a record => a.Holds record :=
  .ofExcept_bind fun url => g.content_restsOn .get url (some token) none

end Resource

namespace Invitation

variable (g : Gateway) (token : String)

theorem submitForPreview_restsOn (s : Submission) :
    (submitForPreview g token s).RestsOn fun a preview =>
      ∃ payload : Json, a.Holds payload ∧ Preview.ofJson payload = .ok preview := by
  have hsubmit : (submit g token s).RestsOn fun a payload => a.Holds payload :=
    g.content_restsOn .post _ (some token) (some s.toJson)
  refine (hsubmit.bind_ofExcept fun payload =>
    (Preview.ofJson payload).mapError .malformed).congr fun a preview => ?_
  simp only [mapError_eq_ok_iff]

end Invitation

namespace Gateway

/-- A request that is answered comes to what its answer is sorted into. Whoever asks for content, be it
for himself, a list, a record, the agent or what there is to say of an invitation, sends one request at
most and is given something exactly where the answer to it holds content that is worth that. -/
theorem every_answer_sorted (g : Gateway) (token : String) :
    (∀ (α : Type) [Record.Codec α] (method : Method) (url : String) (bearer : Option String)
      (body : Option Json) (r : Request) (agency : Agency) (j : Journal) (a : Answer),
      prepare g.userAgent method url bearer (body.map .json) = .ok r →
      agency (j.requests ++ [r]) = some a →
        ∃ result : Except Failure (Reply α),
          g.perform method url bearer body (.up agency) j = (result, j ++ [.request r]) ∧
            SortsTo a result) ∧
    (∀ (α : Type) [Record.Codec α] (url : String),
      (g.get url token : Talk Failure α).RestsOn fun a value => a.Holds value) ∧
    (∀ (α : Type) [Record.Codec α] (url : String) (body : Json),
      (g.post url token body : Talk Failure α).RestsOn fun a value => a.Holds value) ∧
    (∀ (τ : Type) [Resource τ],
      (∀ state, (Resource.list g token state : Talk Failure (List τ)).RestsOn fun a items =>
        ∃ listing : Listing τ, a.Holds listing ∧ listing.items = items) ∧
      ∀ id, (Resource.get g token id : Talk Failure τ).RestsOn fun a record => a.Holds record) ∧
    (Agent.me g token).RestsOn (fun a agent => a.Holds agent) ∧
    ∀ s : Invitation.Submission,
      (Invitation.submit g token s).RestsOn (fun a payload => a.Holds payload) ∧
      (Invitation.submitForPreview g token s).RestsOn fun a preview =>
        ∃ payload : Json, a.Holds payload ∧ Preview.ofJson payload = .ok preview := by
  refine ⟨?_, fun α _ url => g.content_restsOn .get url (some token) none,
    fun α _ url body => g.content_restsOn .post url (some token) (some body),
    fun τ _ => ⟨Resource.list_restsOn g token, Resource.get_restsOn g token⟩,
    g.content_restsOn .get _ (some token) none,
    fun s => ⟨g.content_restsOn .post _ (some token) (some s.toJson),
      Invitation.submitForPreview_restsOn g token s⟩⟩
  intro α _ method url bearer body r agency j a hr ha
  have hanswer : Link.answer? (.up agency) (j ++ [.request r]) = some a := by
    simpa [Link.answer?, Journal.requests] using ha
  exact ⟨interpret a, perform_of_answered hr hanswer, interpret_sortsTo a⟩

end Gateway

end CredentialWallet

namespace CredentialWallet.Sample

/-- A refusal whose description is a null, so that it is the error that tells. -/
def refusal : Http.Answer where
  status := 400
  location := none
  body := (braced ["\"error_description\":null,", "\"error\":\"invalid_grant\""]).flatMap Text.utf8

theorem ofText?_refusal : Json.ofText? (Text.lossyText refusal.body) =
    .ok (.object [("error", .string "invalid_grant"), ("error_description", .null)]) :=
  toOption_eq_some_iff.1 (by decide +kernel)

/-- What is sent for the agent of the wallet. -/
def inquiry : Http.Request where
  method := .get
  url := {
    scheme := "http"
    authority := some ⟨[], [], "[::1]".toList, none⟩
    route := .segments (["diagency", "v1.0", "diagency", "agents", "me"].map String.toList)
    query := none
    fragment := none }
  authorization := ["Bearer access"]
  userAgent := "client"
  body := none

end CredentialWallet.Sample

namespace CredentialWallet.Gateway

open Sample

/-- The words of a refusal are those of its error, behind a description that is no text. -/
theorem every_answer_sorted_refusal :
    prepare service.gateway.userAgent .get (service.gateway.endpoint "agents/me") (some "access") none =
        .ok inquiry ∧
      (service.gateway.perform .get (service.gateway.endpoint "agents/me") (some "access") none :
          Talk Failure (Reply Agent)) (.up fun _ => some refusal) [] =
        (.error (.api 400 "invalid_grant" (Text.lossyText refusal.body)), [.request inquiry]) := by
  have hprepared : prepare service.gateway.userAgent .get (service.gateway.endpoint "agents/me")
      (some "access") none = .ok inquiry := toOption_eq_some_iff.1 (by decide +kernel)
  obtain ⟨result, hperform, hsorts⟩ := (every_answer_sorted service.gateway "access").1 Agent .get
    (service.gateway.endpoint "agents/me") (some "access") none inquiry (fun _ => some refusal) []
    refusal hprepared rfl
  have htold : BodyTells ["error_description", "message", "messageDescription", "error"]
      (Text.lossyText refusal.body) "invalid_grant" :=
    ⟨_, ofText?_refusal, ["error_description", "message", "messageDescription"], "error", [], rfl, rfl,
      by simp [Json.get?, Entries.get?, List.lookup_cons]⟩
  rw [hperform, (hsorts.api_iff 400 "invalid_grant" _).2
    ⟨rfl, fun hmoved => absurd (isRedirect_iff.2 hmoved) (by decide), rfl, rfl, .told htold⟩]
  exact ⟨hprepared, rfl⟩

end CredentialWallet.Gateway
