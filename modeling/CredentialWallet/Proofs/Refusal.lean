import CredentialWallet.Proofs.Sorting
/-!
# Why a grant is refused

A token endpoint that refuses a grant may give its reason, in a description or else in an error. The
description is preferred as soon as there is an entry of its name, whatever stands there. So the reason is
the best one given, unless a description that is no text hides the text of the error; nothing is told
then.
-/

namespace CredentialWallet

open Http (Answer Request)

namespace TokenEndpoint

/-- A text stands for the error, behind a description that is there and is no text. -/
def HidesError (body : String) : Prop :=
  ∃ value description error, Json.ofText? body = .ok value ∧
    value.get? "error_description" = some description ∧ (∀ s, description ≠ .string s) ∧
    value.get? "error" = some (.string error)

theorem statedReason?_of_hidesError {body : String} (h : HidesError body) :
    statedReason? body = none := by
  obtain ⟨value, description, error, hvalue, hdescription, hno, -⟩ := h
  simp only [statedReason?, hvalue, hdescription, Option.some_or, Option.bind_some]
  cases description with
  | string s => exact absurd rfl (hno s)
  | _ => rfl

/-- Where no error is hidden, an entry that is no text is passed over. -/
theorem statedReason?_eq_some_iff {body : String} (h : ¬ HidesError body) {text : String} :
    statedReason? body = some text ↔ BodyTells ["error_description", "error"] body text := by
  rw [statedReason?, BodyTells]
  cases hvalue : Json.ofText? body with
  | error e => simp
  | ok value =>
    simp only [Except.ok.injEq, exists_eq_left', ← Json.findSome?_eq_some_iff_tellsFirst,
      List.findSome?_cons, List.findSome?_nil]
    cases hdescription : value.get? "error_description" with
    | none =>
      simp only [Option.none_or, Option.bind_none]
      cases (value.get? "error").bind Json.asString? <;> rfl
    | some description =>
      simp only [Option.some_or, Option.bind_some]
      cases hasText : description.asString? with
      | some s => rfl
      | none =>
        have hno (s : String) : description ≠ .string s := by
          rintro rfl
          cases hasText
        have hnothing : (value.get? "error").bind Json.asString? = none := by
          apply Option.eq_none_iff_forall_ne_some.2
          intro error herror
          rw [Json.bind_asString?_eq_some_iff] at herror
          exact h ⟨value, description, error, hvalue, hdescription, hno, herror⟩
        simp only [hnothing]

/-- Whoever is refused a grant, be it for a password or for a refresh token, is told the description of
the refusal if that is a text, else the error if that is one, and else the status. But a description that
is there and is no text hides the text of an error, and only the status is told. -/
theorem ask_of_refused {userAgent : String} {client : Client} {grant : Grant} {agency : Agency}
    {j : Journal} {r : Request} {a : Answer}
    (hr : Gateway.prepare userAgent .post client.tokenUrl none (some (.form (grant.form client))) =
      .ok r)
    (ha : agency (j.requests ++ [r]) = some a) (hrefused : a.isSuccess = false) :
    ∃ reason,
      (TokenProvider.endpoint userAgent).ask client grant (.up agency) j =
        (.error (.authentication reason), j ++ [.grant client grant, .request r]) ∧
      (¬ HidesError (Text.lossyText a.body) → Explains ["error_description", "error"]
        s!"token endpoint returned status code {a.status}" (Text.lossyText a.body) reason) ∧
      (HidesError (Text.lossyText a.body) →
        reason = s!"token endpoint returned status code {a.status}") := by
  have hanswer : Link.answer? (.up agency) (j ++ [.grant client grant] ++ [.request r]) = some a := by
    simpa [Link.answer?, Journal.requests] using ha
  refine ⟨(statedReason? (Text.lossyText a.body)).getD
    s!"token endpoint returned status code {a.status}", ?_, ?_, ?_⟩
  · rw [TokenProvider.endpoint_ask_apply, ask_of_prepared agency _ hr, hanswer, List.append_assoc]
    show (interpret a, _) = _
    rw [interpret, if_neg (by simp [hrefused])]
    rfl
  · intro hnot
    exact (explains_iff fun _ => statedReason?_eq_some_iff hnot).2 rfl
  · intro hhides
    rw [statedReason?_of_hidesError hhides]
    rfl

end TokenEndpoint

end CredentialWallet

namespace CredentialWallet.Sample

/-- A client whose token endpoint stands beside the agency. -/
def client : Client := ⟨"http://[::1]/token", "c", none⟩

/-- What is sent for a grant to that client. -/
def form (grant : Grant) : Http.Request where
  method := .post
  url := {
    scheme := "http"
    authority := some ⟨[], [], "[::1]".toList, none⟩
    route := .segments ["token".toList]
    query := none
    fragment := none }
  authorization := []
  userAgent := "client"
  body := some (.form (grant.form client))

/-- A refusal with a description and an error. -/
def described : Http.Answer where
  status := 401
  location := none
  body := (braced ["\"error_description\":\"bad credentials\",", "\"error\":\"invalid_grant\""]).flatMap
    Text.utf8

end CredentialWallet.Sample

namespace CredentialWallet.TokenEndpoint

open Sample

/-- The description of a refusal is told. -/
theorem ask_of_refused_described :
    Gateway.prepare "client" .post client.tokenUrl none
        (some (.form ((Grant.password "holder" "secret").form client))) =
          .ok (form (.password "holder" "secret")) ∧ described.isSuccess = false ∧
      ((TokenProvider.endpoint "client").ask client (.password "holder" "secret")
        (.up fun _ => some described) []).1 = .error (.authentication "bad credentials") := by
  have hprepared : Gateway.prepare "client" .post client.tokenUrl none
      (some (.form ((Grant.password "holder" "secret").form client))) =
        .ok (form (.password "holder" "secret")) := toOption_eq_some_iff.1 (by decide +kernel)
  have hread : Json.ofText? (Text.lossyText described.body) = .ok (.object
      [("error", .string "invalid_grant"), ("error_description", .string "bad credentials")]) :=
    toOption_eq_some_iff.1 (by decide +kernel)
  have hnot : ¬ HidesError (Text.lossyText described.body) := by
    rintro ⟨value, description, error, hvalue, hdescription, hno, -⟩
    obtain rfl := Except.ok.inj (hread.symm.trans hvalue)
    exact hno "bad credentials" (Option.some.inj hdescription).symm
  have htold : BodyTells ["error_description", "error"] (Text.lossyText described.body)
      "bad credentials" :=
    ⟨_, hread, [], "error_description", ["error"], rfl, rfl, fun _ h => absurd h List.not_mem_nil⟩
  obtain ⟨reason, hask, hbest, -⟩ := @ask_of_refused "client" client (.password "holder" "secret")
    (fun _ => some described) [] _ described hprepared rfl rfl
  rw [hask, (hbest hnot).eq_of_told htold]
  exact ⟨hprepared, rfl, rfl⟩

/-- A description that is a null hides the error from whoever asks for a token, by a password or by a
refresh token, but not from those who ask for anything else. -/
theorem ask_of_refused_hiding :
    BodyTells ["error_description", "error"] (Text.lossyText refusal.body) "invalid_grant" ∧
      (∀ grant ∈ [Grant.password "holder" "secret", .refresh "refresh"],
        ((TokenProvider.endpoint "client").ask client grant (.up fun _ => some refusal) []).1 =
          .error (.authentication "token endpoint returned status code 400")) ∧
      (Gateway.interpret refusal : Except Failure (Gateway.Reply Json)) =
        .error (.api 400 "invalid_grant" (Text.lossyText refusal.body)) := by
  refine ⟨⟨_, ofText?_refusal, ["error_description"], "error", [], rfl, rfl, ?_⟩, by decide +kernel,
    by decide +kernel⟩
  simp [Json.get?, Entries.get?, List.lookup_cons]

end CredentialWallet.TokenEndpoint
