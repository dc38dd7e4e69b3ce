import CredentialWallet.Proofs.Inquiry
import CredentialWallet.Proofs.Requests
import CredentialWallet.Proofs.Scripted
/-!
# Commits come before updates

What an operation sends follows a fixed plan. The plans of the two operations that move an exchange
forward begin with the commit of an invitation, which leads on only if the agency answers it by a
preview. So in every run a request that moves an exchange forward stands right behind its own commit,
and nothing else commits anything.
-/

namespace CredentialWallet

open Http (Request)

/-! ### Requests that change an exchange -/

/-- Hands in an invitation to be committed. -/
def Http.Request.Commits (r : Request) : Prop :=
  r.method = .post ∧ ∃ body, r.body = some (.json body) ∧ body.get? "inspect" = some (.bool false)

/-- Asks for a credential to be accepted or for a proof to be generated. -/
def Http.Request.Moves (r : Request) : Prop :=
  r.method = .patch ∧ ∃ body, r.body = some (.json body) ∧
    (body.get? "state" = some (.string (Word.text CredentialState.accepted)) ∨
      body.get? "state" = some (.string (Word.text VerificationState.proofGenerated)))

namespace Service

/-- A step forward in an exchange: the invitation to commit, and what is asked for once that is done. -/
structure Move where
  url : String
  collection : String
  id : String
  change : Json

/-- The step that an operation takes. -/
def Operation.move? : Operation → Option Move
  | .actOnOffer offer .accept => some {
      url := offer.url
      collection := "credentials"
      id := offer.id
      change := (Credential.Update.toState .accepted).toJson }
  | .actOnProofRequest request .generate => some {
      url := request.url
      collection := "verifications"
      id := request.id
      change := (Verification.Update.mk .proofGenerated).toJson }
  | _ => none

/-! ### Plans -/

/-- What an operation on a wallet may send. -/
def plan (s : Service) (w : Wallet) : Operation → List Stage
  | .preview url => [s.gateway.submission w.accessToken ⟨url, true⟩]
  | .actOnOffer offer .accept =>
    s.gateway.submission w.accessToken ⟨offer.url, false⟩ ::
      s.gateway.revising w.accessToken "credentials" offer.id
        (Credential.Update.toState .accepted).toJson
  | .actOnOffer offer .reject =>
    s.gateway.revising w.accessToken "credentials" offer.id
      (Credential.Update.toState .rejected).toJson
  | .actOnProofRequest request .generate =>
    s.gateway.submission w.accessToken ⟨request.url, false⟩ ::
      s.gateway.revising w.accessToken "verifications" request.id
        (Verification.Update.mk .proofGenerated).toJson
  | .actOnProofRequest request .share =>
    s.gateway.revising w.accessToken "verifications" request.id
      (Verification.Update.mk .proofShared).toJson
  | .actOnProofRequest request .reject =>
    s.gateway.revising w.accessToken "verifications" request.id
      (Verification.Update.mk .failed).toJson
  | .shareProof id =>
    s.gateway.revising w.accessToken "verifications" id (Verification.Update.mk .proofShared).toJson
  | .rejectProof id =>
    s.gateway.revising w.accessToken "verifications" id (Verification.Update.mk .failed).toJson
  | .updateConnection id update =>
    s.gateway.revising w.accessToken "connections" id update.toJson
  | .deleteCredential id => [s.gateway.deleting w.accessToken "credentials" id]
  | .refreshToken =>
    match w.token.refresh with
    | none => []
    | some old => s.provider.granting w.client (.refresh old)
  | .reload _ => Holdings.Part.all.map (s.gateway.listing w.accessToken s.verificationState)

theorem finding_keepsTo {ε α : Type} {wrong : ε → Mishap} {right : α → Finding} {x : Talk ε α}
    {plan : List Stage} (h : x.KeepsTo plan) : (finding wrong right x).KeepsTo plan := h

theorem inquire_keepsTo (s : Service) (w : Wallet) (operation : Operation) :
    (s.inquire w operation).KeepsTo (s.plan w operation) := by
  cases operation with
  | preview url => exact finding_keepsTo (Invitation.inspect_keepsTo _ _ _)
  | actOnOffer offer action =>
    cases action with
    | accept =>
      exact finding_keepsTo
        (Invitation.commit_bind_keepsTo _ _ _ (Resource.update_keepsTo _ _ _ _))
    | reject => exact finding_keepsTo (Resource.update_keepsTo _ _ _ _)
  | actOnProofRequest request action =>
    cases action with
    | generate =>
      exact finding_keepsTo
        (Invitation.commit_bind_keepsTo _ _ _ (Resource.update_keepsTo _ _ _ _))
    | share => exact finding_keepsTo (Resource.update_keepsTo _ _ _ _)
    | reject => exact finding_keepsTo (Resource.update_keepsTo _ _ _ _)
  | shareProof id => exact finding_keepsTo (Resource.update_keepsTo _ _ _ _)
  | rejectProof id => exact finding_keepsTo (Resource.update_keepsTo _ _ _ _)
  | updateConnection id update => exact finding_keepsTo (Resource.update_keepsTo _ _ _ _)
  | deleteCredential id => exact finding_keepsTo (Resource.delete_keepsTo _ _ _)
  | refreshToken =>
    rw [inquire, plan, askForToken]
    cases w.token.refresh with
    | none => exact finding_keepsTo (Talk.keepsTo_fail _ _)
    | some old => exact finding_keepsTo (.bind_pure (s.provider.ask_keepsTo _ _) _)
  | reload order => exact finding_keepsTo (Holdings.fetch_keepsTo _ _ _ _)

/-- Whatever an operation leaves in the journal follows its plan. -/
theorem perform_follows (s : Service) (operation : Operation) (link : Link) (w : Wallet)
    (j : Journal) :
    ∃ sent, (s.perform operation link w j).2.2 = j ++ sent ∧
      Follows link (s.plan w operation) j sent := by
  obtain ⟨sent, hsent, hfollows⟩ := s.inquire_keepsTo w operation link j
  refine ⟨sent, ?_, hfollows⟩
  rcases hasked : s.inquire w operation link j with ⟨e | found, k⟩
  · rw [perform_of_error hasked, ← hsent, hasked]
  · rw [perform_of_ok hasked, ← hsent, hasked]

theorem plan_of_move {s : Service} {w : Wallet} {operation : Operation} {m : Move}
    (h : operation.move? = some m) :
    s.plan w operation = s.gateway.submission w.accessToken ⟨m.url, false⟩ ::
      s.gateway.revising w.accessToken m.collection m.id m.change := by
  cases operation with
  | actOnOffer offer action =>
    cases action with
    | accept => obtain rfl := Option.some.inj h; rfl
    | reject => cases h
  | actOnProofRequest request action =>
    cases action with
    | generate => obtain rfl := Option.some.inj h; rfl
    | share => cases h
    | reject => cases h
  | _ => cases h

end Service

/-! ### Stages that change no exchange -/

/-- No request of a stage commits an invitation or moves an exchange. -/
def Stage.IsQuiet (stage : Stage) : Prop :=
  ∀ r, stage.event? = some (.request r) → ¬ r.Commits ∧ ¬ r.Moves

theorem Stage.isQuiet_of_method {stage : Stage}
    (h : ∀ r, stage.event? = some (.request r) → r.method ≠ .post ∧ r.method ≠ .patch) :
    stage.IsQuiet := by
  intro r hr
  obtain ⟨hpost, hpatch⟩ := h r hr
  exact ⟨fun hcommits => hpost hcommits.1, fun hmoves => hpatch hmoves.1⟩

namespace Gateway

variable (g : Gateway) (token : String)

theorem inspection_isQuiet (url : String) : (g.submission token ⟨url, true⟩).IsQuiet := by
  intro r hr
  obtain ⟨hmethod, hbody⟩ := request_of_event hr
  constructor
  · rintro ⟨_, body, hjson, hinspect⟩
    rw [hbody] at hjson
    cases hjson
    cases hinspect
  · rintro ⟨hpatch, _⟩
    rw [hmethod] at hpatch
    cases hpatch

theorem updating_isQuiet (collection id : String) {change : Json} {state : String}
    (hstate : change.get? "state" = some (.string state))
    (haccepted : state ≠ Word.text CredentialState.accepted)
    (hgenerated : state ≠ Word.text VerificationState.proofGenerated) :
    (g.updating token collection id change).IsQuiet := by
  intro r hr
  obtain ⟨hmethod, hbody⟩ := request_of_event hr
  constructor
  · rintro ⟨hpost, _⟩
    rw [hmethod] at hpost
    cases hpost
  · rintro ⟨_, body, hjson, hmoved⟩
    rw [hbody] at hjson
    cases hjson
    rw [hstate] at hmoved
    rcases hmoved with h | h
    · exact haccepted (by injection h with h; injection h)
    · exact hgenerated (by injection h with h; injection h)

theorem fetching_isQuiet (collection id : String) : (g.fetching token collection id).IsQuiet :=
  Stage.isQuiet_of_method fun r hr => by
    rw [(request_of_event hr).1]
    decide

theorem deleting_isQuiet (collection id : String) : (g.deleting token collection id).IsQuiet :=
  Stage.isQuiet_of_method fun r hr => by
    rw [(request_of_event hr).1]
    decide

theorem listing_isQuiet (state : VerificationState) (part : Holdings.Part) :
    (g.listing token state part).IsQuiet :=
  Stage.isQuiet_of_method fun r hr => by
    rw [(request_of_event hr).1]
    decide

theorem revising_isQuiet (collection id : String) {change : Json} {state : String}
    (hstate : change.get? "state" = some (.string state))
    (haccepted : state ≠ Word.text CredentialState.accepted)
    (hgenerated : state ≠ Word.text VerificationState.proofGenerated) :
    ∀ stage ∈ g.revising token collection id change, stage.IsQuiet := by
  rw [revising, List.forall_mem_cons, List.forall_mem_singleton]
  exact ⟨g.updating_isQuiet token collection id hstate haccepted hgenerated,
    g.fetching_isQuiet token collection id⟩

end Gateway

theorem Stage.isQuiet_of_form {stage : Stage} (form : Form)
    (h : ∀ r, stage.event? = some (.request r) → r.body = some (.form form)) : stage.IsQuiet := by
  intro r hr
  constructor
  · rintro ⟨_, body, hbody, _⟩
    rw [h r hr] at hbody
    cases hbody
  · rintro ⟨_, body, hbody, _⟩
    rw [h r hr] at hbody
    cases hbody

theorem TokenProvider.granting_isQuiet (provider : TokenProvider) (client : Client) (grant : Grant) :
    ∀ stage ∈ provider.granting client grant, stage.IsQuiet := fun _ hstage =>
  Stage.isQuiet_of_form (grant.form client) fun _ hr => (request_of_granting hstage hr).2

namespace Service

theorem plan_isQuiet (s : Service) (w : Wallet) {operation : Operation}
    (h : operation.move? = none) : ∀ stage ∈ s.plan w operation, stage.IsQuiet := by
  cases operation with
  | preview url =>
    rw [plan, List.forall_mem_singleton]
    exact s.gateway.inspection_isQuiet w.accessToken url
  | actOnOffer offer action =>
    cases action with
    | accept => cases h
    | reject =>
      rw [plan]
      exact s.gateway.revising_isQuiet _ _ _ (Credential.Update.toJson_state _) (by decide)
        (by decide)
  | actOnProofRequest request action =>
    cases action with
    | generate => cases h
    | share =>
      rw [plan]
      exact s.gateway.revising_isQuiet _ _ _ (Verification.Update.toJson_state _) (by decide)
        (by decide)
    | reject =>
      rw [plan]
      exact s.gateway.revising_isQuiet _ _ _ (Verification.Update.toJson_state _) (by decide)
        (by decide)
  | shareProof id =>
    rw [plan]
    exact s.gateway.revising_isQuiet _ _ _ (Verification.Update.toJson_state _) (by decide)
      (by decide)
  | rejectProof id =>
    rw [plan]
    exact s.gateway.revising_isQuiet _ _ _ (Verification.Update.toJson_state _) (by decide)
      (by decide)
  | updateConnection id update =>
    rw [plan]
    refine s.gateway.revising_isQuiet _ _ _ (Connection.Update.toJson_state update) ?_ ?_
    · cases update.state <;> decide
    · cases update.state <;> decide
  | deleteCredential id =>
    rw [plan, List.forall_mem_singleton]
    exact s.gateway.deleting_isQuiet w.accessToken "credentials" id
  | refreshToken =>
    rw [plan]
    cases w.token.refresh with
    | none => exact fun _ h => absurd h List.not_mem_nil
    | some old => exact s.provider.granting_isQuiet w.client (.refresh old)
  | reload order =>
    rw [plan, List.forall_mem_map]
    exact fun part _ => s.gateway.listing_isQuiet w.accessToken s.verificationState part

theorem isQuiet_of_follows {s : Service} {w : Wallet} {operation : Operation} {link : Link}
    {j sent : Journal} (h : operation.move? = none)
    (hfollows : Follows link (s.plan w operation) j sent) {r : Request}
    (hr : .request r ∈ sent) : ¬ r.Commits ∧ ¬ r.Moves := by
  obtain ⟨stage, hstage, hevent⟩ := hfollows.exists_stage hr
  exact s.plan_isQuiet w h stage hstage r hevent

/-! ### Runs -/

/-- Among the events after a journal, each request that moves an exchange comes right behind the commit
of the same step of one of some operations, and the agency has answered that by a preview. -/
def CommitsFirst (s : Service) (link : Link) (operations : List Operation) (j sent : Journal) :
    Prop :=
  ∀ earlier r later, sent = earlier ++ .request r :: later → r.Moves →
    ∃ operation ∈ operations, ∃ (m : Move) (token : String) (before : Journal) (commit : Request),
      operation.move? = some m ∧ earlier = before ++ [.request commit] ∧
      (s.gateway.submission token ⟨m.url, false⟩).event? = some (.request commit) ∧
      (s.gateway.updating token m.collection m.id m.change).event? = some (.request r) ∧
      ∃ a ∈ link.answer? (j ++ earlier), a.Previews

namespace CommitsFirst

variable {s : Service} {link : Link} {operations more : List Operation} {j now later : Journal}

theorem nil : s.CommitsFirst link operations j [] := by
  intro earlier r later h
  simp at h

theorem mono (h : s.CommitsFirst link operations j now) (hsub : operations ⊆ more) :
    s.CommitsFirst link more j now := by
  intro earlier r later hsplit hmoves
  obtain ⟨operation, hmem, hrest⟩ := h earlier r later hsplit hmoves
  exact ⟨operation, hsub hmem, hrest⟩

theorem append (hnow : s.CommitsFirst link operations j now)
    (hlater : s.CommitsFirst link operations (j ++ now) later) :
    s.CommitsFirst link operations j (now ++ later) := by
  intro earlier r rest hsplit hmoves
  rcases List.append_eq_append_iff.1 hsplit with ⟨middle, rfl, hmiddle⟩ | ⟨middle, rfl, hmiddle⟩
  · obtain ⟨operation, hmem, m, token, before, commit, hmove, rfl, hcommit, hupdate, hanswer⟩ :=
      hlater middle r rest hmiddle hmoves
    refine ⟨operation, hmem, m, token, now ++ before, commit, hmove, ?_, hcommit, hupdate, ?_⟩
    · rw [List.append_assoc]
    · rwa [← List.append_assoc]
  · cases middle with
    | nil =>
      obtain ⟨_, _, _, _, before, _, _, hempty, _⟩ := hlater [] r rest hmiddle.symm hmoves
      simp at hempty
    | cons event middle =>
      obtain ⟨rfl, rfl⟩ := List.cons.inj hmiddle
      exact hnow earlier r middle rfl hmoves

end CommitsFirst

theorem commitsFirst_of_follows {s : Service} {w : Wallet} {operation : Operation} {link : Link}
    {j sent : Journal} (hfollows : Follows link (s.plan w operation) j sent) :
    s.CommitsFirst link [operation] j sent := by
  intro earlier r later hsplit hmoves
  subst hsplit
  cases hmove : operation.move? with
  | none =>
    have hmem : Event.request r ∈ earlier ++ .request r :: later :=
      List.mem_append_right earlier List.mem_cons_self
    exact absurd hmoves (isQuiet_of_follows hmove hfollows hmem).2
  | some m =>
    rw [plan_of_move hmove, Gateway.revising] at hfollows
    rcases earlier with _ | ⟨first, _ | ⟨second, earlier⟩⟩
    · obtain ⟨hfirst, _, _⟩ := follows_cons.1 hfollows
      have hpost := (Gateway.request_of_event hfirst).1
      rw [hmoves.1] at hpost
      cases hpost
    · obtain ⟨hfirst, hleads, hrest⟩ := follows_cons.1 hfollows
      obtain ⟨hsecond, _, _⟩ := follows_cons.1 hrest
      obtain ⟨commit, _, rfl⟩ := Option.map_eq_some_iff.1 hfirst
      exact ⟨operation, List.mem_singleton_self operation, m, w.accessToken, [], commit, hmove, rfl,
        hfirst, hsecond, hleads (List.cons_ne_nil _ _)⟩
    · obtain ⟨_, _, hrest⟩ := follows_cons.1 hfollows
      obtain ⟨_, _, hlast⟩ := follows_cons.1 hrest
      have hmem : Event.request r ∈ earlier ++ .request r :: later :=
        List.mem_append_right earlier List.mem_cons_self
      obtain ⟨stage, hstage, hevent⟩ := hlast.exists_stage hmem
      obtain rfl := List.mem_singleton.1 hstage
      exact absurd hmoves (s.gateway.fetching_isQuiet _ _ _ r hevent).2

theorem run_commitsFirst (s : Service) (link : Link) (operations : List Operation) (w : Wallet)
    (j : Journal) :
    ∃ sent, (s.run link operations (w, j)).2 = j ++ sent ∧ s.CommitsFirst link operations j sent := by
  induction operations generalizing w j with
  | nil => exact ⟨[], (List.append_nil j).symm, .nil⟩
  | cons operation rest ih =>
    obtain ⟨now, hnow, hfollows⟩ := s.perform_follows operation link w j
    obtain ⟨later, hlater, hrest⟩ := ih (s.perform operation link w j).2.1 (j ++ now)
    refine ⟨now ++ later, ?_, ?_⟩
    · rw [run_cons, ← List.append_assoc, ← hlater, ← hnow]
    · have hfirst := commitsFirst_of_follows hfollows
      exact (hfirst.mono (by simp)).append (hrest.mono (List.subset_cons_self operation rest))

/-- Each operation of a run follows its plan and, unless it takes a step forward, changes no exchange.
Hence in the whole run a request that moves an exchange stands right behind its own commit. -/
theorem run_commits_before_updates (s : Service) (link : Link) (operations : List Operation)
    (w : Wallet) (j : Journal) :
    (∀ earlier operation later, operations = earlier ++ operation :: later →
      ∃ sent,
        (s.run link (earlier ++ [operation]) (w, j)).2 = (s.run link earlier (w, j)).2 ++ sent ∧
        Follows link (s.plan (s.run link earlier (w, j)).1 operation) (s.run link earlier (w, j)).2
          sent ∧
        (operation.move? = none → ∀ r, .request r ∈ sent → ¬ r.Commits ∧ ¬ r.Moves)) ∧
    ∃ sent, (s.run link operations (w, j)).2 = j ++ sent ∧
      s.CommitsFirst link operations j sent := by
  refine ⟨?_, s.run_commitsFirst link operations w j⟩
  intro earlier operation later _
  obtain ⟨sent, hsent, hfollows⟩ := s.perform_follows operation link
    (s.run link earlier (w, j)).1 (s.run link earlier (w, j)).2
  refine ⟨sent, ?_, hfollows, fun hmove r hr => isQuiet_of_follows hmove hfollows hr⟩
  rw [run_append]
  exact hsent

end Service

end CredentialWallet

namespace CredentialWallet.Sample

def commitment : Http.Request where
  method := .post
  url := itemUrl ["invitation_processor"]
  authorization := ["Bearer access"]
  userAgent := "client"
  body := some (.json (Invitation.Submission.toJson ⟨invitation.url, false⟩))

def acceptance : Http.Request where
  method := .patch
  url := itemUrl ["credentials", "c"]
  authorization := ["Bearer access"]
  userAgent := "client"
  body := some (.json (Credential.Update.toState .accepted).toJson)

end CredentialWallet.Sample

namespace CredentialWallet.Service

open Sample

/-- To accept the offer, its invitation is committed and then the update is asked for. -/
theorem run_commits_before_updates_accepting :
    (service.run (.up stocked.agency) [.actOnOffer offer .accept] (wallet, [])).2 =
        [.request commitment, .request acceptance] ∧
      commitment.Commits ∧ acceptance.Moves ∧
      ∃ a ∈ Link.answer? (.up stocked.agency) [.request commitment], a.Previews := by
  have hjournal : (service.run (.up stocked.agency) [.actOnOffer offer .accept] (wallet, [])).2 =
      [.request commitment, .request acceptance] := by decide +kernel
  have hcommits : commitment.Commits := ⟨rfl, _, rfl, rfl⟩
  have hmoves : acceptance.Moves := ⟨rfl, _, rfl, .inl rfl⟩
  obtain ⟨-, sent, hsent, hfirst⟩ := run_commits_before_updates service (.up stocked.agency)
    [.actOnOffer offer .accept] wallet []
  obtain rfl : sent = [.request commitment, .request acceptance] := hsent.symm.trans hjournal
  obtain ⟨_, _, _, _, _, _, _, _, _, _, hpreviews⟩ := hfirst [.request commitment] acceptance [] rfl hmoves
  exact ⟨hjournal, hcommits, hmoves, hpreviews⟩

end CredentialWallet.Service
