import CredentialWallet.Service.Run
/-!
# What an operation asks and what it records

Every operation of a service is one talk with the agency and then one change of the wallet. The talk
depends on nothing but the wallet that the operation starts with, and the change on what the talk
found. The rest of the theory reaches the operations only through `perform_eq`.
-/

namespace CredentialWallet

namespace Service

/-- What the talk of an operation finds. -/
inductive Finding
  | preview (preview : Preview)
  | credential (credential : Credential)
  | verification (verification : Verification)
  | connection (connection : Connection)
  | deleted
  | token (token : Token)
  | holdings (holdings : Holdings)
deriving DecidableEq

/-- What is told of a finding. -/
def Finding.outcome : Finding → Outcome
  | preview p => .preview p
  | credential c => .credential c
  | verification v => .verification v
  | connection c => .connection c
  | deleted => .done
  | token t => .token t
  | holdings _ => .done

variable (s : Service)

/-! ### Talks -/

/-- Commits an invitation and then asks for an update of a record. -/
def commitAndUpdate {τ υ : Type} [Resource τ] [Record.Codec υ] (token url id : String) (change : υ) :
    Talk Failure τ := do
  let _ ← Invitation.commit s.gateway token url
  Resource.update s.gateway token id change

/-- Asks for the state of an action on an offer. -/
def askOfOffer (token : String) (offer : Offer) : CredentialAction → Talk Failure Credential
  | .accept => s.commitAndUpdate token offer.url offer.id (Credential.Update.toState .accepted)
  | .reject => Resource.update s.gateway token offer.id (Credential.Update.toState .rejected)

/-- Asks for the state of an action on a verification. -/
def askOfVerification (token id : String) (action : VerificationAction) : Talk Failure Verification :=
  Resource.update s.gateway token id (Verification.Update.mk action.target)

/-- Asks for the state of an action on a proof request. -/
def askOfProofRequest (token : String) (request : ProofRequest) :
    VerificationAction → Talk Failure Verification
  | .generate => s.commitAndUpdate token request.url request.id (Verification.Update.mk .proofGenerated)
  | action => s.askOfVerification token request.id action

/-- Asks for a new token, which keeps the old refresh token if it has none of its own. -/
def askForToken (w : Wallet) : Talk Failure Token :=
  match w.token.refresh with
  | none => .fail (.authentication "wallet has no refresh token")
  | some old => do
    let granted ← s.provider.ask w.client (.refresh old)
    return { granted with refresh := granted.refresh.or (some old) }

/-- A talk seen as the talk of an operation. -/
def finding {ε α : Type} (wrong : ε → Mishap) (right : α → Finding) (x : Talk ε α) :
    Talk Mishap Finding := fun link j =>
  let r := x link j
  ((r.1.mapError wrong).map right, r.2)

/-- The talk of an operation. -/
def inquire (w : Wallet) : Operation → Talk Mishap Finding
  | .preview url => finding .failure .preview (Invitation.inspect s.gateway w.accessToken url)
  | .actOnOffer offer action => finding .failure .credential (s.askOfOffer w.accessToken offer action)
  | .actOnProofRequest request action =>
    finding .failure .verification (s.askOfProofRequest w.accessToken request action)
  | .shareProof id => finding .failure .verification (s.askOfVerification w.accessToken id .share)
  | .rejectProof id => finding .failure .verification (s.askOfVerification w.accessToken id .reject)
  | .updateConnection id update =>
    finding .failure .connection (Resource.update s.gateway w.accessToken id update)
  | .deleteCredential id =>
    finding .failure (fun _ => .deleted) (Resource.delete s.gateway w.accessToken Credential id)
  | .refreshToken => finding .failure .token (s.askForToken w)
  | .reload order =>
    finding .notReloaded .holdings
      (Holdings.fetch s.gateway w.accessToken s.verificationState order)

/-! ### Changes -/

/-- The change that an operation makes for what it found. -/
def Operation.record : Operation → Finding → Wallet → Wallet
  | .actOnOffer offer _, .credential c => fun w => (w.removeInvitation offer.url).recordCredential c
  | .actOnProofRequest request .generate, .verification v => fun w =>
    (w.recordVerification v).removeInvitation request.url
  | .actOnProofRequest _ _, .verification v => (·.recordVerification v)
  | .shareProof _, .verification v => (·.recordVerification v)
  | .rejectProof _, .verification v => (·.recordVerification v)
  | .updateConnection _ _, .connection c => (·.recordConnection c)
  | .deleteCredential id, .deleted => (·.removeCredential id)
  | .refreshToken, .token t => (·.recordToken t)
  | .reload _, .holdings h => (·.recordHoldings h)
  | _, _ => id

/-- Where an operation on a wallet ends whose talk has ended: with what it found recorded and told, or
with the wallet as it was. -/
def Operation.conclude (operation : Operation) (w : Wallet) :
    Except Mishap Finding × Journal → Except Mishap Outcome × Wallet × Journal
  | (.ok found, k) => (.ok found.outcome, operation.record found w, k)
  | (.error e, k) => (.error e, w, k)

/-! ### Operations -/

variable {s}

theorem preview_eq (url : String) :
    s.preview url = Deed.consult (fun w => Invitation.inspect s.gateway w.accessToken url)
      (fun _ => id) id := by
  simp only [preview, Deed.consult, Deed.change_id_bind, id_eq, bind_pure]

theorem actOnOffer_eq (offer : Offer) (action : CredentialAction) :
    s.actOnOffer offer action = Deed.consult (fun w => s.askOfOffer w.accessToken offer action)
      (fun c w => (w.removeInvitation offer.url).recordCredential c) id := by
  cases action with
  | accept =>
    simp only [actOnOffer, CredentialAction.target, askOfOffer, commitAndUpdate, Deed.consult,
      Deed.ofTalk_bind, Deed.change_bind_change, bind_assoc, if_true, id_eq]
  | reject =>
    simp only [actOnOffer, CredentialAction.target, askOfOffer, Deed.consult,
      Deed.change_bind_change, reduceCtorEq, if_false, id_eq]

theorem updateVerification_eq (id : String) (action : VerificationAction) :
    s.updateVerification id action =
      Deed.consult (fun w => s.askOfVerification w.accessToken id action)
        (fun v w => w.recordVerification v) (fun v => v) := by
  simp only [updateVerification, askOfVerification, Deed.consult]

theorem actOnProofRequest_eq (request : ProofRequest) (action : VerificationAction) :
    s.actOnProofRequest request action =
      Deed.consult (fun w => s.askOfProofRequest w.accessToken request action)
        (fun v w => if action = .generate then (w.recordVerification v).removeInvitation request.url
          else w.recordVerification v) (fun v => v) := by
  cases action with
  | generate =>
    simp only [actOnProofRequest, updateVerification_eq, VerificationAction.target,
      askOfProofRequest, askOfVerification, commitAndUpdate, Deed.consult, Deed.ofTalk_bind,
      Deed.change_bind_change, Deed.wallet_after_ofTalk, bind_assoc, pure_bind, if_true]
  | share =>
    simp only [actOnProofRequest, updateVerification_eq, askOfProofRequest, Deed.consult,
      Deed.wallet_bind_const, bind_pure, reduceCtorEq, if_false]
  | reject =>
    simp only [actOnProofRequest, updateVerification_eq, askOfProofRequest, Deed.consult,
      Deed.wallet_bind_const, bind_pure, reduceCtorEq, if_false]

theorem updateConnection_eq (id : String) (update : Connection.Update) :
    s.updateConnection id update =
      Deed.consult (fun w => Resource.update s.gateway w.accessToken id update)
        (fun c w => w.recordConnection c) (fun c => c) := by
  simp only [updateConnection, Deed.consult]

theorem deleteCredential_eq (id : String) :
    s.deleteCredential id =
      Deed.consult (fun w => Resource.delete s.gateway w.accessToken Credential id)
        (fun _ w => w.removeCredential id) (fun _ => ()) := by
  simp only [deleteCredential, Deed.consult, bind_pure_unit]

theorem refreshToken_eq :
    s.refreshToken = Deed.consult s.askForToken (fun t w => w.recordToken t) (fun t => t) := by
  rw [refreshToken, Deed.consult]
  refine congrArg (Deed.wallet >>= ·) (funext fun w => ?_)
  rw [askForToken]
  cases w.token.refresh with
  | none => rfl
  | some old => simp only [Deed.ofTalk_bind, Deed.ofTalk_pure, bind_assoc, pure_bind]

theorem reload_eq (order : List Holdings.Part) :
    s.reload order =
      Deed.consult (fun w => Holdings.fetch s.gateway w.accessToken s.verificationState order)
        (fun h w => w.recordHoldings h) (fun _ => ()) := by
  simp only [reload, Deed.consult, bind_pure_unit]

section

variable {ε α : Type} {wrong : ε → Mishap} {link : Link} {j k : Journal}

theorem finding_of_ok {right : α → Finding} {x : Talk ε α} {a : α} (h : x link j = (.ok a, k)) :
    finding wrong right x link j = (.ok (right a), k) := by
  simp only [finding, h]
  rfl

theorem finding_of_error {right : α → Finding} {x : Talk ε α} {e : ε}
    (h : x link j = (.error e, k)) : finding wrong right x link j = (.error (wrong e), k) := by
  simp only [finding, h]
  rfl

theorem report_of_ok {right : α → Outcome} {d : Deed ε α} {w v : Wallet} {a : α}
    (h : d link w j = (.ok a, v, k)) : report wrong right d link w j = (.ok (right a), v, k) := by
  simp only [report, h]
  rfl

theorem report_of_error {right : α → Outcome} {d : Deed ε α} {w v : Wallet} {e : ε}
    (h : d link w j = (.error e, v, k)) :
    report wrong right d link w j = (.error (wrong e), v, k) := by
  simp only [report, h]
  rfl

end

private theorem report_consult {ε α β : Type} {wrong : ε → Mishap} {right : β → Outcome}
    {found : α → Finding} {operation : Operation} {ask : Wallet → Talk ε α}
    {record : α → Wallet → Wallet} {give : α → β}
    (hgive : ∀ a, right (give a) = (found a).outcome)
    (hrecord : ∀ a w, record a w = operation.record (found a) w) (link : Link) (w : Wallet)
    (j : Journal) :
    report wrong right (Deed.consult ask record give) link w j =
      operation.conclude w (finding wrong found (ask w) link j) := by
  rcases h : ask w link j with ⟨e | a, k⟩
  · have hconsult : Deed.consult ask record give link w j = (.error e, w, k) := by
      rw [Deed.consult_apply, h]
    rw [report_of_error hconsult, finding_of_error h, Operation.conclude]
  · have hconsult : Deed.consult ask record give link w j = (.ok (give a), record a w, k) := by
      rw [Deed.consult_apply, h]
    rw [report_of_ok hconsult, finding_of_ok h, Operation.conclude, hgive, hrecord]

/-- An operation is its talk, and then the change that records what the talk found. -/
theorem perform_eq (operation : Operation) (link : Link) (w : Wallet) (j : Journal) :
    s.perform operation link w j = operation.conclude w (s.inquire w operation link j) := by
  cases operation with
  | preview url =>
    rw [perform, preview_eq, inquire]
    apply report_consult <;> intros <;> rfl
  | actOnOffer offer action =>
    rw [perform, actOnOffer_eq, inquire]
    apply report_consult <;> intros <;> rfl
  | actOnProofRequest request action =>
    rw [perform, actOnProofRequest_eq, inquire]
    apply report_consult
    · intros
      rfl
    · intros
      cases action <;> rfl
  | shareProof id =>
    rw [perform, shareProof, updateVerification_eq, inquire]
    apply report_consult <;> intros <;> rfl
  | rejectProof id =>
    rw [perform, rejectProof, updateVerification_eq, inquire]
    apply report_consult <;> intros <;> rfl
  | updateConnection id update =>
    rw [perform, updateConnection_eq, inquire]
    apply report_consult <;> intros <;> rfl
  | deleteCredential id =>
    rw [perform, deleteCredential_eq, inquire]
    apply report_consult <;> intros <;> rfl
  | refreshToken =>
    rw [perform, refreshToken_eq, inquire]
    apply report_consult <;> intros <;> rfl
  | reload order =>
    rw [perform, reload_eq, inquire]
    apply report_consult <;> intros <;> rfl

theorem perform_of_ok {operation : Operation} {link : Link} {w : Wallet} {j k : Journal}
    {found : Finding} (h : s.inquire w operation link j = (.ok found, k)) :
    s.perform operation link w j = (.ok found.outcome, operation.record found w, k) := by
  rw [perform_eq, h, Operation.conclude]

theorem perform_of_error {operation : Operation} {link : Link} {w : Wallet} {j k : Journal}
    {e : Mishap} (h : s.inquire w operation link j = (.error e, k)) :
    s.perform operation link w j = (.error e, w, k) := by
  rw [perform_eq, h, Operation.conclude]

/-! ### Steps -/

/-- An operation of a run with what it found and what it told, between two states. -/
structure Step where
  operation : Operation
  before : Wallet × Journal
  found : Except Mishap Finding
  told : Except Mishap Outcome
  after : Wallet × Journal

def step (s : Service) (link : Link) (operation : Operation) (state : Wallet × Journal) : Step where
  operation
  before := state
  found := (s.inquire state.1 operation link state.2).1
  told := (s.perform operation link state.1 state.2).1
  after := (s.perform operation link state.1 state.2).2

/-- The steps of a run. -/
def steps (s : Service) (link : Link) : List Operation → Wallet × Journal → List Step
  | [], _ => []
  | operation :: rest, state =>
    s.step link operation state :: s.steps link rest (s.step link operation state).after

theorem step_of_perform {s : Service} {link : Link} {operation : Operation} {w : Wallet} {j : Journal}
    {told : Except Mishap Outcome} {after : Wallet × Journal}
    (h : s.perform operation link w j = (told, after)) :
    (s.step link operation (w, j)).told = told ∧ (s.step link operation (w, j)).after = after :=
  ⟨congrArg Prod.fst h, congrArg Prod.snd h⟩

theorem step_told (s : Service) (link : Link) (operation : Operation) (state : Wallet × Journal) :
    (s.step link operation state).told = (s.step link operation state).found.map Finding.outcome := by
  rcases hasked : s.inquire state.1 operation link state.2 with ⟨e | found, k⟩
  · simp only [step, hasked, perform_of_error hasked, Except.map]
  · simp only [step, hasked, perform_of_ok hasked, Except.map]

end Service

end CredentialWallet
