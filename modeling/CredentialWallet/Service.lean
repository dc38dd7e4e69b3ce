import CredentialWallet.Deed
import CredentialWallet.Fetch
import CredentialWallet.TokenProvider
/-!
# The service of an open wallet

What can be done with an open wallet. An offer is accepted and a proof is generated by committing the
invitation and then asking for the state; everything else only asks. The wallet changes once the agency
has answered all of it, and not before.
-/

namespace CredentialWallet

structure Service where
  gateway : Gateway
  provider : TokenProvider
  /-- The state in which verifications are listed. -/
  verificationState : VerificationState

namespace Service

/-- The service of a wallet. -/
def new (w : Wallet) (settings : Settings) (provider : TokenProvider) : Except Failure Service :=
  (Gateway.new w.baseUri settings).map fun gateway => ⟨gateway, provider, settings.verificationState⟩

/-! ### Actions -/

inductive CredentialAction
  | accept
  | reject
deriving DecidableEq

/-- The state that an action asks for. -/
def CredentialAction.target : CredentialAction → CredentialState
  | accept => .accepted
  | reject => .rejected

inductive VerificationAction
  | generate
  | share
  | reject
deriving DecidableEq

/-- The state that an action asks for. -/
def VerificationAction.target : VerificationAction → VerificationState
  | generate => .proofGenerated
  | share => .proofShared
  | reject => .failed

variable (s : Service)

/-- The preview of the invitation at a URL. -/
def preview (url : String) : Deed Failure Preview := do
  let w ← Deed.wallet
  Deed.ofTalk (Invitation.inspect s.gateway w.accessToken url)

/-- Acts on an offer. Its invitation is dropped, whether the offer is accepted or rejected. -/
def actOnOffer (offer : Offer) (action : CredentialAction) : Deed Failure Credential := do
  let w ← Deed.wallet
  if action = .accept then
    let _ ← Deed.ofTalk (Invitation.commit s.gateway w.accessToken offer.url)
  let credential : Credential ← Deed.ofTalk
    (Resource.update s.gateway w.accessToken offer.id (Credential.Update.toState action.target))
  Deed.change (·.removeInvitation offer.url)
  Deed.change (·.recordCredential credential)
  return credential

/-- Asks for the state of an action on a verification. -/
def updateVerification (id : String) (action : VerificationAction) : Deed Failure Verification := do
  let w ← Deed.wallet
  let verification : Verification ← Deed.ofTalk
    (Resource.update s.gateway w.accessToken id (Verification.Update.mk action.target))
  Deed.change (·.recordVerification verification)
  return verification

/-- Acts on a proof request. Its invitation is dropped once the proof is generated. -/
def actOnProofRequest (request : ProofRequest) (action : VerificationAction) :
    Deed Failure Verification := do
  let w ← Deed.wallet
  if action = .generate then
    let _ ← Deed.ofTalk (Invitation.commit s.gateway w.accessToken request.url)
  let verification ← s.updateVerification request.id action
  if action = .generate then
    Deed.change (·.removeInvitation request.url)
  return verification

def shareProof (id : String) : Deed Failure Verification := s.updateVerification id .share

def rejectProof (id : String) : Deed Failure Verification := s.updateVerification id .reject

def updateConnection (id : String) (update : Connection.Update) : Deed Failure Connection := do
  let w ← Deed.wallet
  let connection : Connection ← Deed.ofTalk (Resource.update s.gateway w.accessToken id update)
  Deed.change (·.recordConnection connection)
  return connection

/-- Deletes a credential at the agency and then in the wallet. -/
def deleteCredential (id : String) : Deed Failure Unit := do
  let w ← Deed.wallet
  Deed.ofTalk (Resource.delete s.gateway w.accessToken Credential id)
  Deed.change (·.removeCredential id)

/-- Exchanges the refresh token for a new token. A new token that cannot be refreshed keeps the old
refresh token. -/
def refreshToken : Deed Failure Token := do
  let w ← Deed.wallet
  match w.token.refresh with
  | none => Deed.ofTalk (.fail (.authentication "wallet has no refresh token"))
  | some old =>
    let granted ← Deed.ofTalk (s.provider.ask w.client (.refresh old))
    let token := { granted with refresh := granted.refresh.or (some old) }
    Deed.change (·.recordToken token)
    return token

/-- Fetches all records again with the token of the wallet; the answers arrive in the given order. -/
def reload (order : List Holdings.Part) : Deed OpeningFailure Unit := do
  let w ← Deed.wallet
  let holdings ← Deed.ofTalk
    (Holdings.fetch s.gateway w.accessToken s.verificationState order)
  Deed.change (·.recordHoldings holdings)

end Service

end CredentialWallet
