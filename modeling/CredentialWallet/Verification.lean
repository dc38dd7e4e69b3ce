import CredentialWallet.Connection
/-!
# Verifications

A verification is the exchange of a proof between a verifier and a prover.
-/

namespace CredentialWallet

open Record

inductive VerificationState
  | outboundVerificationRequest
  | inboundVerificationRequest
  | outboundProofRequest
  | inboundProofRequest
  | proofGenerated
  | proofShared
  | passed
  | failed
  | deleted
deriving DecidableEq

instance : Word VerificationState where
  setName := "VerificationState"
  all := [.outboundVerificationRequest, .inboundVerificationRequest, .outboundProofRequest,
    .inboundProofRequest, .proofGenerated, .proofShared, .passed, .failed, .deleted]
  text
    | .outboundVerificationRequest => "outbound_verification_request"
    | .inboundVerificationRequest => "inbound_verification_request"
    | .outboundProofRequest => "outbound_proof_request"
    | .inboundProofRequest => "inbound_proof_request"
    | .proofGenerated => "proof_generated"
    | .proofShared => "proof_shared"
    | .passed => "passed"
    | .failed => "failed"
    | .deleted => "deleted"
  label
    | .outboundVerificationRequest => "OutboundVerificationRequest"
    | .inboundVerificationRequest => "InboundVerificationRequest"
    | .outboundProofRequest => "OutboundProofRequest"
    | .inboundProofRequest => "InboundProofRequest"
    | .proofGenerated => "ProofGenerated"
    | .proofShared => "ProofShared"
    | .passed => "Passed"
    | .failed => "Failed"
    | .deleted => "Deleted"

instance : Word.Lawful VerificationState :=
  ⟨fun value => by cases value <;> decide +kernel⟩

inductive VerificationRole
  | verifier
  | prover
deriving DecidableEq

instance : Word VerificationRole where
  setName := "VerificationRole"
  all := [.verifier, .prover]
  text
    | .verifier => "verifier"
    | .prover => "prover"
  label
    | .verifier => "Verifier"
    | .prover => "Prover"

instance : Word.Lawful VerificationRole :=
  ⟨fun value => by cases value <;> decide +kernel⟩

structure Verification where
  id : String
  state : VerificationState
  role : Option VerificationRole
  verifierDid : Option String
  connection : Option Connection
  info : Option Json
  proofRequest : Option Json
  properties : Entries
deriving DecidableEq

namespace Verification

def shape {α : Type} [Readable α] : Shape α Verification :=
  Verification.mk <$> .required "id" readText <*> .required "state" (readWord VerificationState)
    <*> .optional "role" (readWord VerificationRole) <*> .optional "verifier_did" readText
    <*> .optional "connection" Codec.read <*> .optional "info" readFree
    <*> .optional "proof_request" readFree <*> .defaulted "properties" readMembers []

def toJson (v : Verification) : Json :=
  .object (Entries.optional "connection" (v.connection.map Connection.toJson) ++
    [("id", .string v.id)] ++ Entries.optional "info" v.info ++
    Entries.optional "proof_request" v.proofRequest ++ [("properties", .object v.properties)] ++
    optionalText "role" (v.role.map Word.text) ++ [("state", .string (Word.text v.state))] ++
    optionalText "verifier_did" v.verifierDid)

instance : Codec Verification where
  read := shape.read "VerificationInfo"
  write := toJson

/-- What is asked of a verification: a state. -/
structure Update where
  state : VerificationState
deriving DecidableEq

namespace Update

def shape {α : Type} [Readable α] : Shape α Update :=
  Update.mk <$> .required "state" (readWord VerificationState)

def toJson (u : Update) : Json := .object [("state", .string (Word.text u.state))]

/-- The state that is asked for can be read off. -/
theorem toJson_state (u : Update) : u.toJson.get? "state" = some (.string (Word.text u.state)) := by
  rfl

instance : Codec Update where
  read := shape.read "VerificationUpdate"
  write := toJson

end Update

end Verification

end CredentialWallet
