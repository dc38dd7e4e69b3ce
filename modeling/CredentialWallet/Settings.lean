import CredentialWallet.Verification
/-!
# Settings

How the agency is talked to, and which verifications a wallet lists.
-/

namespace CredentialWallet

open Record

/-- The path under which an agency keeps its resources. -/
def apiPath : String := "diagency/v1.0/diagency"

structure Settings where
  /-- The time allowed for a request, in seconds. -/
  timeout : Nat
  userAgent : String
  verificationState : VerificationState
deriving DecidableEq

namespace Settings

def default : Settings := ⟨30, "diagency-client/0.1.0", .passed⟩

def shape {α : Type} [Readable α] : Shape α Settings :=
  Settings.mk <$> .required "timeout" (readUnsigned "u64") <*> .required "user_agent" readText
    <*> .required "verification_state" (readWord VerificationState)

def toJson (s : Settings) : Json :=
  .object [("timeout", .ofNat s.timeout), ("user_agent", .string s.userAgent),
    ("verification_state", .string (Word.text s.verificationState))]

instance : Codec Settings where
  read := shape.read "ClientConfig"
  write := toJson

end Settings

end CredentialWallet
