import CredentialWallet.Descriptor
import CredentialWallet.Http.Transport
import CredentialWallet.Malformed
/-!
# Failures

Why talking to an agency did not give what was asked for. A failure has one message, and a list of the
causes behind it for those who are shown all of them.
-/

namespace CredentialWallet

inductive Failure
  | malformed (error : Malformed)
  | transport (error : Http.Transport)
  | api (status : Nat) (message body : String)
  | unexpected (reason : String)
  | invalidSettings (reason : String)
  | authentication (reason : String)
  | unreadable (error : Record.Error)
deriving DecidableEq

namespace Failure

/-- The text of a failure, with a wording for faults. -/
def messageWith (wording : Fault → String) : Failure → String
  | malformed error => s!"Model error: {error.messageWith wording}"
  | transport error => s!"HTTP error: {error.message}"
  | api status message _ => s!"API error ({status}): {message}"
  | unexpected reason => s!"Unexpected response: {reason}"
  | invalidSettings reason => s!"Invalid configuration: {reason}"
  | authentication reason => s!"Authentication error: {reason}"
  | unreadable error => s!"Serialization error: {error.messageInText wording}"

def message (f : Failure) : String := f.messageWith Fault.message

def causes : Failure → List String
  | malformed error => [error.message]
  | transport error => error.causes
  | unreadable error => [error.messageInText Fault.message]
  | _ => []

end Failure

/-- Why a wallet cannot be opened or fetched again. -/
inductive OpeningFailure
  | badDescriptor (error : Descriptor.Error)
  | badSettings (failure : Failure)
  | notSignedIn (failure : Failure)
  | notFetched (resource : String) (failure : Failure)
deriving DecidableEq

namespace OpeningFailure

def messageWith (wording : Fault → String) : OpeningFailure → String
  | badDescriptor error => s!"Wallet data initialization failed: {error.messageWith wording}"
  | badSettings failure => s!"Wallet data initialization failed: {failure.messageWith wording}"
  | notSignedIn failure => s!"Failed to parse authentication response: {failure.messageWith wording}"
  | notFetched resource failure => s!"Failed to fetch {resource}: {failure.messageWith wording}"

def message (f : OpeningFailure) : String := f.messageWith Fault.message

def causes : OpeningFailure → List String
  | badDescriptor _ | badSettings _ => []
  | notSignedIn failure | notFetched _ failure => failure.message :: failure.causes

end OpeningFailure

end CredentialWallet
