import CredentialWallet.Url.Host
/-!
# Why a request gets no answer

A request cannot be put together, or it cannot be brought to the agency, or the agency hangs up. Each
cause is told in parts, from the outermost to the innermost.
-/

namespace CredentialWallet.Http

inductive Transport
  | unusableUrl (error : Url.Error)
  | foreignScheme (url : String)
  | unsendableHeader
  | unsendableUrl (url : String)
  | unreachable (url : String)
  | dropped (url : String)
deriving DecidableEq

namespace Transport

def parts : Transport → List String
  | unusableUrl error => ["builder error", error.message]
  | foreignScheme url => [s!"builder error for url ({url})", "URL scheme is not allowed"]
  | unsendableHeader => ["builder error", "failed to parse header value"]
  | unsendableUrl url => [s!"builder error for url ({url})", "Parsed Url is not a valid Uri"]
  | unreachable url => [s!"error sending request for url ({url})", "error trying to connect",
      "tcp connect error", "Network is unreachable (os error 101)"]
  | dropped url => [s!"error sending request for url ({url})",
      "connection closed before message completed"]

/-- Each part together with those inside it. -/
def nested : List String → List String
  | [] => []
  | part :: inner => ": ".intercalate (part :: inner) :: nested inner

def message (t : Transport) : String := ": ".intercalate t.parts

/-- The causes behind the message, which begin with the message itself. -/
def causes (t : Transport) : List String := nested t.parts

end Transport

end CredentialWallet.Http
