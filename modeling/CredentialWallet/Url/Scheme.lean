/-!
# Schemes

The scheme of a URL tells how what stands behind it is read.
-/

namespace CredentialWallet.Url

inductive Scheme.Kind
  /-- A scheme with hosts of the known kind. -/
  | special
  /-- The scheme of local files. -/
  | file
  | unknown
deriving DecidableEq

/-- Whether backslashes separate segments like slashes do. -/
def Scheme.Kind.isKnown (k : Scheme.Kind) : Bool := k ≠ unknown

def schemeKind (scheme : String) : Scheme.Kind :=
  if scheme ∈ ["http", "https", "ftp", "ws", "wss"] then .special
  else if scheme = "file" then .file
  else .unknown

def defaultPort? (scheme : String) : Option Nat :=
  [("http", 80), ("https", 443), ("ftp", 21), ("ws", 80), ("wss", 443)].lookup scheme

end CredentialWallet.Url
