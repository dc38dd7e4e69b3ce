import CredentialWallet.Command.Line
import CredentialWallet.Opening
import CredentialWallet.Service
/-!
# Carrying out a command

A command opens a wallet, does one thing with it and gives one JSON document, or fails. An offer or a
proof request is looked at before anything is done about it, and an invitation of the other kind is left
alone.
-/

namespace CredentialWallet.Command

/-- Why a command fails. -/
inductive Complaint
  | unreadableFile (path reason : String)
  | notOpened (failure : OpeningFailure)
  | failed (failure : Failure)
  | noOffer (url : String)
  | noProofRequest (url : String)
deriving DecidableEq

namespace Complaint

def message : Complaint → String
  | unreadableFile path _ => s!"failed to read {path}"
  | notOpened failure => failure.message
  | failed failure => failure.message
  | noOffer url => s!"{url} is not a credential offer"
  | noProofRequest url => s!"{url} is not a verification request"

def causes : Complaint → List String
  | unreadableFile _ reason => [reason]
  | notOpened failure => failure.causes
  | failed failure => failure.causes
  | noOffer _ | noProofRequest _ => []

/-- A text whose further lines are set in like its first. -/
def indented (first further text : String) : String :=
  first ++ ("\n" ++ further).intercalate (text.splitOn "\n")

/-- Several causes are numbered, a single one is not. -/
def causesText : List String → String
  | [] => ""
  | [cause] => "\n\nCaused by:\n" ++ indented "    " "    " cause
  | causes =>
    "\n\nCaused by:\n" ++ "\n".intercalate (causes.zipIdx.map fun (cause, index) =>
      indented (padLeft 5 s!"{index}" ++ ": ") "       " cause)
where
  padLeft (width : Nat) (s : String) : String :=
    String.ofList (List.replicate (width - s.length) ' ') ++ s

/-- What the user is told. -/
def text (c : Complaint) : String := s!"Error: {c.message}{causesText c.causes}\n"

end Complaint

/-- Deals with the offer at a URL, if it is one. -/
def handleOffer (s : Service) (url : String) (action : Service.CredentialAction) :
    Deed Complaint Json := do
  match ← (s.preview url).mapError .failed with
  | .offer offer =>
    let credential ← (s.actOnOffer offer action).mapError .failed
    return credential.toJson
  | .proofRequest _ => Deed.ofTalk (.fail (.noOffer url))

/-- Does what a command says with an open wallet. -/
def carryOut (s : Service) : Command → Deed Complaint Json
  | wallet => do
    let w ← Deed.wallet
    return w.toHoldings.toJson
  | preview url => do
    let preview ← (s.preview url).mapError .failed
    return preview.payload
  | accept url => handleOffer s url .accept
  | reject url => handleOffer s url .reject
  | prove url => do
    match ← (s.preview url).mapError .failed with
    | .proofRequest request =>
      let verification ← (s.actOnProofRequest request .generate).mapError .failed
      return verification.toJson
    | .offer _ => Deed.ofTalk (.fail (.noProofRequest url))
  | share id => do
    let verification ← (s.shareProof id).mapError .failed
    return verification.toJson
  | rejectProof id => do
    let verification ← (s.rejectProof id).mapError .failed
    return verification.toJson
  | deleteCredential id => do
    (s.deleteCredential id).mapError .failed
    return .object [("deleted", .string id)]

/-- The content of a file, or why it cannot be read. -/
abbrev Files := String → Except String String

/-- Opens the wallet, and puts the service for it together. -/
def openWallet (files : Files) (o : Options) : Talk Complaint (Service × Wallet) := do
  let descriptor ← Talk.ofExcept ((files o.descriptor).mapError (.unreadableFile o.descriptor))
  let opener ← Talk.ofExcept ((Opener.ofSettings o.settings).mapError .notOpened)
  let login : Login := ⟨descriptor, o.username, o.password⟩
  let w ← (opener.initiate login []).mapError .notOpened
  let service ← Talk.ofExcept ((Service.new w opener.settings opener.provider).mapError .failed)
  return (service, w)

/-- Opens the wallet and carries out the command. -/
def execute (files : Files) (o : Options) (c : Command) : Talk Complaint Json := do
  let (service, w) ← openWallet files o
  (carryOut service c).on w

/-- What a run of the program leaves behind. -/
structure Report where
  exitCode : Nat
  output : String
  errors : String
deriving DecidableEq

/-- Runs the program on the words of a command line. -/
def run (env : Environment) (files : Files) (words : List String) (link : Link) : Report × Journal :=
  match parse env words with
  | .error .refused => (⟨2, "", usageText⟩, [])
  | .error (.shown text) => (⟨0, text, ""⟩, [])
  | .ok (o, c) =>
    match execute files o c link [] with
    | (.ok value, j) => (⟨0, value.pretty ++ "\n", ""⟩, j)
    | (.error complaint, j) => (⟨1, "", complaint.text⟩, j)

end CredentialWallet.Command
