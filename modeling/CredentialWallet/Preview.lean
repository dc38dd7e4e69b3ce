import CredentialWallet.Malformed
import CredentialWallet.Record.Codec
import CredentialWallet.Text.Infix
/-!
# Previews

What the agency says of an invitation has no field for its kind. The kind is told by the name of its
attachment, looked for anywhere in the text; a text that holds both names is a proof request.
-/

namespace CredentialWallet

open Record

namespace Preview

inductive Kind
  | credential
  | verification
deriving DecidableEq

def Kind.label : Kind → String
  | credential => "Credential"
  | verification => "Verification"

/-- The attachment of a proof request. -/
def verificationMarker : String := "request_presentations~attach"

/-- The attachment of a credential offer or of an invitation to connect. -/
def credentialMarker : String := "requests~attach"

/-- The kind of invitation that a text holds. -/
def classify (raw : String) : Except Malformed Kind :=
  if Text.occursIn verificationMarker.toList raw.toList then .ok .verification
  else if Text.occursIn credentialMarker.toList raw.toList then .ok .credential
  else .error (.unknownFormat (String.ofList (raw.toList.take 64)))

end Preview

/-- What an invitation of a kind says of itself, with the payload it came in. -/
structure Announcement (kind : Preview.Kind) where
  id : String
  url : String
  label : Option String
  comment : Option String
  payload : Json
deriving DecidableEq

/-- A credential that an issuer offers. -/
abbrev Offer := Announcement .credential

/-- A proof that a verifier asks for. -/
abbrev ProofRequest := Announcement .verification

namespace Announcement

variable {kind : Preview.Kind}

/-- The payload is no field of the record; what is read as a mere record has none. -/
def shape {α : Type} [Readable α] : Shape α (Announcement kind) :=
  (Announcement.mk · · · · .null) <$> .required "id" readText <*> .required "url" readText
    <*> .optional "label" readText <*> .optional "comment" readText

def toJson (a : Announcement kind) : Json :=
  .object (optionalText "comment" a.comment ++ [("id", .string a.id)] ++
    optionalText "label" a.label ++ [("url", .string a.url)])

instance : Codec (Announcement kind) where
  read := shape.read (kind.label ++ "PreviewInfo")
  write := toJson

/-- The announcement that a payload makes. -/
def ofPayload (payload : Json) : Except Malformed (Announcement kind) :=
  match Record.ofJson payload with
  | .ok (a : Announcement kind) => .ok { a with payload }
  | .error e => .error (.unreadable e)

end Announcement

inductive Preview
  | offer (offer : Offer)
  | proofRequest (request : ProofRequest)
deriving DecidableEq

namespace Preview

def kind : Preview → Kind
  | offer _ => .credential
  | proofRequest _ => .verification

def id : Preview → String
  | offer a => a.id
  | proofRequest a => a.id

def url : Preview → String
  | offer a => a.url
  | proofRequest a => a.url

/-- The payload as it was received. -/
def payload : Preview → Json
  | offer a => a.payload
  | proofRequest a => a.payload

/-- The announcement without its payload. -/
def toJson : Preview → Json
  | offer a => a.toJson
  | proofRequest a => a.toJson

/-- The preview that a payload holds, classified by its compact text. -/
def ofJson (payload : Json) : Except Malformed Preview := do
  match ← classify payload.compact with
  | .credential => return .offer (← Announcement.ofPayload payload)
  | .verification => return .proofRequest (← Announcement.ofPayload payload)

/-- The preview that a text holds, classified as it stands before it is read. -/
def ofText (raw : String) : Except Malformed Preview := do
  let _ ← classify raw
  ofJson (← (Record.ofText raw).mapError .unreadable)

end Preview

end CredentialWallet
