import CredentialWallet.Connection
import CredentialWallet.Malformed
/-!
# Credentials

A credential comes in one of three formats. Its `format` is read before anything else and alone decides
which fields belong to it; then the shared fields are checked one after another and the first that is
absent or wrong is reported. A null counts as absent.
-/

namespace CredentialWallet

open Record

inductive CredentialState
  | outboundOffer
  | inboundOffer
  | accepted
  | rejected
  | issued
  | stored
  | failed
  | deleted
deriving DecidableEq

instance : Word CredentialState where
  setName := "CredentialState"
  all := [.outboundOffer, .inboundOffer, .accepted, .rejected, .issued, .stored, .failed, .deleted]
  text
    | .outboundOffer => "outbound_offer"
    | .inboundOffer => "inbound_offer"
    | .accepted => "accepted"
    | .rejected => "rejected"
    | .issued => "issued"
    | .stored => "stored"
    | .failed => "failed"
    | .deleted => "deleted"
  label
    | .outboundOffer => "OutboundOffer"
    | .inboundOffer => "InboundOffer"
    | .accepted => "Accepted"
    | .rejected => "Rejected"
    | .issued => "Issued"
    | .stored => "Stored"
    | .failed => "Failed"
    | .deleted => "Deleted"

instance : Word.Lawful CredentialState :=
  ⟨fun value => by cases value <;> decide +kernel⟩

inductive CredentialRole
  | issuer
  | holder
deriving DecidableEq

instance : Word CredentialRole where
  setName := "CredentialRole"
  all := [.issuer, .holder]
  text
    | .issuer => "issuer"
    | .holder => "holder"
  label
    | .issuer => "Issuer"
    | .holder => "Holder"

instance : Word.Lawful CredentialRole :=
  ⟨fun value => by cases value <;> decide +kernel⟩

inductive CredentialFormat
  | indy
  | jsonLd
  | mdoc
deriving DecidableEq

instance : Word CredentialFormat where
  setName := "CredentialFormat"
  all := [.indy, .jsonLd, .mdoc]
  text
    | .indy => "indy"
    | .jsonLd => "jsonld"
    | .mdoc => "mso_mdoc"
  label
    | .indy => "Indy"
    | .jsonLd => "JsonLd"
    | .mdoc => "Mdoc"

instance : Word.Lawful CredentialFormat :=
  ⟨fun value => by cases value <;> decide +kernel⟩

namespace Credential

/-- The fields that every credential has. -/
structure Details where
  id : String
  role : CredentialRole
  state : CredentialState
  issuerDid : String
  claims : Json
  connection : Connection
  properties : Entries
deriving DecidableEq

end Credential

inductive Credential
  | indy (details : Credential.Details) (definitionId schemaName schemaVersion : String)
  | jsonLd (details : Credential.Details)
  | mdoc (details : Credential.Details) (docType : Option String)
deriving DecidableEq

namespace Credential

def format : Credential → CredentialFormat
  | indy .. => .indy
  | jsonLd _ => .jsonLd
  | mdoc .. => .mdoc

def details : Credential → Details
  | indy details .. => details
  | jsonLd details => details
  | mdoc details _ => details

def id (c : Credential) : String := c.details.id

def state (c : Credential) : CredentialState := c.details.state

def isStored (c : Credential) : Bool := c.state = .stored

/-! ### Reading -/

/-- The value of a field that must be there. -/
def field (entries : Entries) (name : String) : Except Malformed Json :=
  match entries.get? name with
  | none | some .null => .error (.missingField name)
  | some value => .ok value

/-- The text of a field that must be there. -/
def textField (entries : Entries) (name : String) : Except Malformed String := do
  match ← field entries name with
  | .string s => .ok s
  | value => .error (.invalidField name value.compact)

/-- The word of a field that must be there. -/
def wordField (τ : Type) [Word τ] (entries : Entries) (name : String) : Except Malformed τ := do
  let raw ← textField entries name
  match Word.decode? raw with
  | some value => .ok value
  | none => .error (.invalidField name raw)

/-- The text of a field that may be anything. -/
def textField? (entries : Entries) (name : String) : Option String :=
  (entries.get? name).bind Json.asString?

def Details.ofEntries (entries : Entries) : Except Malformed Details := do
  let id ← textField entries "id"
  let role ← wordField CredentialRole entries "role"
  let state ← wordField CredentialState entries "state"
  let issuerDid ← textField entries "issuer_did"
  let claims ← field entries "cred_json"
  let connection ← (Record.ofJson (← field entries "connection")).mapError .unreadable
  match ← field entries "properties" with
  | .object properties => .ok ⟨id, role, state, issuerDid, claims, connection, properties⟩
  | value => .error (.invalidField "properties" value.compact)

/-- The credential of some entries. -/
def ofEntries (entries : Entries) : Except Malformed Credential := do
  match ← wordField CredentialFormat entries "format" with
  | .indy =>
    let text (name : String) := (textField? entries name).getD ""
    let details ← Details.ofEntries entries
    .ok (.indy details (text "cred_def_id") (text "schema_name") (text "schema_version"))
  | .jsonLd => return .jsonLd (← Details.ofEntries entries)
  | .mdoc => return .mdoc (← Details.ofEntries entries) (textField? entries "doc_type")

def ofJson : Json → Except Malformed Credential
  | .object entries => ofEntries entries
  | value => .error (.invalidField "credential" value.compact)

/-! ### Writing -/

def toJson (c : Credential) : Json :=
  let d := c.details
  let definition : Entries :=
    match c with
    | indy _ definitionId .. => [("cred_def_id", .string definitionId)]
    | _ => []
  let docType : Entries :=
    match c with
    | mdoc _ docType => optionalText "doc_type" docType
    | _ => []
  let schemaEntries : Entries :=
    match c with
    | indy _ _ name version => [("schema_name", .string name), ("schema_version", .string version)]
    | _ => []
  .object ([("connection", d.connection.toJson)] ++ definition ++ [("cred_json", d.claims)] ++
    docType ++ [("format", .string (Word.text c.format)), ("id", .string d.id),
      ("issuer_did", .string d.issuerDid), ("properties", .object d.properties),
      ("role", .string (Word.text d.role))] ++ schemaEntries ++ [("state", .string (Word.text d.state))])

/-- Inside other records a credential is read as a value of any shape first. -/
instance : Codec Credential where
  read a := do (ofJson (← readFree a)).mapError fun m => .refused m.told
  write := toJson

/-! ### Updates -/

/-- What is asked of a credential: a state, and properties to add. -/
structure Update where
  state : CredentialState
  properties : Option Entries
deriving DecidableEq

namespace Update

/-- Asks for a state and nothing else. -/
def toState (state : CredentialState) : Update := ⟨state, none⟩

def shape {α : Type} [Readable α] : Shape α Update :=
  Update.mk <$> .required "state" (readWord CredentialState) <*> .optional "properties" readMembers

def toJson (u : Update) : Json :=
  .object (Entries.optional "properties" (u.properties.map Json.object) ++
    [("state", .string (Word.text u.state))])

/-- The state that is asked for can be read off. -/
theorem toJson_state (u : Update) : u.toJson.get? "state" = some (.string (Word.text u.state)) := by
  cases u with
  | mk state properties => cases properties <;> rfl

instance : Codec Update where
  read := shape.read "CredentialUpdate"
  write := toJson

end Update

end Credential

end CredentialWallet
