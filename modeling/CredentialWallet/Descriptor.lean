import CredentialWallet.Record.Codec
import CredentialWallet.Text.Blank
import CredentialWallet.Token
/-!
# Descriptors

A descriptor says where an agency is and as which client to sign in there. None of its three required
values may be blank.
-/

namespace CredentialWallet

open Record

structure Descriptor where
  serviceBaseUrl : String
  tokenUrl : String
  clientId : String
  clientSecret : Option String
  name : Option String
deriving DecidableEq

namespace Descriptor

inductive Error
  | unreadable (error : Record.Error)
  | blank (field : String)
deriving DecidableEq

def Error.messageWith (wording : Fault → String) : Error → String
  | unreadable error => error.messageInText wording
  | blank field => s!"{field} must not be empty"

def shape {α : Type} [Readable α] : Shape α Descriptor :=
  Descriptor.mk <$> .required "serviceBaseUrl" readText <*> .required "tokenUrl" readText
    <*> .required "clientId" readText <*> .optional "clientSecret" readText
    <*> .optional "name" readText

def toJson (d : Descriptor) : Json :=
  .object ([("clientId", .string d.clientId)] ++ optionalText "clientSecret" d.clientSecret ++
    optionalText "name" d.name ++
    [("serviceBaseUrl", .string d.serviceBaseUrl), ("tokenUrl", .string d.tokenUrl)])

instance : Codec Descriptor where
  read := shape.read "InitDescriptor"
  write := toJson

/-- The required values under their names. -/
def requiredValues (d : Descriptor) : List (String × String) :=
  [("serviceBaseUrl", d.serviceBaseUrl), ("tokenUrl", d.tokenUrl), ("clientId", d.clientId)]

/-- The descriptor of a text, unless one of its required values is blank. -/
def ofText (raw : String) : Except Error Descriptor := do
  let d : Descriptor ← (Record.ofText raw).mapError .unreadable
  match d.requiredValues.find? fun entry => Text.allBlank entry.2 with
  | some (name, _) => .error (.blank name)
  | none => .ok d

/-- The address of the service without the slashes it ends in. -/
def baseUrl (d : Descriptor) : String := Text.dropTrailingSlashes d.serviceBaseUrl

/-- The client to sign in as. -/
def client (d : Descriptor) : Client := ⟨d.tokenUrl, d.clientId, d.clientSecret⟩

end Descriptor

end CredentialWallet
