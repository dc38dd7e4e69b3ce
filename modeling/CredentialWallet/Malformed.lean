import CredentialWallet.Record.Error
import CredentialWallet.Word
/-!
# Payloads that are not what they should be

A payload that is read by rules of its own, rather than field by field, is refused for one of these
causes.
-/

namespace CredentialWallet

inductive Malformed
  | missingField (field : String)
  | invalidField (field value : String)
  | unknownFormat (beginning : String)
  | unreadable (error : Record.Error)
deriving DecidableEq

namespace Malformed

/-- The text of an error, with a wording for faults. -/
def messageWith (wording : Fault → String) : Malformed → String
  | missingField field => s!"Missing required field: {field}"
  | invalidField field value => s!"Invalid value for field {field}: {value}"
  | unknownFormat beginning => s!"Unknown preview format: {beginning}"
  | unreadable error => error.messageWith wording

def message (m : Malformed) : String := m.messageWith Fault.message

/-- What is said by itself, with the place that a record's error may name. -/
def told : Malformed → String
  | unreadable error => error.told Fault.message
  | m => m.message

end Malformed

/-- The value of a word, which is refused in the name of its set. -/
def Word.parse {α : Type} [Word α] (raw : String) : Except Malformed α :=
  match Word.decode? raw with
  | some value => .ok value
  | none => .error (.invalidField (Word.setName α) raw)

end CredentialWallet
