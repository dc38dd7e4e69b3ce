import CredentialWallet.Json.Fault
import CredentialWallet.Json.Printer
import CredentialWallet.Text.Place
import CredentialWallet.Text.Quoted
/-!
# Why a record cannot be read

The causes, each with one wording. A text that is no JSON is a fault; everything else is said of JSON
that does not have the shape of the record.

Some errors quote what was read, and what was read may end like a message that names a place.
-/

namespace CredentialWallet.Record

open Text (Place)

/-- What stands where something else was expected. -/
inductive Found
  | null
  | bool (value : Bool)
  | number (value : Number)
  | string (value : String)
  | sequence
  | map
deriving DecidableEq

def Found.message : Found → String
  | null => "null"
  | bool value => s!"boolean `{value}`"
  | number (.int value) => "integer `" ++ String.ofList (Json.integerText value) ++ "`"
  | number (.float value) => "floating point `" ++ String.ofList value.text ++ "`"
  | string value => "string " ++ Text.quoted value
  | sequence => "sequence"
  | map => "map"

inductive Error
  | fault (fault : Fault)
  | wrongType (found : Found) (expected : String)
  | negative (value : Int) (expected : String)
  | wrongLength (length : Nat) (expected : String)
  | missing (field : String)
  | duplicate (field : String)
  | unknownWord (set raw : String)
  | refused (reason : String)
deriving DecidableEq

namespace Error

/-- The words of an error as they stand, with a wording for faults. -/
def words (wording : Fault → String) : Error → String
  | fault f => wording f
  | wrongType found expected => s!"invalid type: {found.message}, expected {expected}"
  | negative value expected =>
    "invalid value: integer `" ++ String.ofList (Json.integerText value) ++ s!"`, expected {expected}"
  | wrongLength length expected => s!"invalid length {length}, expected {expected}"
  | missing field => s!"missing field `{field}`"
  | duplicate field => s!"duplicate field `{field}`"
  | unknownWord set raw => s!"unknown {set} value: {raw}"
  | refused reason => reason

/-- What an error says by itself, with a wording for faults. Words that end in a place are taken to say
where the error is; a first line has the number 1, so a place in line 0 is none. -/
def told (wording : Fault → String) (e : Error) : String :=
  match Place.split? (e.words wording) with
  | some (message, place) => if place.line = 0 then message else message ++ place.text
  | none => e.words wording

/-- The message of an error in a value, with a wording for faults. It names no place. -/
def messageWith (wording : Fault → String) (e : Error) : String := Place.drop (e.told wording)

/-- The message of an error in a text, with a wording for faults. A text has a place for each of its
errors, so only a place that cannot be one remains in the words. -/
def messageInText (wording : Fault → String) (e : Error) : String :=
  match Place.split? (e.words wording) with
  | some (message, _) => message
  | none => e.words wording

end Error

end CredentialWallet.Record
