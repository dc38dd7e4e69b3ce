import CredentialWallet.Json.Printer
import CredentialWallet.Text.Quoted
import CredentialWallet.Word
/-!
# Descriptions

A description is a text for those who look into a running wallet: all fields of a record under their
names, with whatever must stay secret left out of it.
-/

namespace CredentialWallet

inductive Description
  /-- A name or a number. -/
  | plain (text : String)
  | quoted (text : String)
  /-- A name with one value in parentheses. -/
  | wrapped (name : String) (value : Description)
  /-- A name with fields; `more` tells of some that are left out. -/
  | record (name : String) (fields : List (String × Description)) (more : Bool)
  | list (name : String) (items : List Description)
  | map (name : String) (entries : List (String × Description))

namespace Description

mutual

def text : Description → String
  | plain s => s
  | quoted s => Text.quoted s
  | wrapped name value => name ++ "(" ++ text value ++ ")"
  | record name fields more =>
    name ++ " \x7b " ++ fieldsText fields ++ (if more then ", .. \x7d" else " \x7d")
  | list name items => name ++ "[" ++ itemsText items ++ "]"
  | map name entries => name ++ "\x7b" ++ entriesText entries ++ "\x7d"

def itemsText : List Description → String
  | [] => ""
  | [item] => text item
  | item :: rest => text item ++ ", " ++ itemsText rest

def fieldsText : List (String × Description) → String
  | [] => ""
  | [(name, value)] => name ++ ": " ++ text value
  | (name, value) :: rest => name ++ ": " ++ text value ++ ", " ++ fieldsText rest

def entriesText : List (String × Description) → String
  | [] => ""
  | [(key, value)] => Text.quoted key ++ ": " ++ text value
  | (key, value) :: rest => Text.quoted key ++ ": " ++ text value ++ ", " ++ entriesText rest

end

/-- The word that stands for a secret. -/
def redacted : Description := quoted "<redacted>"

def option : Option Description → Description
  | none => plain "None"
  | some value => wrapped "Some" value

def optionalText (s : Option String) : Description := option (s.map quoted)

/-- That there is a secret, or that there is none. -/
def secret (s : Option String) : Description := option (s.map fun _ => redacted)

def word {α : Type} [Word α] (value : α) : Description := plain (Word.label value)

mutual

def ofJson : Json → Description
  | .null => plain "Null"
  | .bool true => wrapped "Bool" (plain "true")
  | .bool false => wrapped "Bool" (plain "false")
  | .number n => wrapped "Number" (plain (String.ofList n.text))
  | .string s => wrapped "String" (quoted s)
  | .array items => list "Array " (ofItems items)
  | .object entries => map "Object " (ofEntries entries)

def ofItems : List Json → List Description
  | [] => []
  | item :: rest => ofJson item :: ofItems rest

def ofEntries : List (String × Json) → List (String × Description)
  | [] => []
  | (key, value) :: rest => (key, ofJson value) :: ofEntries rest

end

def members (entries : Entries) : Description := map "" (ofEntries entries)

end Description

end CredentialWallet
