import CredentialWallet.Text.Case
/-!
# Words of a closed set

States, roles and formats are written as one of a few lowercase words. A word is read in any letter
case and written back in lower case.
-/

namespace CredentialWallet

/-- A type whose values are the words of a closed set. -/
class Word (α : Type) where
  /-- The name of the set. -/
  setName : String
  /-- All values, in the order of their declaration. -/
  all : List α
  /-- The word of a value. -/
  text : α → String
  /-- The name of a value. -/
  label : α → String

namespace Word

variable {α : Type} [Word α]

/-- The value of a word, in any case of its ASCII letters. -/
def decode? (raw : String) : Option α :=
  (all (α := α)).find? fun value => Text.sameIgnoringCase (text value) raw

/-- A set of words in which every value is read from its own word. -/
class Lawful (α : Type) [Word α] : Prop where
  decode?_text (value : α) : decode? (text value) = some value

end Word

end CredentialWallet
