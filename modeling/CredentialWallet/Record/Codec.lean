import CredentialWallet.Record.Shape
import CredentialWallet.Text.Utf8
/-!
# Records that are read and written

A `Codec` reads a record from whatever can be read and writes it as a JSON value. The same reading
serves values, texts and the bytes of an answer.
-/

namespace CredentialWallet.Record

class Codec (τ : Type) where
  read : {α : Type} → [Readable α] → α → Except Error τ
  write : τ → Json

variable {τ : Type} [Codec τ]

/-- The record of a value. -/
def ofJson (value : Json) : Except Error τ := Codec.read value

/-- The record of a text. -/
def ofText (text : String) : Except Error τ := readFromText Codec.read text

/-- The record of the bytes of an answer. -/
def ofBytes (bytes : List UInt8) : Except Error τ :=
  readDocument Codec.read (Json.Document.ofGlyphs (Text.decodeUtf8 bytes))

instance : Codec Json where
  read := readFree
  write value := value

/-- An entry for an optional string. -/
def optionalText (key : String) (value : Option String) : Entries :=
  Entries.optional key (value.map Json.string)

end CredentialWallet.Record
