import CredentialWallet.Text.Utf16
import CredentialWallet.Text.Utf8
/-!
# Texts that say how they are written

A byte order mark in front of some bytes tells whether they are 16-bit units, and in which order. Bytes
without a mark are UTF-8.
-/

namespace CredentialWallet.Text

/-- The characters of bytes behind their mark, with `none` for each stray stretch. -/
def decodeMarked : List UInt8 → List (Option Char)
  | 0xEF :: 0xBB :: 0xBF :: rest => decodeUtf8 rest
  | 0xFF :: 0xFE :: rest => decodeUnits (unitsOf .lowFirst rest)
  | 0xFE :: 0xFF :: rest => decodeUnits (unitsOf .highFirst rest)
  | bytes => decodeUtf8 bytes

/-- The bytes as a text in which each stray stretch is the replacement character. This is how the text
of an answer is read where no charset is announced: as UTF-8, unless the bytes begin with a mark. -/
def lossyText (bytes : List UInt8) : String :=
  String.ofList ((decodeMarked bytes).map fun c => c.getD '\uFFFD')

end CredentialWallet.Text
