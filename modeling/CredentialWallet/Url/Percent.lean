import CredentialWallet.Text.Hexadecimal
/-!
# Percent-encoding

A byte that may not stand in a text is written as a percent sign and two hexadecimal digits. Characters
beyond ASCII are always written that way, byte by byte.
-/

namespace CredentialWallet.Url

open Text (hexValue? upperHexDigit)

/-- A byte as an escape. -/
def escapeByte (b : UInt8) : List Char :=
  ['%', upperHexDigit (b.toNat / 16), upperHexDigit (b.toNat % 16)]

/-- A character as it is written where some characters must be escaped. -/
def encodeChar (escaped : Char → Bool) (c : Char) : List Char :=
  if c.toNat < 128 && !escaped c then [c] else (String.utf8EncodeChar c).flatMap escapeByte

/-- A text as it is written where some characters must be escaped. -/
def encode (escaped : Char → Bool) (cs : List Char) : List Char := cs.flatMap (encodeChar escaped)

@[simp] theorem encode_append (escaped : Char → Bool) (a b : List Char) :
    encode escaped (a ++ b) = encode escaped a ++ encode escaped b :=
  List.flatMap_append

/-- The bytes of a text with its escapes resolved; a percent sign that begins none stands for itself. -/
def decodeBytes : List Char → List UInt8
  | [] => []
  | '%' :: a :: b :: rest =>
    match hexValue? a, hexValue? b with
    | some x, some y => UInt8.ofNat (16 * x + y) :: decodeBytes rest
    | _, _ => 37 :: decodeBytes (a :: b :: rest)
  | c :: rest => String.utf8EncodeChar c ++ decodeBytes rest

/-- A character that begins no escape is read as itself. -/
theorem decodeBytes_cons {c : Char} (hc : c ≠ '%') (rest : List Char) :
    decodeBytes (c :: rest) = String.utf8EncodeChar c ++ decodeBytes rest := by
  rw [decodeBytes]
  rintro _ _ _ rfl
  contradiction

/-- An escape is resolved to the byte it was made of. -/
theorem decodeBytes_escapeByte_append (b : UInt8) (rest : List Char) :
    decodeBytes (escapeByte b ++ rest) = b :: decodeBytes rest := by
  have byte : UInt8.ofNat (16 * (b.toNat / 16 % 16) + b.toNat % 16 % 16) = b := by
    have small := b.toNat_lt
    have : 16 * (b.toNat / 16 % 16) + b.toNat % 16 % 16 = b.toNat := by omega
    rw [this, UInt8.ofNat_toNat]
  simp only [escapeByte, List.cons_append, List.nil_append, decodeBytes,
    Text.hexValue?_upperHexDigit, byte]

/-! ### What must be escaped -/

def isControl (c : Char) : Bool := c.toNat < 32 || c.toNat = 127

def escapedInFragment (c : Char) : Bool := isControl c || " \"<>\x60".toList.contains c

def escapedInPath (c : Char) : Bool := escapedInFragment c || "#?\x7b\x7d".toList.contains c

def escapedInUserInfo (c : Char) : Bool := escapedInPath c || "/:;=@[\\]^|".toList.contains c

/-- In a segment put into a path, the percent sign and whatever separates segments are escaped too. -/
def escapedInSegment (special : Bool) (c : Char) : Bool :=
  escapedInPath c || c = '/' || c = '%' || (special && c = '\\')

def escapedInQuery (special : Bool) (c : Char) : Bool :=
  isControl c || " \"#<>".toList.contains c || (special && c = '\x27')

end CredentialWallet.Url
