/-!
# Sixteen-bit units

A character beyond the first 65536 is written as a pair of units, a leading and a trailing surrogate. A
surrogate without its partner is no character.
-/

namespace CredentialWallet.Text

def isLeading (unit : Nat) : Bool := 0xD800 ≤ unit && unit ≤ 0xDBFF

def isTrailing (unit : Nat) : Bool := 0xDC00 ≤ unit && unit ≤ 0xDFFF

/-- The character of a pair of surrogates. -/
def surrogatePair (leading trailing : Nat) : Char :=
  Char.ofNat (0x10000 + (leading - 0xD800) * 0x400 + (trailing - 0xDC00))

/-- Which byte of a unit comes first. -/
inductive ByteOrder
  | lowFirst
  | highFirst
deriving DecidableEq

/-- The units of bytes, with `none` for a single byte at the end. -/
def unitsOf (order : ByteOrder) : List UInt8 → List (Option Nat)
  | [] => []
  | [_] => [none]
  | a :: b :: rest =>
    let unit :=
      match order with
      | .lowFirst => b.toNat * 256 + a.toNat
      | .highFirst => a.toNat * 256 + b.toNat
    some unit :: unitsOf order rest

/-- The characters of units, with `none` for each stray surrogate or byte. A byte left over behind a
leading surrogate makes one stray stretch with it. -/
def decodeUnits : List (Option Nat) → List (Option Char)
  | [] => []
  | none :: rest => none :: decodeUnits rest
  | [some unit] => [if isLeading unit || isTrailing unit then none else some (Char.ofNat unit)]
  | some unit :: next :: rest =>
    if isLeading unit then
      match next with
      | none => none :: decodeUnits rest
      | some unit' =>
        if isTrailing unit' then some (surrogatePair unit unit') :: decodeUnits rest
        else none :: decodeUnits (next :: rest)
    else if isTrailing unit then none :: decodeUnits (next :: rest)
    else some (Char.ofNat unit) :: decodeUnits (next :: rest)

end CredentialWallet.Text
