import CredentialWallet.Text.Utf8
import CredentialWallet.Url.Domain
/-!
# Hosts

A host is a name, an address of four numbers or, in brackets, an address of eight. All are kept in the
one form they are written in: names in lower case and ASCII, numbers in decimal, the longest run of
zeros left out.
-/

namespace CredentialWallet

inductive Url.Error
  | emptyHost
  | invalidDomain
  | invalidDomainCharacter
  | invalidPort
  | invalidFourNumbers
  | invalidEightNumbers
  | relative
deriving DecidableEq

def Url.Error.message : Url.Error → String
  | emptyHost => "empty host"
  | invalidDomain => "invalid international domain name"
  | invalidDomainCharacter => "invalid domain character"
  | invalidPort => "invalid port number"
  | invalidFourNumbers => "invalid IPv4 address"
  | invalidEightNumbers => "invalid IPv6 address"
  | relative => "relative URL without a base"

namespace Url.Host

open Text (hexValue? splitAt)

/-! ### Four numbers -/

/-- The value of digits in a base. -/
def ofDigits (base : Nat) (cs : List Char) : Option Nat :=
  cs.foldlM (fun n c =>
    match hexValue? c with
    | some d => if d < base then some (base * n + d) else none
    | none => none) 0

/-- A number in decimal, or in octal behind a zero, or in hexadecimal behind `0x`. -/
def number? : List Char → Option Nat
  | [] => none
  | '0' :: 'x' :: rest => ofDigits 16 rest
  | '0' :: 'X' :: rest => ofDigits 16 rest
  | '0' :: c :: rest => ofDigits 8 (c :: rest)
  | cs => ofDigits 10 cs

/-- The labels of a name, without the empty one that a final dot leaves. -/
def labels (cs : List Char) : List (List Char) :=
  let parts := splitAt (· = '.') cs
  if parts.length > 1 ∧ parts.getLast? = some [] then parts.dropLast else parts

/-- Whether a name must be an address since its last label is a number. -/
def endsInNumber (cs : List Char) : Bool :=
  match (labels cs).getLast? with
  | some last => (!last.isEmpty && last.all Char.isDigit) || (number? last).isSome
  | none => false

/-- The four numbers of an address; the last one given fills what is left of them. -/
def fourNumbers? (cs : List Char) : Option Nat := do
  let numbers ← (labels cs).mapM number?
  let last ← numbers.getLast?
  let front := numbers.dropLast
  let room := Nat.pow 256 (4 - front.length)
  if numbers.length ≤ 4 ∧ last < room ∧ front.all (· < 256) then
    some (front.foldl (fun n x => 256 * n + x) 0 * room + last)
  else none

def fourNumbersText (n : Nat) : List Char :=
  Nat.toDigits 10 (n / Nat.pow 256 3 % 256) ++ '.' :: Nat.toDigits 10 (n / Nat.pow 256 2 % 256) ++
    '.' :: Nat.toDigits 10 (n / 256 % 256) ++ '.' :: Nat.toDigits 10 (n % 256)

/-! ### Eight numbers -/

/-- One of the eight numbers. -/
def piece? (cs : List Char) : Option Nat :=
  if 1 ≤ cs.length ∧ cs.length ≤ 4 then ofDigits 16 cs else none

/-- Two of the eight numbers, written as four. -/
def tailPieces? (cs : List Char) : Option (List Nat) := do
  let parts := splitAt (· = '.') cs
  let numbers ← parts.mapM fun part =>
    if part.length ≤ 3 ∧ !part.isEmpty ∧ (part.length = 1 ∨ part.head? ≠ some '0') then
      ofDigits 10 part
    else none
  match numbers with
  | [a, b, c, d] =>
    if a < 256 ∧ b < 256 ∧ c < 256 ∧ d < 256 then some [256 * a + b, 256 * c + d] else none
  | _ => none

/-- Numbers between colons; `final` tells whether the last may be written as four. -/
def pieces? (final : Bool) (cs : List Char) : Option (List Nat) :=
  if cs.isEmpty then some []
  else do
    let parts := splitAt (· = ':') cs
    let front ← parts.dropLast.mapM piece?
    let last ← parts.getLast?
    if final && last.contains '.' then return front ++ (← tailPieces? last)
    else return front ++ [← piece? last]

/-- The text before and behind the first two colons in a row. -/
def splitAtGap : List Char → Option (List Char × List Char)
  | ':' :: ':' :: rest => some ([], rest)
  | c :: rest => (splitAtGap rest).map fun parts => (c :: parts.1, parts.2)
  | [] => none

def eightNumbers? (cs : List Char) : Option (List Nat) :=
  match splitAtGap cs with
  | none => do
    let pieces ← pieces? true cs
    if pieces.length = 8 then some pieces else none
  | some (front, back) => do
    let front ← pieces? false front
    let back ← pieces? true back
    let count := front.length + back.length
    if count ≤ 7 then some (front ++ List.replicate (8 - count) 0 ++ back) else none

/-- The length of the run of zeros at the front. -/
def zeros (pieces : List Nat) : Nat := (pieces.takeWhile (· = 0)).length

/-- The place and length of the first longest run of zeros. -/
def longestGap (index : Nat) : List Nat → Nat × Nat
  | [] => (index, 0)
  | n :: rest =>
    let later := longestGap (index + 1) rest
    let here := zeros (n :: rest)
    if later.2 ≤ here then (index, here) else later

def piecesText (pieces : List Nat) : List Char :=
  [':'].intercalate (pieces.map (Nat.toDigits 16))

def eightNumbersText (pieces : List Nat) : List Char :=
  let gap := longestGap 0 pieces
  if gap.2 < 2 then '[' :: piecesText pieces ++ [']']
  else
    '[' :: piecesText (pieces.take gap.1) ++ ':' :: ':' ::
      piecesText (pieces.drop (gap.1 + gap.2)) ++ [']']

def bracketed (cs : List Char) : Except Error (List Char) :=
  match cs.getLast?, eightNumbers? cs.dropLast with
  | some ']', some pieces => .ok (eightNumbersText pieces)
  | _, _ => .error .invalidEightNumbers

/-! ### Names -/

def domain (cs : List Char) : Except Error (List Char) :=
  match (Text.decodeUtf8 (decodeBytes cs)).mapM id with
  | none => .error .invalidDomain
  | some cs =>
    match Domain.toAscii? cs with
    | none => .error .invalidDomain
    | some ascii =>
      if ascii.isEmpty then .error .emptyHost
      else if endsInNumber ascii then
        match fourNumbers? ascii with
        | some n => .ok (fourNumbersText n)
        | none => .error .invalidFourNumbers
      else .ok ascii

/-- The host of a URL whose scheme is known. -/
def parse (cs : List Char) : Except Error (List Char) :=
  match cs with
  | [] => .error .emptyHost
  | '[' :: rest => bracketed rest
  | cs => domain cs

/-- Characters that no host of an unknown scheme may hold. -/
def isForbiddenAnywhere (c : Char) : Bool :=
  [0, 9, 10, 13].contains c.toNat || " #/:<>?@[\\]^|".toList.contains c

/-- The host of a URL whose scheme is not known. -/
def parseUnknown (cs : List Char) : Except Error (List Char) :=
  match cs with
  | '[' :: rest => bracketed rest
  | cs =>
    if cs.any isForbiddenAnywhere then .error .invalidDomainCharacter
    else .ok (encode isControl cs)

end Url.Host

end CredentialWallet
