import CredentialWallet.Json.Fault
import CredentialWallet.Json.Value
import CredentialWallet.Text.Hexadecimal
import CredentialWallet.Text.Utf16
/-!
# Strings and numbers in a JSON text

A text is a list of glyphs: characters, and in a text that came as bytes also the bytes that belong to
no character. A scanner takes one string or number off the front.

What is read and what is only passed over are held to different rules: an escape for half a surrogate
pair, a byte that is no character or a number beyond the doubles spoils a value that is read, while
one that is passed over may hold them. So a scan has three outcomes, and one that stops says why in
either case.
-/

namespace CredentialWallet.Json

open Text (hexValue? isLeading isTrailing surrogatePair)

/-- A character, or nothing for a byte that belongs to no character. -/
abbrev Glyph := Option Char

/-- What a scanner found. -/
inductive Scan (α : Type)
  | found (value : α) (rest : List Glyph)
  | spoilt (fault : Fault) (rest : List Glyph)
  | stopped (read skip : Fault)

/-- The text with its leading blanks dropped. -/
def skipBlanks : List Glyph → List Glyph
  | [] => []
  | g :: rest =>
    if g = some ' ' ∨ g = some '\n' ∨ g = some '\t' ∨ g = some '\r' then skipBlanks rest
    else g :: rest

/-! ### Strings -/

/-- Whether a text has at least so many bytes. -/
def hasBytes : Nat → List Glyph → Bool
  | 0, _ => true
  | _ + 1, [] => false
  | n + 1, g :: rest => hasBytes (n + 1 - (g.elim 1 Char.utf8Size)) rest

/-- Where a string scanner stands: between characters, behind half a surrogate pair, behind a
backslash, or within the four digits of an escape. -/
inductive StringState
  | plain
  | paired (high : Nat)
  | escape (high : Option Nat)
  | hex (digits value : Nat) (high : Option Nat)

/-- What a string scanner has collected: the characters in reverse, the first fault of a reading, and
whether a stray byte was met. -/
structure StringScan where
  chars : List Char
  fault : Option Fault
  stray : Bool

namespace StringScan

def empty : StringScan := ⟨[], none, false⟩

def push (s : StringScan) (c : Char) : StringScan := { s with chars := c :: s.chars }

/-- Notes a fault of a reading, unless one was met before. -/
def spoil (s : StringScan) (fault : Fault) : StringScan := { s with fault := s.fault.or (some fault) }

def stop (s : StringScan) (fault : Fault) : Scan String := .stopped (s.fault.getD fault) fault

def close (s : StringScan) (rest : List Glyph) : Scan String :=
  match s.fault with
  | some fault => .spoilt fault rest
  | none =>
    if s.stray then .spoilt .invalidCodePoint rest
    else .found (String.ofList s.chars.reverse) rest

/-- The state and the collection after the four digits of an escape. -/
def codeUnit (s : StringScan) (unit : Nat) : Option Nat → StringState × StringScan
  | none =>
    if isTrailing unit then (.plain, s.spoil .loneSurrogate)
    else if isLeading unit then (.paired unit, s)
    else (.plain, s.push (Char.ofNat unit))
  | some high =>
    if isTrailing unit then (.plain, s.push (surrogatePair high unit))
    else (.plain, s.spoil .loneSurrogate)

end StringScan

/-- The character a one-letter escape stands for. -/
def escaped? : Glyph → Option Char
  | some '"' => some '"'
  | some '\\' => some '\\'
  | some '/' => some '/'
  | some 'b' => some '\x08'
  | some 'f' => some '\x0c'
  | some 'n' => some '\n'
  | some 'r' => some '\r'
  | some 't' => some '\t'
  | _ => none

/-- What one glyph does to a string scanner: it ends the scan or moves it on. -/
inductive StringStep
  | done (result : Scan String)
  | more (state : StringState) (scan : StringScan)

namespace StringScan

/-- One glyph between characters. -/
def plainStep (s : StringScan) (g : Glyph) (rest : List Glyph) : StringStep :=
  match g with
  | none => .more .plain { s with stray := true }
  | some c =>
    if c = '"' then .done (s.close rest)
    else if c = '\\' then .more (.escape none) s
    else if c.toNat < 32 then .done (s.stop .controlCharacter)
    else .more .plain (s.push c)

/-- One glyph behind a backslash, which may itself stand behind half a surrogate pair. -/
def escapeStep (s : StringScan) (high : Option Nat) (g : Glyph) : StringStep :=
  if g = some 'u' then .more (.hex 0 0 high) s
  else
    let s := if high.isSome then s.spoil .brokenSurrogatePair else s
    match escaped? g with
    | some c => .more .plain (s.push c)
    | none => .done (s.stop .invalidEscape)

/-- One glyph within the digits of an escape. -/
def hexStep (s : StringScan) (digits value : Nat) (high : Option Nat) (g : Glyph)
    (rest : List Glyph) : StringStep :=
  match g.bind hexValue? with
  | none =>
    .done (s.stop (if hasBytes (4 - digits) (g :: rest) then .invalidEscape else .endOfString))
  | some d =>
    if digits = 3 then
      let next := s.codeUnit (value * 16 + d) high
      .more next.1 next.2
    else .more (.hex (digits + 1) (value * 16 + d) high) s

/-- One glyph, in any state. -/
def step (s : StringScan) (g : Glyph) (rest : List Glyph) : StringState → StringStep
  | .plain => s.plainStep g rest
  | .paired high =>
    if g = some '\\' then .more (.escape (some high)) s
    else (s.spoil .brokenSurrogatePair).plainStep g rest
  | .escape high => s.escapeStep high g
  | .hex digits value high => s.hexStep digits value high g rest

end StringScan

/-- Runs a string scanner over a text. -/
def scanStringFrom (state : StringState) (s : StringScan) : List Glyph → Scan String
  | [] => s.stop .endOfString
  | g :: rest =>
    match s.step g rest state with
    | .done result => result
    | .more state s => scanStringFrom state s rest

/-- Takes a string off a text that stands behind its opening quote. -/
def scanString (text : List Glyph) : Scan String := scanStringFrom .plain .empty text

/-! ### Numbers -/

/-- The digits at the front of a text, and the rest. -/
def spanDigits : List Glyph → List Nat × List Glyph
  | some c :: rest =>
    if '0' ≤ c ∧ c ≤ '9' then
      let r := spanDigits rest
      ((c.toNat - 48) :: r.1, r.2)
    else ([], some c :: rest)
  | rest => ([], rest)

/-- The greatest unsigned integer. -/
def greatestUnsigned : Nat := 18446744073709551615

/-- The magnitude of the least signed integer. -/
def leastSigned : Nat := 9223372036854775808

/-- The greatest exponent that is still added up. -/
def greatestExponent : Nat := 2147483647

/-- Appends digits to a significand as long as it stays an unsigned integer; the digits from the first
that does not fit are left over. -/
def appendDigits (limit : Nat) : Nat → List Nat → Nat × List Nat
  | n, [] => (n, [])
  | n, d :: rest => if limit < n * 10 + d then (n, d :: rest) else appendDigits limit (n * 10 + d) rest

/-- A number as it is written: its sign, the digits before and behind the point, and the exponent with
its sign. -/
structure Numeral where
  negative : Bool
  whole : List Nat
  fraction : Option (List Nat)
  exponent : Option (Bool × List Nat)

namespace Numeral

/-- The significand that is kept, and the exponent of its last digit before the written exponent is
added. Whole digits that do not fit count as powers of ten, fraction digits that do not fit count for
nothing. -/
def significand (n : Numeral) : Nat × Int :=
  let whole := appendDigits greatestUnsigned 0 n.whole
  let digits := n.fraction.getD []
  let fraction := appendDigits greatestUnsigned whole.1 digits
  (fraction.1, (whole.2.length : Int) - ((digits.length - fraction.2.length : Nat) : Int))

/-- The double of a numeral, or nothing when it is beyond the finite ones. -/
def double? (n : Numeral) : Option Decimal.Binary64 :=
  let (digits, power) := n.significand
  let magnitude? : Option Decimal.Binary64 :=
    match n.exponent with
    | none => Decimal.Binary64.ofDecimal? digits power
    | some (down, exponent) =>
      match appendDigits greatestExponent 0 exponent with
      | (e, []) => Decimal.Binary64.ofDecimal? digits (if down then power - e else power + e)
      | (_, _ :: _) => if digits = 0 ∨ down then some .zero else none
  magnitude?.map fun x => if n.negative then x.neg else x

/-- The number of a numeral: an integer if it has neither point nor exponent and its value is one of
the signed or unsigned integers, but a double for a negative zero. -/
def number? (n : Numeral) : Option Number :=
  match n.fraction, n.exponent, appendDigits greatestUnsigned 0 n.whole with
  | none, none, (digits, []) =>
    if !n.negative then some (.int digits)
    else if digits = 0 ∨ leastSigned < digits then n.double?.map .float
    else some (.int (-digits))
  | _, _, _ => n.double?.map .float

end Numeral

/-- The outcome where a digit was due. -/
def missingDigit : List Glyph → Scan Number
  | [] => .stopped .endOfValue .invalidNumber
  | _ => .stopped .invalidNumber .invalidNumber

def finishNumber (n : Numeral) (rest : List Glyph) : Scan Number :=
  match n.number? with
  | some value => .found value rest
  | none => .spoilt .numberOutOfRange rest

/-- The sign of an exponent, whether it points down, and the rest. -/
def exponentSign : List Glyph → Bool × List Glyph
  | some '+' :: rest => (false, rest)
  | some '-' :: rest => (true, rest)
  | rest => (false, rest)

def scanExponent (n : Numeral) : List Glyph → Scan Number
  | some 'e' :: rest | some 'E' :: rest =>
    let sign := exponentSign rest
    let digits := spanDigits sign.2
    if digits.1 = [] then missingDigit digits.2
    else finishNumber { n with exponent := some (sign.1, digits.1) } digits.2
  | rest => finishNumber n rest

def scanFraction (n : Numeral) : List Glyph → Scan Number
  | some '.' :: rest =>
    let digits := spanDigits rest
    if digits.1 = [] then missingDigit digits.2
    else scanExponent { n with fraction := some digits.1 } digits.2
  | rest => scanExponent n rest

/-- Takes a number off a text that stands behind its sign. -/
def scanNumber (negative : Bool) (text : List Glyph) : Scan Number :=
  let digits := spanDigits text
  match digits.1 with
  | [] => missingDigit digits.2
  | 0 :: _ :: _ => .stopped .invalidNumber .invalidNumber
  | whole => scanFraction ⟨negative, whole, none, none⟩ digits.2

end CredentialWallet.Json
