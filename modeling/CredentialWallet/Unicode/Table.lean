import CredentialWallet.Text.Hexadecimal
import CredentialWallet.Text.Split
/-!
# Tables of code points

A table says something of some ranges of code points, in ascending order. It is written as words with
blanks between them. A word is a code point in hexadecimal digits or the first and the last of a range
with a dash between, and what is said of it stands behind a colon.
-/

namespace CredentialWallet.Unicode

open Text (splitAt)

/-- A range of code points and what is said of it. -/
structure Row (α : Type) where
  first : Nat
  last : Nat
  value : α

abbrev Table (α : Type) := Array (Row α)

/-- The number of hexadecimal digits. -/
def hexNumber (cs : List Char) : Nat := cs.foldl (fun n c => 16 * n + (Text.hexValue? c).getD 0) 0

/-- The characters of code points with plus signs between them. -/
def characters (cs : List Char) : List Char :=
  (splitAt (· = '+') cs).map fun code => Char.ofNat (hexNumber code)

namespace Row

variable {α : Type}

/-- The row of a range and a value. -/
def ofRange (range : List Char) (value : α) : Row α :=
  match splitAt (· = '-') range with
  | [first, last] => ⟨hexNumber first, hexNumber last, value⟩
  | _ => ⟨hexNumber range, hexNumber range, value⟩

/-- The row that a word writes. -/
def ofWord (read : List Char → α) (word : List Char) : Row α :=
  ofRange (word.takeWhile (· ≠ ':')) (read ((word.dropWhile (· ≠ ':')).drop 1))

end Row

namespace Table

variable {α : Type}

/-- The table that some lines write. -/
def ofLines (read : List Char → α) (lines : List String) : Table α :=
  ((lines.flatMap fun line => splitAt (· = ' ') line.toList).map (Row.ofWord read)).toArray

/-- The row of a code point among those from place `low` on and before `high`. -/
def search (t : Table α) (n low high : Nat) : Option (Row α) :=
  if low < high then
    let middle := (low + high) / 2
    match t[middle]? with
    | none => none
    | some row =>
      if n < row.first then search t n low middle
      else if row.last < n then search t n (middle + 1) high
      else some row
  else none
termination_by high - low

/-- The row of a character. -/
def find? (t : Table α) (c : Char) : Option (Row α) := t.search c.toNat 0 t.size

end Table

/-- The characters of some ranges. -/
abbrev CharSet := Table Unit

namespace CharSet

/-- The set that some lines write. -/
def ofLines (lines : List String) : CharSet := Table.ofLines (fun _ => ()) lines

def contains (s : CharSet) (c : Char) : Bool := (s.find? c).isSome

end CharSet

end CredentialWallet.Unicode
