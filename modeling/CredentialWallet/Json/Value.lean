import CredentialWallet.Decimal.Shortest
/-!
# JSON values

A number is an integer or a double, never both: the text decides which, and the two do not compare
equal. The entries of an object stand in key order with no key twice once they have been put there by
`Entries.insert`, which is how every reader and writer of this library builds them.
-/

namespace CredentialWallet

open Decimal (Binary64)

inductive Number
  | int (value : Int)
  | float (value : Binary64)
deriving DecidableEq, Inhabited

inductive Json
  | null
  | bool (value : Bool)
  | number (value : Number)
  | string (value : String)
  | array (items : List Json)
  | object (entries : List (String × Json))
deriving Inhabited

/-- The members of an object. -/
abbrev Entries := List (String × Json)

namespace Json

mutual

/-- Equality of values is decidable, entry by entry. -/
def decEq : (a b : Json) → Decidable (a = b)
  | .null, .null => isTrue rfl
  | .bool a, .bool b => decidable_of_iff (a = b) (by simp)
  | .number a, .number b => decidable_of_iff (a = b) (by simp)
  | .string a, .string b => decidable_of_iff (a = b) (by simp)
  | .array a, .array b =>
    have := decEqItems a b
    decidable_of_iff (a = b) (by simp)
  | .object a, .object b =>
    have := decEqEntries a b
    decidable_of_iff (a = b) (by simp)
  | .null, .bool _ | .null, .number _ | .null, .string _ | .null, .array _ | .null, .object _
  | .bool _, .null | .bool _, .number _ | .bool _, .string _ | .bool _, .array _ | .bool _, .object _
  | .number _, .null | .number _, .bool _ | .number _, .string _ | .number _, .array _
  | .number _, .object _
  | .string _, .null | .string _, .bool _ | .string _, .number _ | .string _, .array _
  | .string _, .object _
  | .array _, .null | .array _, .bool _ | .array _, .number _ | .array _, .string _
  | .array _, .object _
  | .object _, .null | .object _, .bool _ | .object _, .number _ | .object _, .string _
  | .object _, .array _ => isFalse (by simp)

/-- Equality of lists of values is decidable. -/
def decEqItems : (a b : List Json) → Decidable (a = b)
  | [], [] => isTrue rfl
  | [], _ :: _ => isFalse (by simp)
  | _ :: _, [] => isFalse (by simp)
  | x :: xs, y :: ys =>
    have := decEq x y
    have := decEqItems xs ys
    decidable_of_iff (x = y ∧ xs = ys) (by simp)

/-- Equality of lists of entries is decidable. -/
def decEqEntries : (a b : List (String × Json)) → Decidable (a = b)
  | [], [] => isTrue rfl
  | [], _ :: _ => isFalse (by simp)
  | _ :: _, [] => isFalse (by simp)
  | (k, x) :: xs, (l, y) :: ys =>
    have := decEq x y
    have := decEqEntries xs ys
    decidable_of_iff (k = l ∧ x = y ∧ xs = ys) (by simp [and_assoc])

end

instance : DecidableEq Json := decEq

end Json

namespace Entries

/-- The value under a key. -/
def get? (entries : Entries) (key : String) : Option Json := entries.lookup key

/-- Puts a value under a key, in key order, in place of what stood there. -/
def insert (key : String) (value : Json) : Entries → Entries
  | [] => [(key, value)]
  | (k, v) :: rest =>
    if key < k then (key, value) :: (k, v) :: rest
    else if key = k then (key, value) :: rest
    else (k, v) :: insert key value rest

/-- The object of some entries, where a later entry replaces an earlier one of its key. -/
def ofList (entries : List (String × Json)) : Entries :=
  entries.foldl (fun object entry => insert entry.1 entry.2 object) []

/-- An entry that is written only when there is a value. -/
def optional (key : String) : Option Json → Entries
  | some value => [(key, value)]
  | none => []

end Entries

namespace Json

/-- The member under a key, of an object that has it. -/
def get? : Json → String → Option Json
  | .object entries, key => Entries.get? entries key
  | _, _ => none

def asString? : Json → Option String
  | .string s => some s
  | _ => none

/-- The value of an optional string. -/
def ofOption : Option String → Json
  | some s => .string s
  | none => .null

def ofNat (n : Nat) : Json := .number (.int n)

mutual

/-- A value with the sign of every zero dropped. Two values that agree after that are equal as numbers
go, where the two zeros are one. -/
def dropZeroSigns : Json → Json
  | .number (.float x) => .number (.float (if x.isZero then Binary64.zero else x))
  | .array items => .array (dropZeroSignsItems items)
  | .object entries => .object (dropZeroSignsEntries entries)
  | value => value

def dropZeroSignsItems : List Json → List Json
  | [] => []
  | item :: rest => dropZeroSigns item :: dropZeroSignsItems rest

def dropZeroSignsEntries : List (String × Json) → List (String × Json)
  | [] => []
  | (key, value) :: rest => (key, dropZeroSigns value) :: dropZeroSignsEntries rest

end

end Json

end CredentialWallet
