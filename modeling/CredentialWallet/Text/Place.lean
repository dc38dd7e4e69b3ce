import CredentialWallet.Text.Digits
/-!
# Places at the end of a message

A message about a text may end in the place that it is about, a line and a column. A place is no part of
what the message says, so it can be taken off the end.
-/

namespace CredentialWallet.Text

structure Place where
  line : Nat
  column : Nat
deriving DecidableEq

/-- What stands before the given end of a text. -/
def before? (ending cs : List Char) : Option (List Char) :=
  if ending.isSuffixOf cs then some (cs.take (cs.length - ending.length)) else none

/-- The digits that a text ends in, of which there must be some, and what stands before them. -/
def digitsAtEnd? (cs : List Char) : Option (List Char × List Char) :=
  let digits := (cs.reverse.takeWhile Char.isDigit).reverse
  if digits.isEmpty then none else some (cs.take (cs.length - digits.length), digits)

namespace Place

def text (p : Place) : String :=
  " at line " ++ String.ofList (Nat.toDigits 10 p.line) ++ " column " ++
    String.ofList (Nat.toDigits 10 p.column)

/-- What stands before a place at the end of a text, and the digits of its line and its column. -/
def digits? (cs : List Char) : Option (List Char × List Char × List Char) := do
  let (cs, column) ← digitsAtEnd? cs
  let (cs, line) ← digitsAtEnd? (← before? " column ".toList cs)
  return (← before? " at line ".toList cs, line, column)

/-- The place at the end of a message, if its numbers fit into 64 bits, and the message before it. -/
def split? (message : String) : Option (String × Place) := do
  let (cs, line, column) ← digits? message.toList
  return (String.ofList cs, ⟨← natural64? line, ← natural64? column⟩)

/-- A message without the place it ends in. -/
def drop (message : String) : String :=
  match digits? message.toList with
  | some (cs, _) => String.ofList cs
  | none => message

end Place

end CredentialWallet.Text
