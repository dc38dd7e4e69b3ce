import CredentialWallet.Url.Domain.Label
import CredentialWallet.Url.Percent
/-!
# Names of hosts

A name is read into ASCII, label by label. Spellings that only differ in how characters are written
lead to the same name, and a text that could be taken for another name is none.
-/

namespace CredentialWallet.Url.Domain

/-- Characters that no name may hold. -/
def isForbidden (c : Char) : Bool := isControl c || " #%/:<>?@[\\]^|".toList.contains c

/-- The labels of a text. -/
def labels? (cs : List Char) : Option (List Label) := do
  let mapped ← cs.mapM mapped?
  let composed := Unicode.normalize mapped.flatten
  if composed.all isKept then (Text.splitAt (· = '.') composed).mapM Label.ofChars? else none

/-- Whether some labels make a name. -/
def areName (labels : List Label) : Bool :=
  labels.all Label.isWellFormed && (!labels.any Label.turns || labels.all Label.hasOneOrder)

/-- The name of a text in ASCII. -/
def toAscii? (cs : List Char) : Option (List Char) := do
  let labels ← labels? cs
  let ascii := ['.'].intercalate (labels.map Label.ascii)
  if areName labels && !ascii.any isForbidden then some ascii else none

end CredentialWallet.Url.Domain
