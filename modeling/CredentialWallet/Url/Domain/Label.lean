import CredentialWallet.Unicode.Direction
import CredentialWallet.Unicode.Joining
import CredentialWallet.Unicode.Normal
import CredentialWallet.Url.Domain.Mapping
import CredentialWallet.Url.Punycode
/-!
# Labels of names

A label is what stands between the dots of a name. It has a form in ASCII, and may be given in it.
Whichever form it is given in, the characters it stands for must be such that a reader can tell the
label from others.
-/

namespace CredentialWallet.Url.Domain

open Unicode (Direction direction)

/-- The characters of a label, and its form in ASCII. -/
structure Label where
  chars : List Char
  ascii : List Char
deriving DecidableEq

def isAscii (c : Char) : Bool := c.toNat < 128

/-- The mark of a label whose form in ASCII is a code. -/
def codeMark : List Char := "xn--".toList

/-- The longest code that is read. -/
def codeLimit : Nat := 2000

/-- The most characters a label may have whose form in ASCII is a code. -/
def lengthLimit : Nat := 1000

namespace Label

/-- The characters of a code, if a label of these characters would be given that code. -/
def charsOfCode? (code : List Char) : Option (List Char) := do
  if code.isEmpty || code.getLast? = some '-' || codeLimit < code.length then none
  let chars ← Punycode.decode? code
  if chars.length ≤ lengthLimit && chars.all isKept && Unicode.normalize chars = chars then some chars
  else none

/-- The label that a text in composed form gives, before its characters are looked at. -/
def ofChars? (cs : List Char) : Option Label :=
  match cs with
  | 'x' :: 'n' :: '-' :: '-' :: code =>
    if code.all isAscii then (charsOfCode? code).map (⟨·, cs⟩) else none
  | cs =>
    if cs.all isAscii then some ⟨cs, cs⟩
    else if cs.length ≤ lengthLimit then some ⟨cs, codeMark ++ Punycode.encode cs⟩
    else none

/-! ### Joiners

Two signs that nobody sees tell whether letters join. They may stand behind a mark that takes the vowel
from a letter; the one that keeps letters apart may also stand between letters that join. -/

def nonJoiner : Char := '\u200C'

def joiner : Char := '\u200D'

/-- Whether the letters before and after a place would join. -/
def wouldJoin (before after : List Char) : Bool :=
  (before.dropWhile Unicode.isTransparent).head?.any Unicode.joinsNext &&
    (after.dropWhile Unicode.isTransparent).head?.any Unicode.joinsPrevious

/-- Whether every joiner stands where it may, with what stands before the rest in reverse. -/
def joinersFit (before : List Char) : List Char → Bool
  | [] => true
  | c :: rest =>
    let killed := before.head?.any (Unicode.combiningClass · = Unicode.vowelKiller)
    (if c = nonJoiner then killed || wouldJoin before rest else c ≠ joiner || killed) &&
      joinersFit (c :: before) rest

/-- Whether a label begins with no mark and has its joiners where they may stand. -/
def isWellFormed (l : Label) : Bool :=
  !l.chars.head?.any Unicode.isMark && joinersFit [] l.chars

/-! ### Directions -/

/-- Whether a label is partly written from right to left. -/
def turns (l : Label) : Bool :=
  l.chars.any fun c => direction c = .rightToLeft || direction c = .arabicDigit

/-- Whether a label shows its characters in one order only: the first one sets the direction, the last
one but for marks keeps to it, and nothing between goes against it. Digits of both kinds do not go
together from right to left. -/
def hasOneOrder (l : Label) : Bool :=
  match l.chars.map direction with
  | [] => true
  | first :: rest =>
    let inner := rest.reverse.dropWhile (· = Direction.mark)
    match first with
    | .leftToRight =>
      inner.head?.all (fun d => d = Direction.leftToRight || d = Direction.europeanDigit) &&
        inner.all fun d => d ≠ .rightToLeft && d ≠ .arabicDigit
    | .rightToLeft =>
      inner.head?.all (fun d => d = Direction.rightToLeft || d = Direction.europeanDigit ||
        d = Direction.arabicDigit) &&
        inner.all (· ≠ .leftToRight) && !(inner.contains .europeanDigit && inner.contains .arabicDigit)
    | _ => false

end Label

end CredentialWallet.Url.Domain
