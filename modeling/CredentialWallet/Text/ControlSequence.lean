/-!
# Control sequences

A text for a terminal may hold control characters and control sequences. What remains of it elsewhere is
the characters that show: line breaks and other blanks are kept, also in the middle of a sequence, and
every other control goes with the sequence that it begins.
-/

namespace CredentialWallet.Text

/-- Which part of a sequence comes next. -/
inductive SequencePart
  /-- No sequence has begun. -/
  | text
  /-- The character behind an escape. -/
  | escape
  /-- The final character of an escape with intermediates. -/
  | escapeEnd
  /-- The parameters and the final character of a control function. -/
  | function
  /-- An operating system command, which a bell ends. -/
  | command
  /-- The parameters of a device control string. -/
  | device
  /-- A string, which a string terminator ends. -/
  | string
deriving DecidableEq

namespace SequencePart

/-- Whether an ASCII control breaks or spaces a line, also where a sequence has begun. -/
def isSpacing (c : Char) : Bool := c ∈ ['\t', '\n', '\x0c', '\r']

/-- Whether a string terminator is among the bytes of a character. -/
def holdsTerminator (c : Char) : Bool := (String.utf8EncodeChar c).contains 0x9C

/-- What an escape and a character behind it begin. -/
def behindEscape (c : Char) : SequencePart :=
  if c.toNat < 32 || c.toNat = 127 then escape
  else if c.toNat < 0x30 then escapeEnd
  else if c = '[' then function
  else if c = ']' then command
  else if c = 'P' then device
  else if c ∈ ['X', '^', '_'] then string
  else text

/-- The part after a character that shows nothing where it stands. -/
def next (part : SequencePart) (c : Char) : SequencePart :=
  let n := c.toNat
  if n = 0x1B then escape
  else if n = 0x18 || n = 0x1A then text
  else if n < 128 then
    match part with
    | text => text
    | escape => behindEscape c
    | escapeEnd => if 0x30 ≤ n && n < 127 then text else escapeEnd
    | function => if 0x40 ≤ n && n < 127 then text else function
    | command => if n = 7 then text else command
    | device => if 0x40 ≤ n && n < 127 then string else device
    | string => string
  else if part = string && holdsTerminator c then text
  else part

/-- Whether a character shows where a part is due. -/
def shows (part : SequencePart) (c : Char) : Bool :=
  match part with
  | text => isSpacing c || (32 ≤ c.toNat && c.toNat ≠ 127)
  | escape | escapeEnd | function => isSpacing c
  | command | device | string => false

/-- The characters that show. Once one does, those behind it do as in plain text, up to the next control;
only then what was left of a broken sequence goes on, unless a character beyond ASCII ended it. -/
def plainFrom (part : SequencePart) (showing : Bool) : List Char → List Char
  | [] => []
  | c :: rest =>
    if shows (if showing then text else part) c then
      c :: plainFrom (if c.toNat < 128 then part else text) true rest
    else plainFrom (next part c) false rest

end SequencePart

/-- A text without controls and control sequences. -/
def plain (s : String) : String := String.ofList (SequencePart.plainFrom .text false s.toList)

end CredentialWallet.Text
