import CredentialWallet.Url.Percent
import CredentialWallet.Url.Scheme
/-!
# Paths

A path is a list of segments, each in its encoded form and none with a slash in it. A segment of one
dot says nothing and one of two dots takes back the segment before it; where such a segment ends a
path, the path ends in an empty segment instead. A segment that names a drive is not taken back.
-/

namespace CredentialWallet.Url

abbrev Segment := List Char

/-- Escapes of a dot read as a dot. -/
def undot : List Char → List Char
  | '%' :: '2' :: 'e' :: rest => '.' :: undot rest
  | '%' :: '2' :: 'E' :: rest => '.' :: undot rest
  | c :: rest => c :: undot rest
  | [] => []

def isSingleDot (s : Segment) : Bool := undot s = ['.']

def isDoubleDot (s : Segment) : Bool := undot s = ['.', '.']

/-- The letter of a drive, which stands in front of a colon or a bar, and the rest of the segment. -/
def splitDrive? : Segment → Option (Char × Segment)
  | letter :: mark :: rest =>
    if letter.isAlpha && (mark = ':' || mark = '|') then some (letter, rest) else none
  | _ => none

/-- Whether a segment is the name of a drive, or goes on behind it with a backslash. -/
def beginsWithDrive (s : Segment) : Bool :=
  match splitDrive? s with
  | some (_, rest) => rest.head?.all (· = '\\')
  | none => false

/-- The name of a drive with a colon; other segments stay. -/
def withColon (s : Segment) : Segment :=
  match splitDrive? s with
  | some (letter, []) => [letter, ':']
  | _ => s

/-- Whether a segment is the name of a drive. -/
def isDrive (s : Segment) : Bool := (splitDrive? s).any (·.2.isEmpty)

namespace Path

/-- The path without its last segment, unless that names a drive. -/
def up (path : List Segment) : List Segment :=
  if path.getLast?.any beginsWithDrive then path else path.dropLast

/-- Puts a segment behind a path; `last` tells whether it is to end there. The first segment of a
file's path names its drive with a colon. -/
def append (kind : Scheme.Kind) (path : List Segment) (last : Bool) (s : Segment) : List Segment :=
  if isDoubleDot s then if last then up path ++ [[]] else up path
  else if isSingleDot s then if last then path ++ [[]] else path
  else if kind = .file ∧ path.isEmpty then [withColon s]
  else path ++ [s]

/-! ### Segments that are not encoded yet -/

/-- Characters that a URL drops wherever they stand. -/
def isDropped (c : Char) : Bool := c = '\t' || c = '\n' || c = '\r'

/-- A text without the characters that a URL drops. -/
def kept (cs : List Char) : List Char := cs.filter (!isDropped ·)

/-- The first character that is kept, and what stands behind it. -/
def firstKept? (cs : List Char) : Option (Char × List Char) :=
  match cs.dropWhile isDropped with
  | [] => none
  | c :: rest => some (c, rest)

/-- The name of a drive that characters to be dropped set off from the rest of a segment. -/
def splitBehindDrive? (cs : List Char) : Option (Segment × List Char) := do
  let (letter, cs) ← firstKept? cs
  let (mark, cs) ← firstKept? cs
  let (next, rest) ← firstKept? cs
  if letter.isAlpha && mark = ':' && cs.head?.any isDropped then some ([letter, mark], next :: rest)
  else none

/-- Encodes a segment and puts it behind a path. At the front of a file's path, what is set off from the
name of a drive is a segment of its own. -/
def appendRaw (kind : Scheme.Kind) (escaped : Char → Bool) (path : List Segment) (last : Bool)
    (cs : List Char) : List Segment :=
  match if kind = .file ∧ path.isEmpty then splitBehindDrive? cs else none with
  | some (drive, rest) => append kind [drive] last (encode escaped (kept rest))
  | none => append kind path last (encode escaped (kept cs))

/-- Encodes segments and puts them behind a path, of which the last ends it. -/
def appendAll (kind : Scheme.Kind) (escaped : Char → Bool) (path : List Segment) :
    List (List Char) → List Segment
  | [] => path
  | [cs] => appendRaw kind escaped path true cs
  | cs :: rest => appendAll kind escaped (appendRaw kind escaped path false cs) rest

/-- The path of a file does not begin with an empty segment unless it is the only one. -/
def tidy (kind : Scheme.Kind) (path : List Segment) : List Segment :=
  if kind = .file then
    match path.dropWhile List.isEmpty with
    | [] => [[]]
    | path => path
  else path

/-- Puts one more segment behind a path, which holds whatever is pushed in an encoded form. The two dot
segments push nothing. The only path that loses its last, empty segment is the root. -/
def push (kind : Scheme.Kind) (path : List Segment) (text : String) : List Segment :=
  if text = "." ∨ text = ".." then path
  else
    tidy kind (appendRaw kind (escapedInSegment kind.isKnown) (if path = [[]] then [] else path) true
      text.toList)

/-- The text of a path. -/
def text (path : List Segment) : List Char := path.flatMap ('/' :: ·)

end Path

end CredentialWallet.Url
