import CredentialWallet.Text.Blank
import CredentialWallet.Text.Case
import CredentialWallet.Url.Basic
import CredentialWallet.Url.Host
/-!
# Reading URLs

Any text is either a URL, read once and for all into its normal form, or refused for one cause.
-/

namespace CredentialWallet.Url

/-- The text up to the first of some characters, and the rest from it on. -/
def splitBefore (stops : Char → Bool) (cs : List Char) : List Char × List Char :=
  (cs.takeWhile (!stops ·), cs.dropWhile (!stops ·))

/-- The scheme in front of the first colon, and the rest. -/
def splitScheme (cs : List Char) : Option (String × List Char) :=
  let parts := splitBefore (· = ':') cs
  match Path.kept parts.1, parts.2 with
  | first :: others, _ :: rest =>
    if first.isAlpha && others.all fun c => c.isAlphanum || c = '+' || c = '-' || c = '.' then
      some (Text.lowerAscii (String.ofList (first :: others)), rest)
    else none
  | _, _ => none

/-- The text before and behind the last at sign. -/
def splitUserInfo (cs : List Char) : Option (List Char × List Char) :=
  let behind := cs.reverse.takeWhile (· ≠ '@')
  if behind.length < cs.length then
    some (cs.take (cs.length - behind.length - 1), behind.reverse)
  else none

/-- The user and the password of what stands before the at sign. -/
def splitUser (cs : List Char) : List Char × List Char :=
  let parts := splitBefore (· = ':') cs
  (encode escapedInUserInfo parts.1, encode escapedInUserInfo (parts.2.drop 1))

/-- The host before the colon that stands in no brackets, and the rest. -/
def splitHost : Bool → List Char → List Char × List Char
  | _, [] => ([], [])
  | inside, c :: rest =>
    if c = ':' && !inside then ([], c :: rest)
    else
      let parts := splitHost (c = '[' || (inside && c ≠ ']')) rest
      (c :: parts.1, parts.2)

/-- The port at the front of what stands behind a host and its colon, unless it is none or the default,
and what stands behind a backslash that ends it. -/
def parsePort (scheme : String) (cs : List Char) : Except Error (Option Nat × List Char) :=
  let parts := splitBefore (· = '\\') cs
  if !parts.1.all Char.isDigit then .error .invalidPort
  else
    match Host.ofDigits 10 parts.1 with
    | none => .error .invalidPort
    | some n =>
      if 65535 < n then .error .invalidPort
      else if parts.1.isEmpty || defaultPort? scheme = some n then .ok (none, parts.2)
      else .ok (some n, parts.2)

/-- The authority of a text, and what the text goes on with behind a backslash after the port; `ended`
tells whether the URL ends with it. -/
def Authority.parse (scheme : String) (ended : Bool) (cs : List Char) :
    Except Error (Authority × List Char) := do
  let parts := (splitUserInfo cs).getD ([], cs)
  if (splitUserInfo cs).isSome && parts.1.isEmpty && parts.2.isEmpty && !ended then
    .error .emptyHost
  let user := splitUser parts.1
  let found := splitHost false parts.2
  let host ← if (schemeKind scheme).isKnown then Host.parse found.1 else Host.parseUnknown found.1
  if host.isEmpty && !found.2.isEmpty then .error .emptyHost
  let port ← parsePort scheme (found.2.drop 1)
  if host.isEmpty && !(user.1.isEmpty && user.2.isEmpty) then .error .emptyHost
  .ok (⟨user.1, user.2, host, port.1⟩, port.2)

/-- Whether a character separates segments. -/
def isSlash (kind : Scheme.Kind) (c : Char) : Bool := c = '/' || (kind.isKnown && c = '\\')

/-- The segments of a path in their normal form. -/
def parseSegments (kind : Scheme.Kind) (cs : List Char) : List Segment :=
  Path.appendAll kind escapedInPath [] (Text.splitAt (isSlash kind) cs)

/-- The path behind an authority. -/
def pathBehind (kind : Scheme.Kind) (cs : List Char) : List Segment :=
  match Path.firstKept? cs with
  | none => if kind.isKnown then [[]] else []
  | some (c, rest) => parseSegments kind (if isSlash kind c then rest else cs)

/-- A file without a host. -/
def localFile (path : List Segment) : Option Authority × Route :=
  (some ⟨[], [], [], none⟩, .segments (Path.tidy .file path))

/-- A file at a host and its path behind that. The name of a drive in front of the path takes the place
of the host. -/
def fileAt (host cs : List Char) : Option Authority × Route :=
  let found := localFile (pathBehind .file cs)
  if (pathBehind .file (Path.kept cs)).head?.any isDrive then found
  else (found.1.map fun a => { a with host }, found.2)

/-- What stands between the scheme and the query of a file. What stands in the place of a host is part
of the path if it names a drive; behind an empty host the path keeps its first slash for a while, so
that no drive is in the front of it. -/
def parseFile (cs : List Char) : Except Error (Option Authority × Route) :=
  match Path.kept cs, ((Path.firstKept? cs).map (·.2)).bind Path.firstKept? with
  | a :: b :: _, some (_, rest) =>
    if isSlash .file a && isSlash .file b then
      let parts := splitBefore (isSlash .file) rest
      let host := Path.kept parts.1
      if isDrive host then .ok (localFile (parseSegments .file rest))
      else do
        let host ← if host.isEmpty then .ok [] else Host.parse host
        if host.isEmpty || host = "localhost".toList then
          .ok (localFile (parseSegments .file parts.2))
        else .ok (fileAt host parts.2)
    else .ok (localFile (pathBehind .file cs))
  | _, _ => .ok (localFile (pathBehind .file cs))

/-- What stands between the scheme and the query. -/
def parseBody (scheme : String) (ended : Bool) (cs : List Char) :
    Except Error (Option Authority × Route) :=
  match schemeKind scheme with
  | .special => do
    let slash := isSlash .special
    let parts := splitBefore slash ((Path.kept cs).dropWhile slash)
    let a ← Authority.parse scheme (ended && parts.2.isEmpty) parts.1
    .ok (some a.1, .segments (pathBehind .special parts.2))
  | .file => parseFile cs
  | .unknown =>
    match Path.kept cs with
    | '/' :: '/' :: rest => do
      let parts := splitBefore (· = '/') rest
      let a ← Authority.parse scheme (ended && parts.2.isEmpty) parts.1
      .ok (some a.1, .segments (pathBehind .unknown (a.2 ++ parts.2)))
    | '/' :: rest => .ok (none, .segments (parseSegments .unknown rest))
    | cs => .ok (none, .text (encode isControl cs))

/-- What is kept of the part behind a mark. -/
def behindMark : List Char → Option (List Char)
  | [] => none
  | _ :: rest => some (Path.kept rest)

/-- Reads a URL. Controls and spaces around it count for nothing, and tabs and line breaks in it at most
set off the name of a drive. -/
def parse (raw : String) : Except Error Url :=
  let cs := Text.trimBoth (·.toNat ≤ 32) raw.toList
  match splitScheme cs with
  | none => .error .relative
  | some (scheme, rest) => do
    let parts := splitBefore (· = '#') rest
    let front := splitBefore (· = '?') parts.1
    let found ← parseBody scheme (front.2.isEmpty && parts.2.isEmpty) front.1
    .ok {
      scheme
      authority := found.1
      route := found.2
      query := (behindMark front.2).map (encode (escapedInQuery (schemeKind scheme).isKnown))
      fragment := (behindMark parts.2).map (encode escapedInFragment) }

end CredentialWallet.Url
