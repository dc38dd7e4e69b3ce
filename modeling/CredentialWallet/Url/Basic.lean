import CredentialWallet.Text.Utf8
import CredentialWallet.Url.Path
/-!
# URLs

A URL stands in its normal form: scheme and host in lower case, no default port, no dot segments, every
character that may not stand where it does escaped. `Url.text` writes that form, and `Url.push?` puts
one more segment behind its path.
-/

namespace CredentialWallet

namespace Url

/-- Who is asked, and where. -/
structure Authority where
  user : List Char
  password : List Char
  host : List Char
  port : Option Nat
deriving DecidableEq

/-- A path of segments, or one that is no path but a text of its own. -/
inductive Route
  | segments (list : List Segment)
  | text (cs : List Char)
deriving DecidableEq

end Url

structure Url where
  scheme : String
  authority : Option Url.Authority
  route : Url.Route
  query : Option (List Char)
  fragment : Option (List Char)
deriving DecidableEq

namespace Url

def kind (u : Url) : Scheme.Kind := schemeKind u.scheme

/-! ### Writing -/

def Authority.userInfo (a : Authority) : List Char :=
  if a.user.isEmpty && a.password.isEmpty then []
  else a.user ++ (if a.password.isEmpty then [] else ':' :: a.password) ++ ['@']

def Authority.text (a : Authority) : List Char :=
  a.userInfo ++ a.host ++
    match a.port with
    | some port => ':' :: Nat.toDigits 10 port
    | none => []

/-- The path as it is written; where no authority is, one that begins with two slashes is kept from
looking like one. -/
def routeText (u : Url) : List Char :=
  match u.route with
  | .text cs => cs
  | .segments path =>
    match u.authority, path with
    | none, [] :: _ :: _ => '/' :: '.' :: Path.text path
    | _, _ => Path.text path

/-- The query with its mark. -/
def queryText (u : Url) : List Char := u.query.elim [] ('?' :: ·)

def fragmentText (u : Url) : List Char := u.fragment.elim [] ('#' :: ·)

def authorityText (u : Url) : List Char := u.authority.elim [] fun a => '/' :: '/' :: a.text

def text (u : Url) : String :=
  String.ofList (u.scheme.toList ++ ':' :: (u.authorityText ++ u.routeText ++ u.queryText ++
    u.fragmentText))

/-! ### Users -/

/-- The user and the password that an authority names, if the user is a text; a password that is no text
counts for nothing. -/
def Authority.credentials? (a : Authority) : Option (String × Option String) := do
  let user ← Text.textOf? (decodeBytes a.user)
  let password := if a.password.isEmpty then none else Text.textOf? (decodeBytes a.password)
  if user.isEmpty && password.isNone then none else some (user, password)

/-! ### Items -/

/-- The URL with one more segment in its path, if its path has segments. -/
def push? (u : Url) (segment : String) : Option Url :=
  match u.route with
  | .segments path => some { u with route := .segments (Path.push u.kind path segment) }
  | .text _ => none

end Url

end CredentialWallet
