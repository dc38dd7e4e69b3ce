import CredentialWallet.Form
import CredentialWallet.Json.Printer
import CredentialWallet.Text.Blank
import CredentialWallet.Url.Basic
/-!
# Requests and answers

What is sent to an agency and what comes back, as far as either side can tell.
-/

namespace CredentialWallet.Http

inductive Method
  | get
  | post
  | patch
  | delete
  | other (name : String)
deriving DecidableEq

def Method.text : Method → String
  | get => "GET"
  | post => "POST"
  | patch => "PATCH"
  | delete => "DELETE"
  | other name => name

/-- The method of a name; names are told apart by letter case. -/
def Method.ofText (name : String) : Method :=
  match name with
  | "GET" => get
  | "POST" => post
  | "PATCH" => patch
  | "DELETE" => delete
  | name => other name

inductive Body
  | json (value : Json)
  | form (fields : Form)
deriving DecidableEq

def Body.contentType : Body → String
  | json _ => "application/json"
  | form _ => "application/x-www-form-urlencoded"

structure Request where
  method : Method
  /-- The URL that was asked for, with what the agency does not get to see of it. -/
  url : Url
  /-- The credentials of the URL, if it names any, and the token. -/
  authorization : List String
  userAgent : String
  body : Option Body
deriving DecidableEq

/-- The URL as the agency receives it, without a user and without a fragment. -/
def Request.address (r : Request) : String :=
  let authority := r.url.authority.map fun a => { a with user := [], password := [] }
  { r.url with authority, fragment := none : Url }.text

/-- The path and the query that are asked for. -/
def Request.target (r : Request) : String := String.ofList (r.url.routeText ++ r.url.queryText)

/-- An answer that announces no charset: of its headers only the one of a redirect is told, and its text
is UTF-8. Where an agency names another charset beside the type of the content, a client would read the
text by that. -/
structure Answer where
  status : Nat
  location : Option String
  body : List UInt8
deriving DecidableEq

namespace Answer

def isSuccess (a : Answer) : Bool := 200 ≤ a.status && a.status < 300

/-- Where a redirect leads, if that can be read. -/
def readableLocation? (a : Answer) : Option String :=
  a.location.bind fun location =>
    let location := Text.trimHeader location
    if location.toList.all fun c => c = '\t' || (32 ≤ c.toNat && c.toNat < 127) then some location
    else none

end Answer

/-- The standard words for the statuses of redirects. -/
def reason (status : Nat) : String :=
  match status with
  | 301 => "Moved Permanently"
  | 303 => "See Other"
  | 307 => "Temporary Redirect"
  | 308 => "Permanent Redirect"
  | _ => ""

/-! ### What can be sent -/

/-- Whether a request line can carry a URL: it is not too long, and no character of its host is one that
must not stand in a URL at all. -/
def isAddressable (url : Url) : Bool :=
  url.text.length ≤ 65534 &&
    url.authority.all fun a => a.host.all fun c => !"\"\x60\x7b\x7d".toList.contains c

/-- Whether a header can carry a value. -/
def isSendable (value : String) : Bool :=
  value.toList.all fun c => c = '\t' || (32 ≤ c.toNat && c.toNat ≠ 127)

end CredentialWallet.Http
