import CredentialWallet.Failure
import CredentialWallet.Listing
import CredentialWallet.Record.Codec
import CredentialWallet.Settings
import CredentialWallet.Talk
import CredentialWallet.Text.Base64
import CredentialWallet.Text.Marked
import CredentialWallet.Url.Parse
/-!
# The gateway to an agency

A gateway knows the address of one agency and puts requests to it together. What comes back is sorted
by its status: nothing, a redirect, or content, and everything else is a failure.
-/

namespace CredentialWallet

open Http (Answer Method Request Transport)

structure Gateway where
  /-- An address that does not end in a slash. -/
  baseUrl : String
  userAgent : String
deriving DecidableEq

namespace Gateway

/-! ### Addresses -/

/-- A gateway, unless no header can carry the name it goes by. -/
def new (baseUrl : String) (settings : Settings) : Except Failure Gateway :=
  if Http.isSendable settings.userAgent then
    .ok ⟨Text.dropTrailingSlashes baseUrl, Text.trimHeader settings.userAgent⟩
  else .error (.invalidSettings Transport.unsendableHeader.message)

theorem new_eq_ok {baseUrl : String} {settings : Settings} {g : Gateway}
    (h : new baseUrl settings = .ok g) :
    g = ⟨Text.dropTrailingSlashes baseUrl, Text.trimHeader settings.userAgent⟩ := by
  rw [new] at h
  split at h
  · cases h
    rfl
  · cases h

/-- The address of a resource. -/
def endpoint (g : Gateway) (resource : String) : String := s!"{g.baseUrl}/{apiPath}/{resource}"

/-- The address of one item of a resource. The id takes one segment of the path, whatever it holds. -/
def itemEndpoint (g : Gateway) (resource id : String) : Except Failure String :=
  match Url.parse (g.endpoint resource) with
  | .error e => .error (.invalidSettings e.message)
  | .ok url =>
    match url.push? id with
    | some url => .ok url.text
    | none => .error (.invalidSettings s!"{g.baseUrl} is not a base URL")

/-! ### Requests -/

/-- The header for a user and a password. -/
def basicHeader (user : String) (password : Option String) : String :=
  "Basic " ++ String.ofList (Text.base64 (Text.utf8 (user ++ ":" ++ password.getD "")))

/-- A URL without the user it names, and the header that names that user instead. A URL whose user is
no text stays as it is. -/
def splitCredentials (url : Url) : Url × Option String :=
  match url.authority with
  | none => (url, none)
  | some a =>
    match a.credentials? with
    | none => (url, none)
    | some (user, password) =>
      ({ url with authority := some { a with user := [], password := [] } },
        some (basicHeader user password))

/-- A request, if its URL and its headers allow one. -/
def prepare (userAgent : String) (method : Method) (address : String) (token : Option String)
    (body : Option Http.Body) : Except Transport Request :=
  match Url.parse address with
  | .error e => .error (.unusableUrl e)
  | .ok url =>
    let (sent, credentials) := splitCredentials url
    if url.authority.all (·.host.isEmpty) then .error (.foreignScheme url.text)
    else if !(token.all fun token => Http.isSendable ("Bearer " ++ token)) then .error .unsendableHeader
    else if url.scheme ≠ "http" ∧ url.scheme ≠ "https" then .error (.foreignScheme sent.text)
    else if !Http.isAddressable sent then .error (.unsendableUrl sent.text)
    else
      .ok {
        method
        url := sent
        authorization := credentials.toList ++
          (token.map fun token => Text.trimHeader ("Bearer " ++ token)).toList
        userAgent
        body }

/-! ### Answers -/

/-- What a request that did not fail brings. -/
inductive Reply (α : Type)
  | noContent
  | redirect (location : String)
  | content (value : α)
deriving DecidableEq

/-- The content of a reply that must have some. -/
def Reply.intoContent {α : Type} : Reply α → Except Failure α
  | content value => .ok value
  | noContent => .error (.unexpected "no content")
  | redirect location => .error (.unexpected s!"redirected to {location}")

/-- The keys under which an error says what is wrong, the best one first. -/
def messageKeys : List String := ["error_description", "message", "messageDescription", "error"]

/-- What the body of an error says is wrong. -/
def statedMessage? (body : String) : Option String :=
  match Json.ofText? body with
  | .ok value => messageKeys.findSome? fun key => (value.get? key).bind Json.asString?
  | .error _ => none

def apiFailure (a : Answer) : Failure :=
  let body := Text.lossyText a.body
  .api a.status ((statedMessage? body).getD s!"request failed with status code {a.status}") body

def isRedirect (status : Nat) : Bool := status ∈ [301, 303, 307, 308]

/-- Sorts an answer by its status and reads its content. -/
def interpret {α : Type} [Record.Codec α] (a : Answer) : Except Failure (Reply α) :=
  if a.status = 204 then .ok .noContent
  else if isRedirect a.status then
    match a.readableLocation? with
    | some location => .ok (.redirect location)
    | none =>
      .error (.unexpected s!"{a.status} {Http.reason a.status} without a Location header")
  else if a.isSuccess then
    if a.body.isEmpty then .ok .noContent
    else
      match Record.ofBytes a.body with
      | .ok value => .ok (.content value)
      | .error e => .error (.unreadable e)
  else .error (apiFailure a)

/-! ### Performing -/

variable {α : Type} [Record.Codec α] (g : Gateway)

/-- Sends a request and sorts what comes back. -/
def perform (method : Method) (url : String) (token : Option String) (body : Option Json) :
    Talk Failure (Reply α) := do
  let request ← Talk.ofExcept
    ((prepare g.userAgent method url token (body.map .json)).mapError .transport)
  let answer ← (Talk.send request).mapError .transport
  Talk.ofExcept (interpret answer)

def get (url token : String) : Talk Failure α := do
  let reply ← g.perform .get url (some token) none
  Talk.ofExcept reply.intoContent

def post (url token : String) (body : Json) : Talk Failure α := do
  let reply ← g.perform .post url (some token) (some body)
  Talk.ofExcept reply.intoContent

def patch (url token : String) (body : Json) : Talk Failure (Reply α) :=
  g.perform .patch url (some token) (some body)

/-- Deletes what stands at an address. A reply of any kind will do. -/
def delete (url token : String) : Talk Failure Unit := do
  let _ ← g.perform (α := Json) .delete url (some token) none

end Gateway

end CredentialWallet
