import CredentialWallet.Gateway
/-!
# Token providers

Tokens are granted by the token endpoint of an agency, or by a provider of the wallet's own, which is
known only by what it answers.
-/

namespace CredentialWallet

open Http (Answer)

/-- The form in which a grant is asked of a token endpoint. -/
def Grant.form (grant : Grant) (client : Client) : Form :=
  (match grant with
  | .password username secret =>
    [("grant_type", "password"), ("username", username), ("password", secret)]
  | .refresh token => [("grant_type", "refresh_token"), ("refresh_token", token)]) ++
    ("client_id", client.id) :: (client.secret.map ("client_secret", ·)).toList

namespace TokenEndpoint

/-- What the body of a refusal gives as its reason: its description or else its error, if that is a
text. -/
def statedReason? (body : String) : Option String :=
  match Json.ofText? body with
  | .ok value => ((value.get? "error_description").or (value.get? "error")).bind Json.asString?
  | .error _ => none

/-- The token that an answer grants. -/
def interpret (a : Answer) : Except Failure Token :=
  let body := Text.lossyText a.body
  if a.isSuccess then (Record.ofText body).mapError .unreadable
  else
    .error (.authentication
      ((statedReason? body).getD s!"token endpoint returned status code {a.status}"))

/-- Asks the token endpoint of a client for a grant. -/
def ask (userAgent : String) (client : Client) (grant : Grant) : Talk Failure Token := do
  let request ← Talk.ofExcept
    ((Gateway.prepare userAgent .post client.tokenUrl none (some (.form (grant.form client)))).mapError
      .transport)
  let answer ← (Talk.send request).mapError .transport
  Talk.ofExcept (interpret answer)

end TokenEndpoint

inductive TokenProvider
  | endpoint (userAgent : String)
  /-- A provider that answers in view of all grants asked for so far. -/
  | own (answer : List (Client × Grant) → Except Failure Token)

namespace TokenProvider

/-- The token endpoint under given settings. -/
def ofSettings (s : Settings) : Except Failure TokenProvider :=
  (Gateway.new "" s).map fun g => endpoint g.userAgent

/-- Asks for a grant on behalf of a client. -/
def ask (provider : TokenProvider) (client : Client) (grant : Grant) : Talk Failure Token := do
  let grants ← Talk.note client grant
  match provider with
  | endpoint userAgent => TokenEndpoint.ask userAgent client grant
  | own answer => Talk.ofExcept (answer grants)

end TokenProvider

end CredentialWallet
