import CredentialWallet.Resource
import CredentialWallet.Wallet
/-!
# Fetching the records of a wallet

The five parts of a wallet are asked for all at once, and their answers are taken in whatever order
they arrive. The first answer that is no good ends the fetch, whatever comes later.
-/

namespace CredentialWallet

open Http (Answer Transport)

namespace Holdings

inductive Part
  | agent
  | connections
  | invitations
  | credentials
  | verifications
deriving DecidableEq

namespace Part

/-- All parts, in the order in which they are asked for. -/
def all : List Part := [agent, connections, invitations, credentials, verifications]

def name : Part → String
  | agent => "agent"
  | connections => "connections"
  | invitations => "invitations"
  | credentials => "credentials"
  | verifications => "verifications"

/-- Where a part is asked for, with the state in which verifications are listed. -/
def address (g : Gateway) (state : VerificationState) : Part → String
  | agent => g.endpoint "agents/me"
  | verifications => g.endpoint "verifications" ++ "?state=" ++ Word.text state
  | part => g.endpoint part.name

end Part

/-- What the five answers hold, each by itself. -/
structure Fetched where
  agent : Except Failure Agent
  connections : Except Failure (List Connection)
  invitations : Except Failure (List Invitation)
  credentials : Except Failure (List Credential)
  verifications : Except Failure (List Verification)

/-- The content of an answer that must have some. -/
def contentOf {α : Type} [Record.Codec α] (a : Except Transport Answer) : Except Failure α := do
  let answer ← a.mapError .transport
  let reply ← Gateway.interpret answer
  reply.intoContent

/-- The items of an answer that must hold a listing. -/
def itemsOf {α : Type} [Record.Codec α] (a : Except Transport Answer) : Except Failure (List α) := do
  let listing : Listing α ← contentOf a
  return listing.items

namespace Fetched

/-- What is wrong with the answer to a part. -/
def failure? (f : Fetched) : Part → Option Failure
  | .agent => errorOf f.agent
  | .connections => errorOf f.connections
  | .invitations => errorOf f.invitations
  | .credentials => errorOf f.credentials
  | .verifications => errorOf f.verifications
where
  errorOf {α : Type} : Except Failure α → Option Failure
    | .error e => some e
    | .ok _ => none

/-- The parts put together, or the first in their own order that is no good. -/
def holdings (f : Fetched) : Except OpeningFailure Holdings := do
  let agent ← f.agent.mapError (.notFetched Part.agent.name)
  let connections ← f.connections.mapError (.notFetched Part.connections.name)
  let invitations ← f.invitations.mapError (.notFetched Part.invitations.name)
  let credentials ← f.credentials.mapError (.notFetched Part.credentials.name)
  let verifications ← f.verifications.mapError (.notFetched Part.verifications.name)
  return { agent, connections, invitations, credentials, verifications }

/-- The parts put together, or the first to arrive that is no good. -/
def arriving (f : Fetched) (order : List Part) : Except OpeningFailure Holdings :=
  match order.findSome? fun part => (f.failure? part).map (OpeningFailure.notFetched part.name) with
  | some e => .error e
  | none => f.holdings

end Fetched

/-- Brings the request for a part to the agency. -/
def ask (g : Gateway) (token : String) (state : VerificationState) (part : Part) :
    Talk OpeningFailure (Except Transport Answer) :=
  Talk.mapError (fun e => .notFetched part.name (.transport e)) do
    let request ← Talk.ofExcept
      (Gateway.prepare g.userAgent .get (part.address g state) (some token) none)
    Talk.deliver request

/-- Fetches all parts. The agency is asked for every one before any answer is looked at; the answers
arrive in the given order, and those it does not name behind the others in the order of the requests.
Of the credentials only the stored ones are kept. -/
def fetch (g : Gateway) (token : String) (state : VerificationState) (order : List Part) :
    Talk OpeningFailure Holdings := do
  let agent ← ask g token state .agent
  let connections ← ask g token state .connections
  let invitations ← ask g token state .invitations
  let credentials ← ask g token state .credentials
  let verifications ← ask g token state .verifications
  let fetched : Fetched := {
    agent := contentOf agent
    connections := itemsOf connections
    invitations := itemsOf invitations
    credentials := (itemsOf credentials).map (List.filter Credential.isStored)
    verifications := itemsOf verifications }
  Talk.ofExcept (fetched.arriving order)

end Holdings

end CredentialWallet
