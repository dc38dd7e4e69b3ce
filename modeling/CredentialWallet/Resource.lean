import CredentialWallet.Agent
import CredentialWallet.Credential
import CredentialWallet.Gateway
import CredentialWallet.Invitation
import CredentialWallet.Preview
/-!
# The resources of an agency

Four kinds of records stand in collections of their own and are all reached in the same way: listed,
and got, updated or deleted by their id. The wallet's agent and the submission of invitations have an
address of their own each.
-/

namespace CredentialWallet

open Record (Codec)

/-- Records that an agency keeps in a collection. -/
class Resource (τ : Type) extends Codec τ where
  collection : String

instance : Resource Connection where
  collection := "connections"

instance : Resource Invitation where
  collection := "invitations"

instance : Resource Credential where
  collection := "credentials"

instance : Resource Verification where
  collection := "verifications"

namespace Resource

variable {τ υ : Type} [Resource τ] [Codec υ] (g : Gateway) (token : String)

/-- All records of a collection, or those in a state. -/
def list (state : Option String) : Talk Failure (List τ) := do
  let url := g.endpoint (collection τ) ++ state.elim "" ("?state=" ++ ·)
  let listing : Listing τ ← g.get url token
  return listing.items

/-- The record with an id. -/
def get (id : String) : Talk Failure τ := do
  let url ← Talk.ofExcept (g.itemEndpoint (collection τ) id)
  g.get url token

/-- The record with an id after an update. If the agency answers the update without a body, the record
is fetched. -/
def update (id : String) (change : υ) : Talk Failure τ := do
  let url ← Talk.ofExcept (g.itemEndpoint (collection τ) id)
  match ← g.patch url token (Codec.write change) with
  | .noContent => get g token id
  | reply => Talk.ofExcept reply.intoContent

/-- Deletes the record with an id. -/
def delete (τ : Type) [Resource τ] (id : String) : Talk Failure Unit := do
  let url ← Talk.ofExcept (g.itemEndpoint (collection τ) id)
  g.delete url token

end Resource

/-- The agent of a wallet. -/
def Agent.me (g : Gateway) (token : String) : Talk Failure Agent := g.get (g.endpoint "agents/me") token

namespace Invitation

/-- Hands in an invitation and takes what the agency says of it. -/
def submit (g : Gateway) (token : String) (s : Submission) : Talk Failure Json :=
  g.post (g.endpoint "invitation_processor") token s.toJson

/-- Hands in an invitation and takes the preview of it. -/
def submitForPreview (g : Gateway) (token : String) (s : Submission) : Talk Failure Preview := do
  let payload ← submit g token s
  Talk.ofExcept ((Preview.ofJson payload).mapError .malformed)

/-- The preview of an invitation; nothing changes at the agency. -/
def inspect (g : Gateway) (token url : String) : Talk Failure Preview :=
  submitForPreview g token ⟨url, true⟩

/-- Commits an invitation at the agency. -/
def commit (g : Gateway) (token url : String) : Talk Failure Preview :=
  submitForPreview g token ⟨url, false⟩

end Invitation

end CredentialWallet
