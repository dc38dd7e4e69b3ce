import Mathlib.Control.Monad.Basic
import CredentialWallet.Proofs.Inquiry
/-!
# Operations are all or nothing

An operation that fails leaves the whole wallet as it was, wherever in its talk it fails: an agency that
has committed an invitation, or has answered four of five requests, may know more than the wallet does,
but never the other way round.
-/

namespace CredentialWallet.Service

variable {s : Service} {link : Link}

/-- What was recorded was told: the wallet changes only if the operation succeeds. -/
theorem perform_wallet_of_error {operation : Operation} {w : Wallet} {j : Journal} {e : Mishap}
    (h : (s.perform operation link w j).1 = .error e) :
    (s.perform operation link w j).2.1 = w := by
  rcases hasked : s.inquire w operation link j with ⟨cause | found, k⟩
  · rw [perform_of_error hasked]
  · rw [perform_of_ok hasked] at h
    cases h

end CredentialWallet.Service

namespace CredentialWallet.Sample

/-- An agency whose address is no name that would have to be looked at. -/
def baseUrl : String := "http://[::1]"

def invitation : Invitation := ⟨"i", "https://issuer.example/1", some "https://s.example/1", none, []⟩

/-- A wallet with one invitation, whose token can be refreshed. -/
def wallet : Wallet where
  agent := ⟨"a", "holder", "", none, none, []⟩
  connections := []
  invitations := [invitation]
  credentials := []
  verifications := []
  refreshUri := "http://[::1]/token"
  baseUri := baseUrl
  clientId := "wallet"
  clientSecret := none
  token := { Token.bearer "access" with refresh := some "refresh" }

def service : Service := ⟨⟨baseUrl, "client"⟩, .endpoint "client", .passed⟩

def offer : Offer := ⟨"c", invitation.url, none, none, .null⟩

/-- The text of an object, from pieces of the text of its members. -/
def braced (members : List String) : List String := "\x7b" :: (members ++ ["\x7d"])

/-- A success whose body is given in pieces. -/
def answering (body : List String) : Http.Answer := ⟨200, none, body.flatMap Text.utf8⟩

/-- An agency that gives its answers in turn, over and over. -/
def turns (answers : List Http.Answer) : Agency :=
  fun requests => answers[(requests.length - 1) % answers.length]?

/-- An agency that commits the offer and then breaks down. -/
def breaking : Agency :=
  turns [answering (braced ["\"id\":\"c\",", "\"url\":\"https://issuer.example/1\",",
    "\"requests~attach\":[]"]), ⟨500, none, []⟩]

end CredentialWallet.Sample

namespace CredentialWallet.Service

open Sample

/-- The offer is committed and the update fails. -/
theorem perform_wallet_of_error_behind_commit :
    (service.perform (.actOnOffer offer .accept) (.up breaking) wallet []).1 =
        .error (.failure (.api 500 "request failed with status code 500" "")) ∧
      (service.perform (.actOnOffer offer .accept) (.up breaking) wallet []).2.1 = wallet :=
  have h : (service.perform (.actOnOffer offer .accept) (.up breaking) wallet []).1 =
      .error (.failure (.api 500 "request failed with status code 500" "")) := by decide +kernel
  ⟨h, perform_wallet_of_error h⟩

end CredentialWallet.Service
