import CredentialWallet.Agent
import CredentialWallet.Credential
import CredentialWallet.Invitation
import CredentialWallet.Listing
import CredentialWallet.Token
import CredentialWallet.Verification
/-!
# Wallets

A wallet is the session with an agency and the records fetched for it. Of the credentials it keeps the
stored ones only. Recording a record puts it in the place of the first one with its id, or at the end.
-/

namespace CredentialWallet

/-- The records of a wallet. -/
structure Holdings where
  agent : Agent
  connections : List Connection
  invitations : List Invitation
  credentials : List Credential
  verifications : List Verification
deriving DecidableEq

/-- All records, without the session they were fetched in. -/
def Holdings.toJson (h : Holdings) : Json :=
  .object [("agent", h.agent.toJson), ("connections", .array (h.connections.map Connection.toJson)),
    ("credentials", .array (h.credentials.map Credential.toJson)),
    ("invitations", .array (h.invitations.map Invitation.toJson)),
    ("verifications", .array (h.verifications.map Verification.toJson))]

structure Wallet extends Holdings where
  /-- Where tokens are refreshed. -/
  refreshUri : String
  baseUri : String
  clientId : String
  clientSecret : Option String
  token : Token
deriving DecidableEq

/-- A list with a new item in the place of the first one that satisfies a test, or behind all others. -/
def putFirst {α : Type} (test : α → Bool) (item : α) : List α → List α
  | [] => [item]
  | x :: rest => if test x then item :: rest else x :: putFirst test item rest

theorem putFirst_cons_of_pos {α : Type} {test : α → Bool} {x : α} (h : test x = true) (item : α)
    (rest : List α) : putFirst test item (x :: rest) = item :: rest := by
  rw [putFirst, if_pos h]

theorem putFirst_cons_of_neg {α : Type} {test : α → Bool} {x : α} (h : ¬ test x = true) (item : α)
    (rest : List α) : putFirst test item (x :: rest) = x :: putFirst test item rest := by
  rw [putFirst, if_neg h]

/-- The item that was put is the first to be found. -/
theorem find?_putFirst {α : Type} {test : α → Bool} {item : α} (h : test item = true) (xs : List α) :
    (putFirst test item xs).find? test = some item := by
  induction xs with
  | nil => simp [putFirst, h]
  | cons x rest ih => by_cases hx : test x = true <;> simp [putFirst, hx, h, ih]

/-- Everything in the list is the new item or was there before. -/
theorem mem_of_mem_putFirst {α : Type} {test : α → Bool} {item a : α} {xs : List α}
    (h : a ∈ putFirst test item xs) : a = item ∨ a ∈ xs := by
  induction xs with
  | nil => exact .inl (List.mem_singleton.1 h)
  | cons x rest ih =>
    rw [putFirst] at h
    split at h
    · exact (List.mem_cons.1 h).imp_right (List.mem_cons_of_mem x)
    · rcases List.mem_cons.1 h with rfl | h
      · exact .inr List.mem_cons_self
      · exact (ih h).imp_right (List.mem_cons_of_mem x)

namespace Wallet

/-- The client that a wallet is signed in as. -/
def client (w : Wallet) : Client := ⟨w.refreshUri, w.clientId, w.clientSecret⟩

def accessToken (w : Wallet) : String := w.token.access

/-! ### Looking up -/

def credential? (w : Wallet) (id : String) : Option Credential := w.credentials.find? (·.id = id)

def verification? (w : Wallet) (id : String) : Option Verification :=
  w.verifications.find? (·.id = id)

/-! ### Recording -/

/-- A stored credential is kept; one in any other state is dropped. -/
def recordCredential (w : Wallet) (c : Credential) : Wallet :=
  { w with credentials :=
      if c.isStored then putFirst (·.id = c.id) c w.credentials
      else w.credentials.eraseP (·.id = c.id) }

def recordVerification (w : Wallet) (v : Verification) : Wallet :=
  { w with verifications := putFirst (·.id = v.id) v w.verifications }

def recordConnection (w : Wallet) (c : Connection) : Wallet :=
  { w with connections := putFirst (·.id = c.id) c w.connections }

/-- Keeps a new token. -/
def recordToken (w : Wallet) (t : Token) : Wallet := { w with token := t }

/-- Keeps other records in the same session. -/
def recordHoldings (w : Wallet) (h : Holdings) : Wallet := { w with toHoldings := h }

/-! ### Removing -/

/-- Removes every credential with an id. -/
def removeCredential (w : Wallet) (id : String) : Wallet :=
  { w with credentials := w.credentials.filter (·.id ≠ id) }

@[simp] theorem credential?_removeCredential (w : Wallet) (id : String) :
    (w.removeCredential id).credential? id = none := by
  simp [credential?, removeCredential]

/-- Removes the invitations at a URL, be it the full or the short one. -/
def removeInvitation (w : Wallet) (url : String) : Wallet :=
  { w with invitations := w.invitations.filter (!·.isAt url) }

theorem invitations_removeInvitation (w : Wallet) (url : String) :
    (w.removeInvitation url).invitations =
      w.invitations.filter fun i => ¬ (i.url = url ∨ i.shortUrl = some url) := by
  simp only [removeInvitation, Invitation.isAt, Bool.decide_or, decide_not]

/-! ### Writing -/

/-- The whole wallet, with its token and the secret of its client. -/
def toJson (w : Wallet) : Json :=
  .object [("agent", w.agent.toJson), ("base_uri", .string w.baseUri),
    ("client_id", .string w.clientId), ("client_secret", Json.ofOption w.clientSecret),
    ("connections", .array (w.connections.map Connection.toJson)),
    ("credentials", .array (w.credentials.map Credential.toJson)),
    ("invitations", .array (w.invitations.map Invitation.toJson)),
    ("refresh_uri", .string w.refreshUri), ("token", w.token.toJson),
    ("verifications", .array (w.verifications.map Verification.toJson))]

/-- Whether two wallets hold the same, where the two zeros are one number. -/
def holdsSame (a b : Wallet) : Bool := a.toJson.dropZeroSigns = b.toJson.dropZeroSigns

end Wallet

end CredentialWallet
