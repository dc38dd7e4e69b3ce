import CredentialWallet.Description.Basic
import CredentialWallet.Opening
/-!
# Descriptions of a wallet

Tokens and the client's secret are described only as being there. A login is described by the user's
name alone.
-/

namespace CredentialWallet

open Description (members option optionalText quoted record redacted secret word)

def Agent.describe (a : Agent) : Description :=
  record "AgentInfo" [("id", quoted a.id), ("name", quoted a.name), ("url", quoted a.url),
    ("did", optionalText a.did), ("creation_time", optionalText a.creationTime),
    ("properties", members a.properties)] false

def Party.describe (p : Party) : Description :=
  record "ConnectionAgentInfo" [("name", quoted p.name), ("url", quoted p.url),
    ("did", optionalText p.did), ("did_doc", option (p.didDoc.map Description.ofJson)),
    ("properties", members p.properties)] false

def Connection.describe (c : Connection) : Description :=
  record "ConnectionInfo" [("id", quoted c.id), ("state", word c.state), ("role", word c.role),
    ("local", c.own.describe), ("remote", c.remote.describe)] false

def Invitation.describe (i : Invitation) : Description :=
  record "InvitationInfo" [("id", quoted i.id), ("url", quoted i.url),
    ("short_url", optionalText i.shortUrl), ("recipient_key", optionalText i.recipientKey),
    ("properties", members i.properties)] false

def Credential.Details.describe (d : Credential.Details) : Description :=
  record "CredentialDetails" [("id", quoted d.id), ("role", word d.role), ("state", word d.state),
    ("issuer_did", quoted d.issuerDid), ("json_representation", Description.ofJson d.claims),
    ("connection", d.connection.describe), ("properties", members d.properties)] false

def Credential.describe : Credential → Description
  | .indy details definitionId schemaName schemaVersion =>
    .wrapped "Indy" (record "IndyCredential" [("details", details.describe),
      ("credential_definition_id", quoted definitionId), ("schema_name", quoted schemaName),
      ("schema_version", quoted schemaVersion)] false)
  | .jsonLd details =>
    .wrapped "JsonLd" (record "JsonLdCredential" [("details", details.describe)] false)
  | .mdoc details docType =>
    .wrapped "Mdoc" (record "MdocCredential" [("details", details.describe),
      ("doc_type", optionalText docType)] false)

def Verification.describe (v : Verification) : Description :=
  record "VerificationInfo" [("id", quoted v.id), ("state", word v.state),
    ("role", option (v.role.map word)), ("verifier_did", optionalText v.verifierDid),
    ("connection", option (v.connection.map Connection.describe)),
    ("info", option (v.info.map Description.ofJson)),
    ("proof_request", option (v.proofRequest.map Description.ofJson)),
    ("properties", members v.properties)] false

def Token.describe (t : Token) : Description :=
  record "TokenInfo" [("access_token", redacted), ("refresh_token", secret t.refresh),
    ("token_type", quoted t.type), ("expires_in", option (t.expiresIn.map fun n => .plain s!"{n}")),
    ("scope", optionalText t.scope)] false

def Wallet.describe (w : Wallet) : Description :=
  record "Wallet" [("refresh_uri", quoted w.refreshUri), ("base_uri", quoted w.baseUri),
    ("client_id", quoted w.clientId), ("client_secret", secret w.clientSecret),
    ("token", w.token.describe), ("agent", w.agent.describe),
    ("connections", .list "" (w.connections.map Connection.describe)),
    ("invitations", .list "" (w.invitations.map Invitation.describe)),
    ("credentials", .list "" (w.credentials.map Credential.describe)),
    ("verifications", .list "" (w.verifications.map Verification.describe))] false

def Login.describe (l : Login) : Description :=
  record "WalletLogin" [("username", quoted l.username)] true

end CredentialWallet
