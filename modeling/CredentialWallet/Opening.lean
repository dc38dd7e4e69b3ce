import CredentialWallet.Fetch
import CredentialWallet.TokenProvider
/-!
# Opening a wallet

A wallet is opened in three steps: the descriptor is read, a token is granted, and the records are
fetched with it. Each step is taken only if the one before it went well, and there is a wallet only if
all of them did.
-/

namespace CredentialWallet

/-- What is needed to open a wallet. -/
structure Login where
  /-- The text of a descriptor. -/
  descriptor : String
  username : String
  password : String
deriving DecidableEq

/-- How wallets are opened. -/
structure Opener where
  settings : Settings
  provider : TokenProvider

namespace Opener

/-- Opens wallets with tokens from the token endpoint their descriptor names. -/
def ofSettings (s : Settings) : Except OpeningFailure Opener :=
  match TokenProvider.ofSettings s with
  | .ok provider => .ok ⟨s, provider⟩
  | .error e => .error (.badSettings e)

/-- Opens a wallet; the answers to the five parts arrive in the given order. -/
def initiate (o : Opener) (login : Login) (order : List Holdings.Part) :
    Talk OpeningFailure Wallet := do
  let descriptor ← Talk.ofExcept ((Descriptor.ofText login.descriptor).mapError .badDescriptor)
  let gateway ← Talk.ofExcept ((Gateway.new descriptor.baseUrl o.settings).mapError .badSettings)
  let client := descriptor.client
  let token ← (o.provider.ask client (.password login.username login.password)).mapError .notSignedIn
  let holdings ← Holdings.fetch gateway token.access o.settings.verificationState order
  return {
    toHoldings := holdings
    refreshUri := client.tokenUrl
    baseUri := gateway.baseUrl
    clientId := client.id
    clientSecret := client.secret
    token }

end Opener

end CredentialWallet
