import CredentialWallet.Record.Codec
/-!
# Tokens

The tokens that a token endpoint grants, and the client they are granted to.
-/

namespace CredentialWallet

open Record

structure Token where
  access : String
  refresh : Option String
  type : String
  expiresIn : Option Nat
  scope : Option String
deriving DecidableEq

namespace Token

/-- The type of a token whose type is not given. -/
def bearerType : String := "Bearer"

/-- A token of that type that cannot be refreshed. -/
def bearer (access : String) : Token := ⟨access, none, bearerType, none, none⟩

def shape {α : Type} [Readable α] : Shape α Token :=
  Token.mk <$> .required "access_token" readText <*> .optional "refresh_token" readText
    <*> .defaulted "token_type" readText bearerType <*> .optional "expires_in" (readUnsigned "u64")
    <*> .optional "scope" readText

def toJson (t : Token) : Json :=
  .object ([("access_token", .string t.access)] ++
    Entries.optional "expires_in" (t.expiresIn.map Json.ofNat) ++
    optionalText "refresh_token" t.refresh ++ optionalText "scope" t.scope ++
    [("token_type", .string t.type)])

instance : Codec Token where
  read := shape.read "TokenInfo"
  write := toJson

end Token

/-- A client of a token endpoint. -/
structure Client where
  tokenUrl : String
  id : String
  secret : Option String
deriving DecidableEq

end CredentialWallet
