import CredentialWallet.Record.Codec
/-!
# Agents

The agent a wallet belongs to.
-/

namespace CredentialWallet

open Record

structure Agent where
  id : String
  name : String
  url : String
  did : Option String
  creationTime : Option String
  properties : Entries
deriving DecidableEq

namespace Agent

def shape {α : Type} [Readable α] : Shape α Agent :=
  Agent.mk <$> .required "id" readText <*> .required "name" readText <*> .required "url" readText
    <*> .optional "did" readText <*> .optional "creation_time" readText
    <*> .defaulted "properties" readMembers []

def toJson (a : Agent) : Json :=
  .object (optionalText "creation_time" a.creationTime ++ optionalText "did" a.did ++
    [("id", .string a.id), ("name", .string a.name), ("properties", .object a.properties),
      ("url", .string a.url)])

instance : Codec Agent where
  read := shape.read "AgentInfo"
  write := toJson

end Agent

end CredentialWallet
