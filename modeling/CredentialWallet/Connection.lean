import CredentialWallet.Record.Codec
/-!
# Connections

A connection joins the wallet's agent to a remote one. Both ends are written in full, even where all
they say is empty.
-/

namespace CredentialWallet

open Record

inductive ConnectionState
  | inboundInvitation
  | outboundOffer
  | inboundOffer
  | didExchangeResponseSent
  | connected
  | rejected
deriving DecidableEq

instance : Word ConnectionState where
  setName := "ConnectionState"
  all := [.inboundInvitation, .outboundOffer, .inboundOffer, .didExchangeResponseSent, .connected,
    .rejected]
  text
    | .inboundInvitation => "inbound_invitation"
    | .outboundOffer => "outbound_offer"
    | .inboundOffer => "inbound_offer"
    | .didExchangeResponseSent => "did_exchange_response_sent"
    | .connected => "connected"
    | .rejected => "rejected"
  label
    | .inboundInvitation => "InboundInvitation"
    | .outboundOffer => "OutboundOffer"
    | .inboundOffer => "InboundOffer"
    | .didExchangeResponseSent => "DidExchangeResponseSent"
    | .connected => "Connected"
    | .rejected => "Rejected"

instance : Word.Lawful ConnectionState :=
  ⟨fun value => by cases value <;> decide +kernel⟩

inductive ConnectionRole
  | inviter
  | invitee
deriving DecidableEq

instance : Word ConnectionRole where
  setName := "ConnectionRole"
  all := [.inviter, .invitee]
  text
    | .inviter => "inviter"
    | .invitee => "invitee"
  label
    | .inviter => "Inviter"
    | .invitee => "Invitee"

instance : Word.Lawful ConnectionRole :=
  ⟨fun value => by cases value <;> decide +kernel⟩

/-- One end of a connection. -/
structure Party where
  name : String
  url : String
  did : Option String
  didDoc : Option Json
  properties : Entries
deriving DecidableEq

namespace Party

/-- An end of which nothing is known. -/
def unknown : Party := ⟨"", "", none, none, []⟩

def shape {α : Type} [Readable α] : Shape α Party :=
  Party.mk <$> .defaulted "name" readText "" <*> .defaulted "url" readText ""
    <*> .optional "did" readText <*> .optional "did_doc" readFree
    <*> .defaulted "properties" readMembers []

def toJson (p : Party) : Json :=
  .object (optionalText "did" p.did ++ Entries.optional "did_doc" p.didDoc ++
    [("name", .string p.name), ("properties", .object p.properties), ("url", .string p.url)])

instance : Codec Party where
  read := shape.read "ConnectionAgentInfo"
  write := toJson

end Party

structure Connection where
  id : String
  state : ConnectionState
  role : ConnectionRole
  own : Party
  remote : Party
deriving DecidableEq

namespace Connection

/-- Whether both ends have exchanged their identifiers. -/
def isConnected (c : Connection) : Bool := c.state = .connected

def shape {α : Type} [Readable α] : Shape α Connection :=
  Connection.mk <$> .required "id" readText <*> .required "state" (readWord ConnectionState)
    <*> .required "role" (readWord ConnectionRole) <*> .required "local" Codec.read
    <*> .required "remote" Codec.read

def toJson (c : Connection) : Json :=
  .object [("id", .string c.id), ("local", c.own.toJson), ("remote", c.remote.toJson),
    ("role", .string (Word.text c.role)), ("state", .string (Word.text c.state))]

instance : Codec Connection where
  read := shape.read "ConnectionInfo"
  write := toJson

/-- What is asked of a connection: a state, and properties to add. -/
structure Update where
  state : ConnectionState
  properties : Option Entries
deriving DecidableEq

namespace Update

/-- Asks for a state and nothing else. -/
def toState (state : ConnectionState) : Update := ⟨state, none⟩

/-- Asks for a property as well; of two with one name the later counts. -/
def property (u : Update) (name value : String) : Update :=
  { u with properties := some (Entries.insert name (.string value) (u.properties.getD [])) }

def shape {α : Type} [Readable α] : Shape α Update :=
  Update.mk <$> .required "state" (readWord ConnectionState) <*> .optional "properties" readMembers

def toJson (u : Update) : Json :=
  .object (Entries.optional "properties" (u.properties.map Json.object) ++
    [("state", .string (Word.text u.state))])

/-- The state that is asked for can be read off. -/
theorem toJson_state (u : Update) : u.toJson.get? "state" = some (.string (Word.text u.state)) := by
  cases u with
  | mk state properties => cases properties <;> rfl

instance : Codec Update where
  read := shape.read "ConnectionUpdate"
  write := toJson

end Update

end Connection

end CredentialWallet
