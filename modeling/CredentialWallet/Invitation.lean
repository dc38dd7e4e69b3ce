import CredentialWallet.Record.Codec
/-!
# Invitations

An invitation is addressed by its URL, or by a shorter one. Handing in a URL either inspects the
invitation, which changes nothing at the agency, or commits it.
-/

namespace CredentialWallet

open Record

structure Invitation where
  id : String
  url : String
  shortUrl : Option String
  recipientKey : Option String
  properties : Entries
deriving DecidableEq

namespace Invitation

/-- Whether a URL is one of the two addresses of an invitation. -/
def isAt (i : Invitation) (url : String) : Bool := i.url = url || i.shortUrl = some url

def shape {α : Type} [Readable α] : Shape α Invitation :=
  Invitation.mk <$> .required "id" readText <*> .required "url" readText
    <*> .optional "short_url" readText <*> .optional "recipient_key" readText
    <*> .defaulted "properties" readMembers []

def toJson (i : Invitation) : Json :=
  .object ([("id", .string i.id), ("properties", .object i.properties)] ++
    optionalText "recipient_key" i.recipientKey ++ optionalText "short_url" i.shortUrl ++
    [("url", .string i.url)])

instance : Codec Invitation where
  read := shape.read "InvitationInfo"
  write := toJson

/-- Handing in an invitation by its URL. -/
structure Submission where
  url : String
  inspect : Bool
deriving DecidableEq

namespace Submission

def shape {α : Type} [Readable α] : Shape α Submission :=
  Submission.mk <$> .required "url" readText <*> .required "inspect" readBool

def toJson (s : Submission) : Json :=
  .object [("inspect", .bool s.inspect), ("url", .string s.url)]

instance : Codec Submission where
  read := shape.read "InvitationProcessRequest"
  write := toJson

end Submission

end Invitation

end CredentialWallet
