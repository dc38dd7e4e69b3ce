import CredentialWallet.Record.Codec
/-!
# Listings

The agency lists records in an envelope with a count of its own, which nothing compares with the items.
-/

namespace CredentialWallet

open Record

structure Listing (τ : Type) where
  count : Nat
  items : List τ
deriving DecidableEq

namespace Listing

variable {τ : Type} [Codec τ]

def shape {α : Type} [Readable α] : Shape α (Listing τ) :=
  Listing.mk <$> .defaulted "count" (readUnsigned "usize") 0
    <*> .defaulted "items" (readList Codec.read) []

def toJson (l : Listing τ) : Json :=
  .object [("count", .ofNat l.count), ("items", .array (l.items.map Codec.write))]

instance : Codec (Listing τ) where
  read := shape.read "ListResponse"
  write := toJson

end Listing

end CredentialWallet
