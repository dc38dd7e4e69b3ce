/-!
# Decimal digits

Naturals that fit into 64 bits, read from ASCII digits.
-/

namespace CredentialWallet.Text

/-- The natural below `2 ^ 64` that some digits stand for. -/
def natural64? (digits : List Char) : Option Nat :=
  if digits.isEmpty || !digits.all Char.isDigit then none
  else
    let n := digits.foldl (fun n c => 10 * n + (c.toNat - 48)) 0
    if n < Nat.pow 2 64 then some n else none

end CredentialWallet.Text
