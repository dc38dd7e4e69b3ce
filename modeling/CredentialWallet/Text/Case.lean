/-!
# Letter case

Texts that agree up to the case of their ASCII letters. No other letter has a case here.
-/

namespace CredentialWallet.Text

/-- A text with its ASCII capitals made small. -/
def lowerAscii (s : String) : String := String.ofList (s.toList.map Char.toLower)

/-- Whether two texts agree up to the case of their ASCII letters. -/
def sameIgnoringCase (a b : String) : Bool := lowerAscii a == lowerAscii b

theorem sameIgnoringCase_iff {a b : String} :
    sameIgnoringCase a b = true ↔ lowerAscii a = lowerAscii b := beq_iff_eq

end CredentialWallet.Text
