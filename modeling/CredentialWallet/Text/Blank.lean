/-!
# Blanks and what is trimmed

The blanks of Unicode, the spaces around a header value and the slashes behind a base URL.
-/

namespace CredentialWallet.Text

/-- The characters with the property of white space. -/
def isBlank (c : Char) : Bool :=
  (9 ≤ c.toNat && c.toNat ≤ 13) || c.toNat = 32 || c.toNat = 0x85 || c.toNat = 0xA0 ||
    c.toNat = 0x1680 || (0x2000 ≤ c.toNat && c.toNat ≤ 0x200A) || c.toNat = 0x2028 ||
    c.toNat = 0x2029 || c.toNat = 0x202F || c.toNat = 0x205F || c.toNat = 0x3000

/-- Whether a text holds nothing but blanks. -/
def allBlank (s : String) : Bool := s.toList.all isBlank

/-- The characters between the leading and the trailing ones that satisfy a test. -/
def trimBoth (test : Char → Bool) (cs : List Char) : List Char :=
  ((cs.dropWhile test).reverse.dropWhile test).reverse

/-- The characters before the trailing ones that satisfy a test. -/
def trimEnd (test : Char → Bool) (cs : List Char) : List Char := (cs.reverse.dropWhile test).reverse

theorem trimEnd_last {test : Char → Bool} {cs : List Char} {c : Char}
    (h : (trimEnd test cs).getLast? = some c) : test c = false := by
  have := List.head?_dropWhile_not test cs.reverse
  simp only [trimEnd, List.getLast?_reverse] at h
  simpa [h] using this

/-- A text without the slashes it ends in. -/
def dropTrailingSlashes (s : String) : String := String.ofList (trimEnd (· == '/') s.toList)

/-- A header value without the spaces and tabs around it. -/
def trimHeader (s : String) : String :=
  String.ofList (trimBoth (fun c => c == ' ' || c == '\t') s.toList)

end CredentialWallet.Text
