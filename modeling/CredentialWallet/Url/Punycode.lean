/-!
# Names beyond ASCII in ASCII

A label that holds other characters is written as its ASCII characters, followed by the places and
numbers of the others: in ascending order, as differences, in digits of base 36 whose weights adapt to
the differences before. Reading takes the differences one after another; no number it meets may take
more than 32 bits.
-/

namespace CredentialWallet.Url.Punycode

def digit (d : Nat) : Char := if d < 26 then Char.ofNat (97 + d) else Char.ofNat (22 + d)

/-- The weight bound at a digit position, between 1 and 26. -/
def threshold (k bias : Nat) : Nat := min (max (k - bias) 1) 26

def adaptLoop (delta k : Nat) : Nat × Nat :=
  if 455 < delta then adaptLoop (delta / 35) (k + 36) else (delta, k)
termination_by delta
decreasing_by exact Nat.div_lt_self (by omega) (by omega)

/-- The bias after a difference, with so many characters placed. -/
def adapt (delta placed : Nat) (first : Bool) : Nat :=
  let delta := if first then delta / 700 else delta / 2
  let r := adaptLoop (delta + delta / placed) 0
  r.2 + 36 * r.1 / (r.1 + 38)

/-- The digits of a difference. -/
def digits (bias k q : Nat) : List Char :=
  let t := threshold k bias
  if q < t then [digit q]
  else digit (t + (q - t) % (36 - t)) :: digits bias (k + 36) ((q - t) / (36 - t))
termination_by q
decreasing_by
  have h : 1 ≤ threshold k bias := by simp only [threshold]; omega
  exact Nat.lt_of_le_of_lt (Nat.div_le_self _ _) (by omega)

structure State where
  written : List Char
  delta : Nat
  bias : Nat
  placed : Nat

/-- One character of a label while those of number `n` are placed. -/
def place (basic n : Nat) (s : State) (c : Char) : State :=
  if c.toNat < n then { s with delta := s.delta + 1 }
  else if c.toNat = n then
    ⟨s.written ++ digits s.bias 36 s.delta, 0, adapt s.delta (s.placed + 1) (s.placed = basic),
      s.placed + 1⟩
  else s

/-- Places all characters, by their numbers in ascending order. -/
def placeAll (label : List Char) (basic : Nat) : List Nat → Nat → State → State
  | [], _, s => s
  | n :: rest, low, s =>
    let s := label.foldl (place basic n) { s with delta := s.delta + (n - low) * (s.placed + 1) }
    placeAll label basic rest (n + 1) { s with delta := s.delta + 1 }

/-- A label in ASCII, without the mark that says so. -/
def encode (label : List Char) : List Char :=
  let basic := label.filter (·.toNat < 128)
  let others := ((label.filter (128 ≤ ·.toNat)).map Char.toNat).eraseDups.mergeSort
  let state := placeAll label basic.length others 128 ⟨[], 0, 72, basic.length⟩
  basic ++ (if basic.isEmpty then [] else ['-']) ++ state.written

/-! ### Reading -/

/-- The value of a digit in either case. -/
def digitValue? (c : Char) : Option Nat :=
  if c.isDigit then some (c.toNat - 22)
  else if c.isUpper then some (c.toNat - 65)
  else if c.isLower then some (c.toNat - 97)
  else none

/-- The largest number that reading may meet. -/
def numberLimit : Nat := Nat.pow 2 32 - 1

/-- Where reading stands: the characters so far, the number of the one placed last, the place behind
it, and the bias. Within a difference there are besides its sum so far the weight and the position of
the next digit. -/
structure Reading where
  chars : List Char
  number : Nat
  place : Nat
  bias : Nat
  sum : Nat
  weight : Nat
  position : Nat

/-- Places the character that a difference leads to. -/
def Reading.put? (r : Reading) : Option Reading :=
  let count := r.chars.length + 1
  let number := r.number + r.sum / count
  let place := r.sum % count
  if number.isValidChar then
    some {
      chars := r.chars.take place ++ Char.ofNat number :: r.chars.drop place
      number
      place := place + 1
      bias := adapt (r.sum - r.place) count (r.place = 0)
      sum := place + 1
      weight := 1
      position := 36 }
  else none

/-- Takes a digit, which may be the last of a difference. -/
def Reading.take? (r : Reading) (c : Char) : Option Reading := do
  let d ← digitValue? c
  let sum := r.sum + d * r.weight
  let t := threshold r.position r.bias
  if numberLimit < sum then none
  else if d < t then Reading.put? { r with sum }
  else if numberLimit < r.weight * (36 - t) then none
  else some { r with sum, weight := r.weight * (36 - t), position := r.position + 36 }

/-- The characters in front of the last dash, and the digits behind it; a dash at the very front is
left among the digits. -/
def splitDigits (code : List Char) : List Char × List Char :=
  let digits := (code.reverse.takeWhile (· ≠ '-')).reverse
  if digits.length + 1 < code.length then (code.take (code.length - digits.length - 1), digits)
  else ([], code)

/-- The label of a code, without the mark in front. -/
def decode? (code : List Char) : Option (List Char) := do
  let parts := splitDigits code
  let r ← parts.2.foldlM Reading.take? ⟨parts.1, 128, 0, 72, 0, 1, 36⟩
  if r.position = 36 then some r.chars else none

end CredentialWallet.Url.Punycode
