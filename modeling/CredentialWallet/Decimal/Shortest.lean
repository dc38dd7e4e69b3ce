import CredentialWallet.Decimal.Binary64
/-!
# The shortest decimal of a double

The fewest significant digits that read back as the same double, and of those the nearest to it. A
decimal reads back when it lies in the interval of reals that round to the double, ends included
exactly when the significand is even.

`Binary64.text` writes these digits: positionally when the first digit stands between `10 ^ -5` and
`10 ^ 15`, and with a signed exponent otherwise. A positional text always has a point.
-/

namespace CredentialWallet.Decimal

namespace Binary64

/-- The magnitude, the half gap below and the half gap above, over one denominator. -/
structure Interval where
  value : Nat
  below : Nat
  above : Nat
  den : Nat

/-- The reals that round to a double. Below a power of two the gap is half as wide. -/
def interval (x : Binary64) : Interval :=
  let narrow := x.significand == Nat.pow 2 52 && x.exponent != leastExponent
  let below := if narrow then 1 else 2
  match x.exponent with
  | .ofNat q => ⟨4 * x.significand * Nat.pow 2 q, below * Nat.pow 2 q, 2 * Nat.pow 2 q, 4⟩
  | .negSucc q => ⟨4 * x.significand, below, 2, 4 * Nat.pow 2 (q + 1)⟩

/-- Whether `num / den` rounds to the double with significand `significand` and interval `i`. -/
def Interval.holds (i : Interval) (significand num den : Nat) : Bool :=
  let low := (i.value - i.below) * den
  let high := (i.value + i.above) * den
  let point := num * i.den
  if significand % 2 == 0 then low ≤ point && point ≤ high else low < point && point < high

/-- `digits · 10 ^ exponent` as a quotient. -/
def decimalRatio (digits : Nat) : Int → Nat × Nat
  | .ofNat e => (digits * Nat.pow 10 e, 1)
  | .negSucc e => (digits, Nat.pow 10 (e + 1))

/-- The exponent of the first digit of `num / den`, searched upwards from `guess`. -/
def firstDigit (num den : Nat) : Nat → Int → Int
  | 0, guess => guess
  | steps + 1, guess =>
    let next := decimalRatio 1 (guess + 1)
    if next.1 * den ≤ num * next.2 then firstDigit num den steps (guess + 1) else guess

/-- A decimal on the grid of step `10 ^ exponent` that reads back as `x`, the nearer one of two. -/
def onGrid (x : Binary64) (exponent : Int) : Option Nat :=
  let i := x.interval
  let step := decimalRatio 1 exponent
  let low := i.value * step.2 / (i.den * step.1)
  let reads (digits : Nat) : Bool :=
    let r := decimalRatio digits exponent
    i.holds x.significand r.1 r.2
  let remainder := i.value * step.2 - low * (i.den * step.1)
  let upIsNearer := i.den * step.1 < 2 * remainder ||
    (i.den * step.1 == 2 * remainder && low % 2 == 1)
  match reads low, reads (low + 1) with
  | true, true => some (if upIsNearer then low + 1 else low)
  | true, false => some low
  | false, true => some (low + 1)
  | false, false => none

/-- The first grid, from coarse to fine, with a decimal that reads back; the finest has one for every
double. -/
def searchGrid (x : Binary64) (first : Int) : Nat → Nat → Nat × Int
  | 0, digits => ((x.onGrid (first + 1 - digits)).getD 1, first + 1 - digits)
  | more + 1, digits =>
    match x.onGrid (first + 1 - digits) with
    | some found => (found, first + 1 - digits)
    | none => searchGrid x first more (digits + 1)

/-- Significant digits and the exponent of the last one. -/
def shortest (x : Binary64) : Nat × Int :=
  let r := x.ratio
  let guess : Int := ((r.1.log2 : Int) - (r.2.log2 : Int)) * 30103 / 100000 - 2
  searchGrid x (firstDigit r.1 r.2 5 guess) 16 1

/-- The digits of a positive natural without its trailing zeros, and how many of those there were. -/
def trimZeros : Nat → Nat → Nat × Nat
  | 0, n => (n, 0)
  | fuel + 1, n =>
    if n % 10 == 0 && n != 0 then
      let r := trimZeros fuel (n / 10)
      (r.1, r.2 + 1)
    else (n, 0)

/-- Where positional writing begins and ends, counted at the first digit. -/
def leastPositional : Int := -5

def greatestPositional : Int := 15

/-- The decimal text of a double. -/
def text (x : Binary64) : List Char :=
  let sign := if x.negative then ['-'] else []
  if x.isZero then sign ++ ['0', '.', '0']
  else
    let found := x.shortest
    let trimmed := trimZeros 20 found.1
    let digits := (Nat.toDigits 10 trimmed.1)
    let last := found.2 + trimmed.2
    let first := last + digits.length - 1
    let body :=
      if first < leastPositional || greatestPositional < first then
        let mantissa := match digits with
          | [] => []
          | [d] => [d]
          | d :: rest => d :: '.' :: rest
        let power := Nat.toDigits 10 first.natAbs
        mantissa ++ ['e', if first < 0 then '-' else '+'] ++ power
      else if 0 ≤ last then digits ++ List.replicate last.toNat '0' ++ ['.', '0']
      else if 0 ≤ first then
        digits.take (first.toNat + 1) ++ '.' :: digits.drop (first.toNat + 1)
      else '0' :: '.' :: (List.replicate (first.natAbs - 1) '0' ++ digits)
    sign ++ body

end Binary64

end CredentialWallet.Decimal
