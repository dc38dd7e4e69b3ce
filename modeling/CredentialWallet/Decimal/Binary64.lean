/-!
# Finite doubles, exactly

A finite double is a sign, a significand and a power of two. Every rounding here is one rounding of
an exact quotient of naturals to the nearest double, ties to the even significand, so products and
quotients of doubles are computed without a machine float.

`Binary64.ofDecimal?` reads a decimal significand and exponent the way the wallet's readers do: the
significand is rounded first and then scaled by one rounded power of ten.
-/

namespace CredentialWallet.Decimal

/-- The double `± significand · 2 ^ exponent`. A double has one such form with the significand below
`2 ^ 53` and either at least `2 ^ 52` or at the least exponent, and every operation here returns that
form. -/
structure Binary64 where
  negative : Bool
  significand : Nat
  exponent : Int
deriving DecidableEq, Inhabited

/-- The least exponent of a double. -/
def leastExponent : Int := -1074

/-- The greatest exponent of a finite double. -/
def greatestExponent : Int := 971

/-- The natural nearest to `num / den`, an even one when two are as near. -/
def roundDiv (num den : Nat) : Nat :=
  let quotient := num / den
  let twice := 2 * (num % den)
  if twice < den then quotient
  else if den < twice then quotient + 1
  else quotient + quotient % 2

/-- The natural nearest to `num / den / 2 ^ q`. -/
def roundAt (num den : Nat) : Int → Nat
  | .ofNat q => roundDiv num (den * Nat.pow 2 q)
  | .negSucc q => roundDiv (num * Nat.pow 2 (q + 1)) den

namespace Binary64

/-- The nearest nonnegative double to `num / den`, or nothing when that is beyond the finite ones. -/
def ofQuotient? (num den : Nat) : Option Binary64 :=
  let guess : Int := (num.log2 : Int) - (den.log2 : Int) - 53
  let low := max guess leastExponent
  let fits (significand : Nat) (exponent : Int) : Option Binary64 :=
    if exponent ≤ greatestExponent then some ⟨false, significand, exponent⟩ else none
  let significand := roundAt num den low
  if significand < Nat.pow 2 53 then fits significand low
  else
    let significand := roundAt num den (low + 1)
    if significand < Nat.pow 2 53 then fits significand (low + 1)
    else fits (Nat.pow 2 52) (low + 2)

def zero : Binary64 := ⟨false, 0, leastExponent⟩

def neg (x : Binary64) : Binary64 := { x with negative := !x.negative }

def isZero (x : Binary64) : Bool := x.significand == 0

/-- The magnitude as a quotient of naturals. -/
def ratio (x : Binary64) : Nat × Nat :=
  match x.exponent with
  | .ofNat q => (x.significand * Nat.pow 2 q, 1)
  | .negSucc q => (x.significand, Nat.pow 2 (q + 1))

/-- The product of two magnitudes. -/
def mul? (x y : Binary64) : Option Binary64 :=
  ofQuotient? (x.ratio.1 * y.ratio.1) (x.ratio.2 * y.ratio.2)

/-- The quotient of two magnitudes. -/
def div? (x y : Binary64) : Option Binary64 :=
  ofQuotient? (x.ratio.1 * y.ratio.2) (x.ratio.2 * y.ratio.1)

/-- The double nearest to a power of ten. -/
def tenPow (k : Nat) : Binary64 := (ofQuotient? (Nat.pow 10 k) 1).getD zero

/-- The greatest power of ten that is a double. -/
def greatestTenPow : Nat := 308

/-- `x · 10 ^ exponent`, in steps of at most `10 ^ 308`. A step up beyond the finite doubles gives
nothing, a magnitude that has vanished stays zero. -/
def scale? : Nat → Binary64 → Int → Option Binary64
  | 0, x, _ => some x
  | steps + 1, x, exponent =>
    if exponent.natAbs ≤ greatestTenPow then
      if 0 ≤ exponent then x.mul? (tenPow exponent.natAbs) else x.div? (tenPow exponent.natAbs)
    else if x.isZero then some x
    else if 0 ≤ exponent then none
    else (x.div? (tenPow greatestTenPow)).bind fun y => scale? steps y (exponent + greatestTenPow)

/-- The double read for `significand · 10 ^ exponent`, or nothing when it is beyond the finite ones. -/
def ofDecimal? (significand : Nat) (exponent : Int) : Option Binary64 :=
  (ofQuotient? significand 1).bind fun x => scale? (exponent.natAbs / greatestTenPow + 1) x exponent

end Binary64

end CredentialWallet.Decimal
