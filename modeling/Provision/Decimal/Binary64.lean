/-!
Contract: finite 64-bit binary floating-point numbers as exact dyadic numbers.

A number is a sign, a significand below `2 ^ 53` and a power of two.  Nothing
here is computed in machine floating point, so that every statement about a
number is one about natural numbers.

Owns:
- `roundHalfEven`, the quotient rounded to the nearest natural number;
- `ofDecimal?`, the nearest number to a decimal fraction, with none beyond
  the largest finite number.

Does not own: how a number is written, or the texts from which it is read.
-/

namespace Provision.Decimal

/-- A finite 64-bit floating-point number: `significand * 2 ^ exponent` with a
sign.  Zero keeps its sign. -/
structure Binary64 where
  negative : Bool
  significand : Nat
  exponent : Int
deriving DecidableEq, Repr, Inhabited

/-- The least power of two of a number. -/
def leastExponent : Int := -1074

/-- The greatest power of two of a number. -/
def greatestExponent : Int := 971

/-- The significands of normal numbers start here. -/
def leastNormal : Nat := 0x10000000000000

/-- The number is written in the one form that the format has for it. -/
def Binary64.Canonical (number : Binary64) : Prop :=
  number.significand < 2 * leastNormal ∧
    leastExponent ≤ number.exponent ∧ number.exponent ≤ greatestExponent ∧
    (leastNormal ≤ number.significand ∨ number.exponent = leastExponent)

instance (number : Binary64) : Decidable number.Canonical := by
  unfold Binary64.Canonical
  infer_instance

def Binary64.zero (negative : Bool) : Binary64 :=
  ⟨negative, 0, leastExponent⟩

/-- The quotient rounded to the nearest natural number; a half goes to the
even neighbour. -/
def roundHalfEven (numerator denominator : Nat) : Nat :=
  let quotient := numerator / denominator
  let twice := 2 * (numerator % denominator)
  if twice < denominator then quotient
  else if denominator < twice then quotient + 1
  else quotient + quotient % 2

/-- The fraction `numerator / denominator` times a power of the base, as a
fraction again. -/
def scaled (base : Nat) (power : Int) (numerator denominator : Nat) :
    Nat × Nat :=
  match power with
  | .ofNat up => (numerator * Nat.pow base up, denominator)
  | .negSucc down => (numerator, denominator * Nat.pow base (down + 1))

/-- The greatest power of two that is at most a positive fraction. -/
def binaryMagnitude (numerator denominator : Nat) : Int :=
  let guess : Int := (numerator.log2 : Int) - (denominator.log2 : Int)
  let parts := scaled 2 (-guess) numerator denominator
  if parts.1 < parts.2 then guess - 1 else guess

/-- The number nearest to a positive fraction, or none beyond the largest. -/
def ofFraction? (negative : Bool) (numerator denominator : Nat) :
    Option Binary64 :=
  let exponent :=
    max (binaryMagnitude numerator denominator - 52) leastExponent
  let parts := scaled 2 (-exponent) numerator denominator
  let significand := roundHalfEven parts.1 parts.2
  let carried :=
    if significand < 2 * leastNormal then (significand, exponent)
    else (leastNormal, exponent + 1)
  if greatestExponent < carried.2 then none
  else some ⟨negative, carried.1, carried.2⟩

/-- The number nearest to `digits * 10 ^ power`.  Fractions whose magnitude
alone settles the answer are not expanded: above `10 ^ 310` there is none,
below `10 ^ -400` it is zero. -/
def ofDecimal? (negative : Bool) (digits : Nat) (power : Int) :
    Option Binary64 :=
  if digits = 0 then some (.zero negative)
  else
    let places : Int := (Nat.toDigits 10 digits).length
    if 310 < places + power then none
    else if places + power < -400 then some (.zero negative)
    else
      let parts := scaled 10 power digits 1
      ofFraction? negative parts.1 parts.2

end Provision.Decimal
