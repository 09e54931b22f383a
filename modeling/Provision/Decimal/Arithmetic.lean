import Provision.Decimal.Binary64

/-!
Contract: products and quotients of 64-bit floating-point numbers.

Both operations compute the exact fraction and round it once, to the nearest
number.  They are what a machine does, so a result that is computed in several
steps is rounded after each of them.

Owns:
- `nearest?`, the number nearest to a fraction that may be zero;
- `times?` and `over?`, with no result beyond the largest number;
- `tenTo?`, the powers of ten that are in range, each rounded.

Does not own: which operations a reader of numbers carries out.
-/

namespace Provision.Decimal

/-- The number nearest to a fraction, with the sign kept for zero. -/
def nearest? (negative : Bool) (numerator denominator : Nat) :
    Option Binary64 :=
  if numerator = 0 then some (.zero negative)
  else ofFraction? negative numerator denominator

/-- The greatest power of ten below the largest number. -/
def greatestTenth : Nat := 308

/-- A power of ten, rounded; none beyond the greatest one. -/
def tenTo? (power : Nat) : Option Binary64 :=
  if power ≤ greatestTenth then ofFraction? false (Nat.pow 10 power) 1 else none

namespace Binary64

/-- The number without its sign as a fraction. -/
def fraction (number : Binary64) : Nat × Nat :=
  scaled 2 number.exponent number.significand 1

def times? (number factor : Binary64) : Option Binary64 :=
  nearest? (number.negative != factor.negative)
    (number.fraction.1 * factor.fraction.1)
    (number.fraction.2 * factor.fraction.2)

/-- The quotient by a divisor that is not zero. -/
def over? (number divisor : Binary64) : Option Binary64 :=
  nearest? (number.negative != divisor.negative)
    (number.fraction.1 * divisor.fraction.2)
    (number.fraction.2 * divisor.fraction.1)

end Binary64

end Provision.Decimal
