import Provision.Decimal.Arithmetic
import Provision.Json.Basic

/-!
Contract: the number that a number text stands for.

Integers are exact.  All other numbers are approximated: as many digits as 64
bits hold are taken as a whole number, which is multiplied or divided in
floating point by the power of ten that is left.  The result is mostly the
nearest number, but not always, as each operation rounds and further digits are
not looked at.

Owns:
- the parts of a number text;
- which digits are taken, and the power of ten that belongs to them;
- the operations that lead to a floating-point number, one after the other.

Does not own: where a number text ends.
-/

namespace Provision.Json

/-- A number as it is written: sign, digits before and after the point, and
the power of ten where one is given. -/
structure NumberText where
  negative : Bool
  whole : List Char
  fraction : List Char
  exponent : Option Int
deriving DecidableEq, Repr

/-- Takes digits to a whole number as long as 64 bits hold it.  The number of
digits that are left over is told with it. -/
def takeDigits : Nat → List Char → Nat × Nat
  | taken, [] => (taken, 0)
  | taken, digit :: rest =>
      let next := Text.digitsFrom 10 taken [digit]
      if next < UInt64.size then takeDigits next rest
      else (taken, rest.length + 1)

/-- Divides by the greatest power of ten a number of times.  Zero needs no
further division. -/
def lowered? : Nat → Decimal.Binary64 → Option Decimal.Binary64
  | 0, value => some value
  | times + 1, value =>
      if value.significand = 0 then some value
      else do
        let divisor ← Decimal.tenTo? Decimal.greatestTenth
        lowered? times (← value.over? divisor)

/-- `digits * 10 ^ power` in floating point.  For a power of ten that is out
of range, zero stays zero, other numbers are refused if it is positive, and
divided in several steps if it is negative. -/
def approximation? (negative : Bool) (digits : Nat) (power : Int) :
    Option Decimal.Binary64 := do
  let start ← Decimal.nearest? negative digits 1
  match power with
  | .ofNat up =>
      if digits = 0 then return start
      else start.times? (← Decimal.tenTo? up)
  | .negSucc down =>
      let small ← lowered? (down / Decimal.greatestTenth) start
      small.over? (← Decimal.tenTo? (down % Decimal.greatestTenth + 1))

namespace NumberText

/-- The digits that count as a whole number, with their power of ten.  A digit
before the point that is left over raises the power by one, and one behind the
point that is taken lowers it. -/
def scientific (written : NumberText) : Nat × Int :=
  let whole := takeDigits 0 written.whole
  let all := takeDigits whole.1 written.fraction
  let places : Int := (written.fraction.length : Int) - (all.2 : Int)
  (all.1, written.exponent.getD 0 + (whole.2 : Int) - places)

/-- The number that is written.  An integer that 64 bits hold stays an
integer; minus zero and all else is floating-point, if it is not too large. -/
def value? (written : NumberText) : Option Number :=
  let magnitude := Text.digitsFrom 10 0 written.whole
  let isInteger := written.fraction.isEmpty && written.exponent.isNone
  if isInteger && !written.negative && magnitude < UInt64.size then
    some (.integer magnitude)
  else if isInteger && written.negative && 0 < magnitude &&
      magnitude ≤ 0x8000000000000000 then
    some (.integer (-(magnitude : Int)))
  else
    let parts := written.scientific
    (approximation? written.negative parts.1 parts.2).map .real

end NumberText

end Provision.Json
