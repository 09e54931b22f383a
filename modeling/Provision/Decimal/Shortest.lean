import Provision.Decimal.Binary64

/-!
Contract: the shortest decimal digits that read back as a number.

Every real in a certain interval around a floating-point number rounds to it.
For one digit, two digits and so on, the two neighbours of the number on the
decimal grid with that many digits are tried; the first grid with a hit gives
the digits.  Seventeen digits always suffice.

Owns:
- the rounding interval of a number, in exact natural arithmetic;
- `shortest`, with the rule for a tie between two hits as a parameter.

Does not own: points, exponents, signs and padding.
-/

namespace Provision.Decimal

/-- Digits with the place of the point: the number is
`0.d₁d₂…dₙ * 10 ^ point`. -/
structure Digits where
  digits : List Char
  point : Int
deriving DecidableEq, Repr

/-- Which neighbour a number halfway between two shortest texts goes to. -/
inductive Tie where
  | even
  | up
deriving DecidableEq, Repr

/-- The reals that round to a number, over one common denominator: the lower
end, the number itself and the upper end. -/
structure Interval where
  low : Nat
  value : Nat
  high : Nat
  denominator : Nat
  endsIncluded : Bool

/-- The rounding interval of a positive number.  Below a power of two the
numbers lie twice as dense, so the lower half-gap is half as wide. -/
def interval (significand : Nat) (exponent : Int) : Interval :=
  let unit := scaled 2 (exponent - 2) 1 1
  let narrow := significand = leastNormal ∧ exponent ≠ leastExponent
  { low := (4 * significand - (if narrow then 1 else 2)) * unit.1
    value := 4 * significand * unit.1
    high := (4 * significand + 2) * unit.1
    denominator := unit.2
    endsIncluded := significand % 2 = 0 }

/-- Whether the grid point `point * 10 ^ power` lies in the interval. -/
def Interval.holds (range : Interval) (point : Nat) (power : Int) : Bool :=
  let parts := scaled 10 power point 1
  let candidate := parts.1 * range.denominator
  let low := range.low * parts.2
  let high := range.high * parts.2
  if range.endsIncluded then low ≤ candidate && candidate ≤ high
  else low < candidate && candidate < high

/-- The number of digits before the point: the least `places` with the
positive fraction below `10 ^ places`, found from a first guess. -/
def decimalPlaces (numerator denominator : Nat) : Int :=
  let guess : Int :=
    ((Nat.toDigits 10 numerator).length : Int) -
      ((Nat.toDigits 10 denominator).length : Int)
  let parts := scaled 10 (-guess) numerator denominator
  if parts.1 < parts.2 then guess else guess + 1

/-- The nearer of the two neighbours that lie in the interval, on the grid
with the given power of ten. -/
def Interval.hit (range : Interval) (tie : Tie) (power : Int) : Option Nat :=
  let parts := scaled 10 (-power) range.value range.denominator
  let below := parts.1 / parts.2
  let twice := 2 * (parts.1 % parts.2)
  match range.holds below power, range.holds (below + 1) power with
  | false, false => none
  | true, false => some below
  | false, true => some (below + 1)
  | true, true =>
      if twice < parts.2 then some below
      else if parts.2 < twice then some (below + 1)
      else match tie with
        | .up => some (below + 1)
        | .even => some (below + below % 2)

/-- Tries the grids from `digits` digits on, with a bound on their number. -/
def Interval.search (range : Interval) (tie : Tie) (places : Int) :
    Nat → Int → Nat × Int
  | 0, digits => (range.value / range.denominator, places - digits)
  | more + 1, digits =>
      match range.hit tie (places - digits) with
      | some point => (point, places - digits)
      | none => range.search tie places more (digits + 1)

/-- Takes trailing zeros off, but never the last digit. -/
def withoutTrailingZeros (digits : List Char) : List Char :=
  match (digits.reverse.dropWhile (· = '0')).reverse with
  | [] => ['0']
  | kept => kept

/-- The shortest digits that read back as the number. -/
def Binary64.shortest (tie : Tie) (number : Binary64) : Digits :=
  if number.significand = 0 then ⟨['0'], 1⟩
  else
    let range := interval number.significand number.exponent
    let places := decimalPlaces range.value range.denominator
    let found := range.search tie places 18 1
    let digits := Nat.toDigits 10 found.1
    ⟨withoutTrailingZeros digits, (digits.length : Int) + found.2⟩

end Provision.Decimal
