import Provision.Decimal.Shortest
import Provision.Text.Digits

/-!
Contract: how digits and the place of the point become text.

Owns:
- `plain`, with zeros and a point wherever they are needed;
- `exponential`, one digit before the point and a signed power of ten;
- `dataText`, the text of a floating-point number inside a data document;
- `positionalText`, which never uses an exponent.

Does not own: the choice of the digits.
-/

namespace Provision.Decimal

/-- The digits without an exponent.  At least one digit stands on each side
of the point. -/
def Digits.plain (shown : Digits) : List Char :=
  let count : Int := shown.digits.length
  if shown.point ≤ 0 then
    ['0', '.'] ++ List.replicate (-shown.point).toNat '0' ++ shown.digits
  else if shown.point < count then
    shown.digits.take shown.point.toNat ++ ['.'] ++
      shown.digits.drop shown.point.toNat
  else
    shown.digits ++ List.replicate (shown.point - count).toNat '0' ++
      ['.', '0']

/-- The digits with one of them before the point and a power of ten. -/
def Digits.exponential (shown : Digits) : List Char :=
  let power := shown.point - 1
  let exponent :=
    (if power < 0 then ['e', '-'] else ['e', '+']) ++
      Text.decimal power.natAbs
  match shown.digits with
  | [] => exponent
  | [digit] => digit :: exponent
  | digit :: others => digit :: '.' :: others ++ exponent

/-- Puts a minus sign in front of the text of a negative number. -/
def signed (negative : Bool) (text : List Char) : List Char :=
  if negative then '-' :: text else text

/-- The text of a number in a data document: plain when the first digit
stands for a power of ten from -5 to 15, with an exponent otherwise. -/
def Binary64.dataText (number : Binary64) : List Char :=
  let shown := number.shortest .even
  let power := shown.point - 1
  signed number.negative
    (if -5 ≤ power && power ≤ 15 then shown.plain else shown.exponential)

/-- The text of a number without an exponent, whatever its size. -/
def Binary64.positionalText (number : Binary64) : List Char :=
  signed number.negative (number.shortest .up).plain

end Provision.Decimal
