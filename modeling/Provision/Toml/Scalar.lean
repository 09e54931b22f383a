import Provision.Decimal.Binary64
import Provision.Decimal.Layout
import Provision.Entry.Datum

/-!
Contract: flags, numbers and moments of a batch file.

Owns:
- whole numbers in four bases, of at most sixty-four bits;
- floating-point numbers, infinities and the number that is none;
- dates and times, which are checked against the calendar.

Does not own: where a word ends in the text.
-/

namespace Provision.Toml

/-- The digits of a number, in which single underscores may stand. -/
def readDigits (base : Nat) (written : List Char) : Option (List Char) :=
  let groups := Text.pieces '_' written
  if groups.all fun group =>
      !group.isEmpty && group.all (Text.isDigitOf base) then
    some groups.flatten
  else none

/-- Whether digits begin with a zero that they need not have. -/
def hasIdleZero (digits : List Char) : Bool :=
  digits.head? = some '0' && 1 < digits.length

/-- A sign in front of a number: whether it is a minus sign. -/
def cutSign : List Char → Bool × List Char
  | '-' :: rest => (true, rest)
  | '+' :: rest => (false, rest)
  | text => (false, text)

/-- A whole number in the range of sixty-four bits, with or without sign. -/
def boundedInteger (value : Int) : Option Datum :=
  if -0x8000000000000000 ≤ value ∧ value < 0x10000000000000000 then
    some (.integer value)
  else none

/-- A whole number. -/
def readInteger (word : List Char) : Option Datum :=
  let based := fun (base : Nat) (digits : List Char) =>
    (readDigits base digits).bind fun digits =>
      boundedInteger (Text.digitsFrom base 0 digits)
  match word with
  | '0' :: 'x' :: digits => based 16 digits
  | '0' :: 'o' :: digits => based 8 digits
  | '0' :: 'b' :: digits => based 2 digits
  | _ => do
      let (negative, written) := cutSign word
      let digits ← readDigits 10 written
      if hasIdleZero digits then none
      else
        let magnitude : Int := Text.digitsFrom 10 0 digits
        boundedInteger (if negative then -magnitude else magnitude)

/-- The power of ten behind its mark. -/
def readPower (word : List Char) : Option Int := do
  let (negative, written) := cutSign word
  let digits ← readDigits 10 written
  let magnitude : Int := Text.digitsFrom 10 0 digits
  some (if negative then -magnitude else magnitude)

/-- The text before a mark of one of two characters, and the text after it if
the mark occurs. -/
def cutEither (first second : Char) (word : List Char) :
    List Char × Option (List Char) :=
  let isMark := fun character => character = first || character = second
  match word.dropWhile fun character => !isMark character with
  | _ :: after => (word.takeWhile fun character => !isMark character, some after)
  | [] => (word, none)

/-- The digits and the power of ten of a number with a point or a power. -/
def readReal (word : List Char) : Option Datum := do
  let (negative, unsigned) := cutSign word
  let (mantissa, power) := cutEither 'e' 'E' unsigned
  let (whole, fraction) := cutEither '.' '.' mantissa
  if power.isNone && fraction.isNone then none
  else
    let wholeDigits ← readDigits 10 whole
    let fractionDigits ← match fraction with
      | some written => readDigits 10 written
      | none => some []
    let exponent ← match power with
      | some written => readPower written
      | none => some 0
    if hasIdleZero wholeDigits then none
    else
      let digits := Text.digitsFrom 10 0 (wholeDigits ++ fractionDigits)
      let number ← Decimal.ofDecimal? negative digits
        (exponent - (fractionDigits.length : Int))
      some (.real (String.ofList number.positionalText))

/-- An infinity, or the number that is none. -/
def readSpecial (word : List Char) : Option Datum :=
  let (negative, unsigned) := cutSign word
  if unsigned = "inf".toList then
    some (.real (if negative then "-inf" else "inf"))
  else if unsigned = "nan".toList then some (.real "NaN")
  else none

/-! ## Moments -/

/-- A number of exactly so many digits at the front. -/
def cutDigits (width : Nat) (text : List Char) : Option (Nat × List Char) :=
  let digits := text.take width
  if digits.length < width then none
  else (Text.readNatural 10 digits).map fun value => (value, text.drop width)

/-- Whether a year has a day more than others. -/
def isLeap (year : Nat) : Bool :=
  year % 4 = 0 && (year % 100 ≠ 0 || year % 400 = 0)

/-- The number of days in a month. -/
def daysIn (year month : Nat) : Nat :=
  if month = 2 then (if isLeap year then 29 else 28)
  else if [4, 6, 9, 11].contains month then 30
  else 31

/-- The text behind a date. -/
def skipDate (text : List Char) : Option (List Char) := do
  let (year, rest) ← cutDigits 4 text
  let (month, rest) ← Text.after? ['-'] rest >>= cutDigits 2
  let (day, rest) ← Text.after? ['-'] rest >>= cutDigits 2
  if 1 ≤ month && month ≤ 12 && 1 ≤ day && day ≤ daysIn year month then
    some rest
  else none

/-- A date, and the text behind it. -/
def cutDate (text : List Char) : Option (List Char × List Char) :=
  (skipDate text).map fun rest => (text.take 10, rest)

/-- The text behind an hour and a minute. -/
def skipMinutes (text : List Char) : Option (List Char) := do
  let (hour, rest) ← cutDigits 2 text
  let (minute, rest) ← Text.after? [':'] rest >>= cutDigits 2
  if 23 < hour || 59 < minute then none else some rest

/-- The fraction of a second as it is kept: at most nine digits, without the
zeros at its end, and nothing where no digit is left. -/
def keptFraction (digits : List Char) : List Char :=
  match ((digits.take 9).reverse.dropWhile (· = '0')).reverse with
  | [] => []
  | kept => '.' :: kept

/-- The fraction of a second, if there is one, and the text behind it. -/
def cutFraction : List Char → Option (List Char × List Char)
  | '.' :: rest =>
      let digits := rest.takeWhile Text.isDecimal
      if digits.isEmpty then none
      else some (keptFraction digits, rest.dropWhile Text.isDecimal)
  | text => some ([], text)

/-- The seconds of a time, which are none where they are left out, and the
text behind them. -/
def cutSeconds : List Char → Option (List Char × List Char)
  | ':' :: text => do
      let (second, rest) ← cutDigits 2 text
      if 60 < second then none
      else
        let (fraction, after) ← cutFraction rest
        some (':' :: text.take 2 ++ fraction, after)
  | text => some (":00".toList, text)

/-- A time of the day, and the text behind it. -/
def cutTime (text : List Char) : Option (List Char × List Char) := do
  let (seconds, after) ← cutSeconds (← skipMinutes text)
  some (text.take 5 ++ seconds, after)

/-- The distance to universal time, if it is given, and the text behind it.
No distance is a forward one. -/
def cutOffset (text : List Char) : Option (List Char × List Char) :=
  match text with
  | 'Z' :: rest => some (['Z'], rest)
  | 'z' :: rest => some (['Z'], rest)
  | '+' :: rest =>
      (skipMinutes rest).map fun after => ('+' :: rest.take 5, after)
  | '-' :: rest =>
      (skipMinutes rest).map fun after =>
        let distance := rest.take 5
        ((if distance = "00:00".toList then '+' else '-') :: distance, after)
  | _ => some ([], text)

/-- A date, a time, or a date with a time, as it is shown. -/
def shownMoment (word : List Char) : Option (List Char) :=
  match cutDate word with
  | some (date, []) => some date
  | some (date, mark :: rest) =>
      if [' ', 'T', 't'].contains mark then
        match cutTime rest with
        | none => none
        | some (time, after) =>
            match cutOffset after with
            | some (offset, []) => some (date ++ 'T' :: time ++ offset)
            | _ => none
      else none
  | none =>
      match cutTime word with
      | some (time, []) => some time
      | _ => none

/-- The one member of the record that a moment is read as. -/
def momentMember : String := "$__toml_private_datetime"

/-- A moment, as a record that no other value is. -/
def readMoment (word : List Char) : Option Datum :=
  (shownMoment word).map fun shown =>
    .record [(momentMember, .text (String.ofList shown))]

def readWord (word : List Char) : Option Datum :=
  if word = "true".toList then some (.boolean true)
  else if word = "false".toList then some (.boolean false)
  else
    (readInteger word).orElse fun _ =>
      (readSpecial word).orElse fun _ =>
        (readReal word).orElse fun _ => readMoment word

end Provision.Toml
