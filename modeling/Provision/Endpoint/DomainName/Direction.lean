import Provision.Text.Mark

/-!
Contract: labels of a domain name that are read in one direction.

A name with a letter that is read from the right must not look like another
name.  So each of its labels begins with a letter, ends with a letter or a
digit, and holds no character that is read in the other direction.

Owns:
- the direction of a character that a name may hold;
- `isOneWay`, the condition on a label.

Does not own: the direction of characters that occur in no name.
-/

namespace Provision.Endpoint.DomainName

/-- How a character takes part in the direction of a text. -/
inductive Direction where
  | leftward
  | rightward
  | arabicLetter
  | digit
  | arabicDigit
  | sign
  | mark
deriving DecidableEq, Repr

namespace Direction

/-- Letters that are read from right to left. -/
def leftwardCharacters : List Text.CodeRange := Text.rangesOf
  ["5be-5f4 7c0-7f5 7fa-85e 10800-1091b 10920-10b35 10b40-10cff 10d4a-10d4f",
   "10d6f-10d8f 10e80-10eb1 10f00-10f27 10f70-10ff6 1e800-1e95f"]

/-- Letters of Arabic and its kin, which are read from right to left too. -/
def arabicLetters : List Text.CodeRange := Text.rangesOf
  ["608 60b 60d 61b-64a 66d-6d5 6e5-6e6 6ee-6ef 6fa-7b1 860-8c9 fbb2-fbc2",
   "fe73 10d00-10d23 10ec2-10ec7 10f30-10f59 1ec71-1ed3d"]

def arabicDigits : List Text.CodeRange := Text.rangesOf
  ["660-669 66b-66c 10d30-10d49 10e60-10e7e"]

/-- Digits in all other scripts that follow the text around them. -/
def digits : List Text.CodeRange := Text.rangesOf
  ["30-39 6f0-6f9 102e1-102fb"]

/-- Signs, which have no direction of their own. -/
def signs : List Text.CodeRange := Text.rangesOf
  ["21-2d 3b-60 7b-d7 f7 2b9-2ba 2c2-2cf 2d2-2ed 2ef-2ff 375 3f6 58a-58f",
   "606-607 609-60a 60c 60e-60f 66a 6de 6e9 7f6-7f9 9f2-9f3 9fb af1 bf3-bfa",
   "c78-c7e e3f f3a-f3d 1390-1399 1400 169b-169c 17db 17f0-180a 1940-1945",
   "19de-19ff 200c-214d 218a-2335 237b-2394 2396-26ab 26ad-27ff 2900-2bff",
   "2ce5-2cea 2cf9-2cff 2e00-3004 3008-3020 3030 3037 303d-303f 30a0 30fb",
   "31c0-31e5 4dc0-4dff a490-a4c6 a60d-a60f a673-a67f a700-a721 a788",
   "a828-a82b a838-a839 a874-a877 ab6a-ab6b fbc3-fe46 10101 10140-1018c",
   "10190-101a0 1091f 10b39-10b3f 10d6e 10ed0-10ed8 11052-11065 11660-1166c",
   "11fd5-11ff1 16fe2 1cc00-1cef0 1d1e9-1d245 1d300-1d356 1e2ff 1eef0-1f12f",
   "1f16d-1f16f 1f1ad 1f260-1fbfa"]

/-- Marks that have a direction of their own. -/
def directedMarks : List Text.CodeRange := Text.rangesOf
  ["cbf cc6 11a07-11a08 11c3f"]

/-- The direction of a character of a name. -/
def of (character : Char) : Direction :=
  if Text.inRanges directedMarks character then .rightward
  else if Text.isNonspacing character then .mark
  else if Text.inRanges leftwardCharacters character then .leftward
  else if Text.inRanges arabicLetters character then .arabicLetter
  else if Text.inRanges arabicDigits character then .arabicDigit
  else if Text.inRanges digits character then .digit
  else if Text.inRanges signs character then .sign
  else .rightward

/-- Whether a direction makes a name one that is read from the right. -/
def isFromRight (direction : Direction) : Bool :=
  direction = .leftward || direction = .arabicLetter ||
    direction = .arabicDigit

/-- What may stand at the end of a label, marks apart. -/
def mayEnd (fromRight : Bool) : Direction → Bool
  | .rightward => !fromRight
  | .digit => true
  | .leftward | .arabicLetter | .arabicDigit => fromRight
  | .sign | .mark => false

def mayStand (fromRight : Bool) : Direction → Bool
  | .rightward => !fromRight
  | .digit | .sign | .mark => true
  | .leftward | .arabicLetter | .arabicDigit => fromRight

/-- Whether the directions behind the first letter of a label agree with it. -/
def agree (fromRight : Bool) (others : List Direction) : Bool :=
  match others.reverse.dropWhile (· = .mark) with
  | [] => true
  | last :: before =>
      last.mayEnd fromRight && before.all (mayStand fromRight) &&
        !(fromRight && others.contains .digit &&
          others.contains .arabicDigit)

/-- Whether the directions are those of a label that is read in one way. -/
def areOneWay : List Direction → Bool
  | [] => true
  | .rightward :: others => agree false others
  | .leftward :: others => agree true others
  | .arabicLetter :: others => agree true others
  | _ => false

end Direction

/-- Whether a label has a character that is read from the right. -/
def isFromRight (label : List Char) : Bool :=
  label.any fun character =>
    !Text.isAscii character && (Direction.of character).isFromRight

/-- Whether a label is read in one direction. -/
def isOneWay (label : List Char) : Bool :=
  Direction.areOneWay (label.map Direction.of)

end Provision.Endpoint.DomainName
