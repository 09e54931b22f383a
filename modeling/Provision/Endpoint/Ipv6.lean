import Provision.Text.Digits
import Provision.Text.Pieces

/-!
Contract: host addresses of one hundred and twenty-eight bits.

An address has eight groups of up to four hexadecimal digits.  One double
colon may stand for at least one group of zeros, and the last two groups may
be written as four decimal bytes.

Owns:
- the address as its groups;
- `parse?` and the text, which shortens the longest run of zeros.

Does not own: the brackets around the address.
-/

namespace Provision.Endpoint

/-- A host address: eight numbers of sixteen bits. -/
structure Ipv6 where
  groups : List Nat
deriving DecidableEq, Repr

namespace Ipv6

/-- The number of groups in an address. -/
def size : Nat := 8

def readGroup (digits : List Char) : Option Nat :=
  if 4 < digits.length then none else Text.readNatural 16 digits

/-- Reads one decimal byte, which has no leading zeros. -/
def readByte (digits : List Char) : Option Nat :=
  match digits with
  | '0' :: _ :: _ => none
  | _ => (Text.readNatural 10 digits).filter fun value => value ≤ 255

/-- Reads two groups that are written as four bytes. -/
def readBytes (part : List Char) : Option (List Nat) := do
  let bytes ← (Text.pieces '.' part).mapM readByte
  match bytes with
  | [first, second, third, fourth] =>
      some [first * 256 + second, third * 256 + fourth]
  | _ => none

/-- Reads the groups of a text; only the last part may be four bytes. -/
def readParts : List (List Char) → Option (List Nat)
  | [] => some []
  | [last] =>
      if last.contains '.' then readBytes last
      else (readGroup last).map fun group => [group]
  | part :: rest => do
      let group ← readGroup part
      let others ← readParts rest
      some (group :: others)

/-- Reads the groups on one side of a double colon, where none need be. -/
def readSide (side : List Char) : Option (List Nat) :=
  if side.isEmpty then some [] else readParts (Text.pieces ':' side)

/-- The text before and after the first double colon. -/
def cutAtDouble : List Char → Option (List Char × List Char)
  | ':' :: ':' :: rest => some ([], rest)
  | head :: rest =>
      (cutAtDouble rest).map fun sides => (head :: sides.1, sides.2)
  | [] => none

def parse? (text : List Char) : Option Ipv6 :=
  match cutAtDouble text with
  | none => do
      let groups ← readParts (Text.pieces ':' text)
      if groups.length = size then some ⟨groups⟩ else none
  | some (before, after) => do
      if before.contains '.' then none
      else
        let left ← readSide before
        let right ← readSide after
        if left.length + right.length < size then
          some ⟨left ++ List.replicate
            (size - (left.length + right.length)) 0 ++ right⟩
        else none

/-- The length of the run of zeros at the front. -/
def zeros (groups : List Nat) : Nat :=
  (groups.takeWhile (· = 0)).length

/-- The length of the longest run of zeros. -/
def longestZeros : List Nat → Nat
  | [] => 0
  | group :: rest => max (zeros (group :: rest)) (longestZeros rest)

def groupsText (groups : List Nat) : String :=
  Text.glue ":" (groups.map fun group =>
    String.ofList (Text.hexadecimal group))

/-- Writes the groups, with a double colon for the first run of a length. -/
def shorten (length : Nat) (before : List Nat) : List Nat → String
  | [] => groupsText before
  | group :: rest =>
      if zeros (group :: rest) = length then
        groupsText before ++ "::" ++ groupsText ((group :: rest).drop length)
      else shorten length (before ++ [group]) rest

/-- The shortest text: the first of the longest runs of at least two zeros is
a double colon. -/
def text (address : Ipv6) : String :=
  let longest := longestZeros address.groups
  if longest < 2 then groupsText address.groups
  else shorten longest [] address.groups

end Ipv6

end Provision.Endpoint
