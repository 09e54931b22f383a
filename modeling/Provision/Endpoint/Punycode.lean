import Provision.Text.Digits

/-!
Contract: the encoding of international labels in letters, digits and hyphens.

Owns:
- the bias and the thresholds of the encoding;
- `encode`, which writes the characters outside ASCII as differences;
- `decode?`, which reads them back.

Does not own: which labels are encoded, and the mark in front of them.
-/

namespace Provision.Endpoint.Punycode

def base : Nat := 36

def leastThreshold : Nat := 1

def greatestThreshold : Nat := 26

def firstBias : Nat := 72

/-- The first code point that is written as a difference. -/
def firstCode : Nat := 128

/-- The threshold of the digit at a place. -/
def threshold (place bias : Nat) : Nat :=
  min greatestThreshold (max leastThreshold (place - bias))

/-- Divides a difference down until it is small, counting the places. -/
def settle (difference places : Nat) : Nat × Nat :=
  if 455 < difference then settle (difference / 35) (places + base)
  else (difference, places)
termination_by difference

def adapt (difference count : Nat) (isFirst : Bool) : Nat :=
  let damped := if isFirst then difference / 700 else difference / 2
  let settled := settle (damped + damped / count) 0
  settled.2 + 36 * settled.1 / (settled.1 + 38)

def digit (value : Nat) : Char :=
  if value < 26 then Char.ofNat (0x61 + value)
  else Char.ofNat (0x30 + value - 26)

/-- The value of a digit in either case. -/
def digitValue (character : Char) : Option Nat :=
  let code := character.toNat
  if 0x61 ≤ code && code ≤ 0x7a then some (code - 0x61)
  else if 0x41 ≤ code && code ≤ 0x5a then some (code - 0x41)
  else if 0x30 ≤ code && code ≤ 0x39 then some (code - 0x30 + 26)
  else none

/-- A digit that is written is read with the same value. -/
theorem digitValue_digit {value : Nat} (small : value < base) :
    digitValue (digit value) = some value := by
  have each : ∀ other ∈ List.range base,
      digitValue (digit other) = some other := by decide
  exact each value (List.mem_range.mpr small)

/-- The digits of a difference, with a bound on their number. -/
def writeDifference (bias : Nat) : Nat → Nat → Nat → List Char
  | 0, _, rest => [digit rest]
  | bound + 1, place, rest =>
      let limit := threshold place bias
      if rest < limit then [digit rest]
      else
        digit (limit + (rest - limit) % (base - limit)) ::
          writeDifference bias bound (place + base)
            ((rest - limit) / (base - limit))

/-- The state while a label is written: the next code point, the difference
so far, the bias, the number of characters already placed, and the digits. -/
structure Writing where
  code : Nat
  difference : Nat
  bias : Nat
  placed : Nat
  isFirst : Bool
  written : List Char

/-- Passes over the label once: counts the characters before the one that is
looked for, and writes a difference at each place where it stands. -/
def writeCode (state : Writing) : List Nat → Writing
  | [] => state
  | code :: rest =>
      if code < state.code then
        writeCode { state with difference := state.difference + 1 } rest
      else if code = state.code then
        writeCode
          { state with
            difference := 0
            bias := adapt state.difference (state.placed + 1) state.isFirst
            placed := state.placed + 1
            isFirst := false
            written := state.written ++
              writeDifference state.bias 32 base state.difference }
          rest
      else writeCode state rest

/-- Writes the code points in ascending order. -/
def writeCodes (label : List Nat) (state : Writing) : List Nat → Writing
  | [] => state
  | code :: rest =>
      let skipped := (code - state.code) * (state.placed + 1)
      let after := writeCode
        { state with code, difference := state.difference + skipped } label
      writeCodes label
        { after with code := code + 1, difference := after.difference + 1 }
        rest

/-- The encoded label, without the mark in front of it. -/
def encode (label : List Char) : List Char :=
  let codes := label.map Char.toNat
  let basic := label.filter fun character => character.toNat < firstCode
  let others := ((codes.filter fun code => firstCode ≤ code).eraseDups).mergeSort
    fun left right => left ≤ right
  let start := if basic.isEmpty then [] else basic ++ ['-']
  (writeCodes codes
    ⟨firstCode, 0, firstBias, basic.length, true, start⟩ others).written

/-- The greatest number that reading works with. -/
def greatest : Nat := 0xffffffff

/-- Reads the digits of one difference onto the value so far: the sum, and the
digits after it.  A number that grows too large is refused. -/
def readDifference (bias : Nat) :
    Nat → Nat → Nat → List Char → Option (Nat × List Char)
  | _, _, _, [] => none
  | place, weight, value, character :: rest =>
      match digitValue character with
      | none => none
      | some read =>
          let sum := value + read * weight
          let limit := threshold place bias
          if greatest < sum then none
          else if read < limit then some (sum, rest)
          else if greatest < weight * (base - limit) then none
          else
            readDifference bias (place + base) (weight * (base - limit)) sum
              rest

/-- Reads all differences and puts the characters in place.  Each difference
is counted on from the place of the character before it. -/
def readCodes (bound : Nat) (code place bias : Nat) (isFirst : Bool)
    (placed : List Nat) (text : List Char) : Option (List Nat) :=
  match bound, text with
  | _, [] => some placed
  | 0, _ => none
  | bound + 1, text =>
      match readDifference bias base 1 place text with
      | none => none
      | some (total, rest) =>
          let count := placed.length + 1
          let next := code + total / count
          let position := total % count
          if 0x10ffff < next || (0xd800 ≤ next && next ≤ 0xdfff) then none
          else
            readCodes bound next (position + 1)
              (adapt (total - place) count isFirst) false
              (placed.take position ++ next :: placed.drop position) rest

/-- The text after the last hyphen, and the text before it.  A hyphen in front
of all else is none that parts them. -/
def splitLastHyphen (text : List Char) : List Char × List Char :=
  let reversed := text.reverse
  let after := (reversed.takeWhile (· ≠ '-')).reverse
  match reversed.dropWhile (· ≠ '-') with
  | [] => ([], text)
  | [_] => ([], text)
  | _ :: before => (before.reverse, after)

def decode? (text : List Char) : Option (List Char) :=
  let parts := splitLastHyphen text
  (readCodes parts.2.length firstCode 0 firstBias true
    (parts.1.map Char.toNat) parts.2).map fun codes =>
      codes.map Char.ofNat

end Provision.Endpoint.Punycode
