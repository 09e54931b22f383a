import Provision.Text.Digits
import Provision.Text.Pieces

/-!
Contract: sets of characters, written as ranges of their code points.

Owns:
- ranges of code points and their written form, `first-last` or one number
  alone, in hexadecimal digits;
- `rangesOf`, which reads a table of such ranges with blanks between them;
- `inRanges`, the test of a character against a table.

Does not own: the tables, or what they stand for.
-/

namespace Provision.Text

/-- The code points from the first to the last, both included. -/
structure CodeRange where
  first : Nat
  last : Nat
deriving DecidableEq, Repr, Inhabited

namespace CodeRange

/-- Whether a code point lies in the range. -/
def contains (range : CodeRange) (code : Nat) : Bool :=
  range.first ≤ code && code ≤ range.last

def ofWord (word : List Char) : CodeRange :=
  match cutAt '-' word with
  | some (first, last) => ⟨digitsFrom 16 0 first, digitsFrom 16 0 last⟩
  | none => ⟨digitsFrom 16 0 word, digitsFrom 16 0 word⟩

/-- A code point lies in a range where it is between both ends. -/
theorem contains_eq_true_iff {range : CodeRange} {code : Nat} :
    range.contains code = true ↔ range.first ≤ code ∧ code ≤ range.last := by
  simp [contains]

end CodeRange

def wordsOf (line : String) : List (List Char) :=
  pieces ' ' line.toList

def rangesOf (lines : List String) : List CodeRange :=
  lines.flatMap fun line => (wordsOf line).map CodeRange.ofWord

/-- Whether a character lies in one of the ranges. -/
def inRanges (ranges : List CodeRange) (character : Char) : Bool :=
  ranges.any fun range => range.contains character.toNat

/-- A character lies in a table where one of the ranges holds it. -/
theorem inRanges_eq_true_iff {ranges : List CodeRange} {character : Char} :
    inRanges ranges character = true ↔
      ∃ range ∈ ranges, range.first ≤ character.toNat ∧
        character.toNat ≤ range.last := by
  simp [inRanges, CodeRange.contains_eq_true_iff]

/-- Whether a character is one of ASCII. -/
def isAscii (character : Char) : Bool :=
  character.toNat < 0x80

end Provision.Text
