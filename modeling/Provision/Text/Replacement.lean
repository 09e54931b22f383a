import Provision.Text.Ranges

/-!
Contract: tables of characters that stand for other characters.

A word of a table is `first-last/step>text`.  The text is written as code
points with a plus sign between them; it belongs to the first character of the
range, and the other characters of the range, each a step further, have it
shifted by the same distance.  Without a step, characters follow each other.
A word that is a text alone belongs to the character after the one before it.

Owns:
- the written form of such a table;
- `replace?`, which looks a character up.

Does not own: the tables, or when a character is replaced.
-/

namespace Provision.Text

/-- The texts of the characters of one range. -/
structure Replacement where
  codes : CodeRange
  step : Nat
  text : List Nat
deriving DecidableEq, Repr, Inhabited

namespace Replacement

/-- The text of one character, where the replacement has one. -/
def text? (replacement : Replacement) (code : Nat) : Option (List Nat) :=
  let distance := code - replacement.codes.first
  if replacement.codes.contains code && distance % replacement.step = 0 then
    some (replacement.text.map fun target => target + distance)
  else none

/-- The code points of a written text. -/
def codesOf (text : List Char) : List Nat :=
  (pieces '+' text).map (digitsFrom 16 0)

/-- The replacement of a word.  The code point is that of a character without
one of its own. -/
def ofWord (next : Nat) (word : List Char) : Replacement :=
  match cutAt '>' word with
  | none => ⟨⟨next, next⟩, 1, codesOf word⟩
  | some (codes, text) =>
      match cutAt '/' codes with
      | none => ⟨CodeRange.ofWord codes, 1, codesOf text⟩
      | some (range, step) =>
          ⟨CodeRange.ofWord range, digitsFrom 16 0 step, codesOf text⟩

/-- The replacements of the words of one line. -/
def ofWords (next : Nat) : List (List Char) → List Replacement
  | [] => []
  | word :: rest =>
      let replacement := ofWord next word
      replacement :: ofWords (replacement.codes.last + 1) rest

end Replacement

/-- The replacements of a table.  The first word of each line names its
characters. -/
def replacementsOf (lines : List String) : List Replacement :=
  lines.flatMap fun line => Replacement.ofWords 0 (wordsOf line)

/-- The text that stands in a table for a character. -/
def replace? (table : List Replacement) (character : Char) :
    Option (List Char) :=
  (table.findSome? fun replacement =>
    replacement.text? character.toNat).map fun codes => codes.map Char.ofNat

end Provision.Text
