import Provision.Text.Decomposition

/-!
Contract: letters and marks put together as far as one character can say it.

Owns:
- the composite of two characters;
- `compose`, the composed form of a text, which is the same for all texts
  with the same parts.

Does not own: the parts of a character.
-/

namespace Provision.Text

/-- The character that is made of the parts of two others. -/
def composite? (left right : Char) : Option Char :=
  match Hangul.syllable? left right with
  | some syllable => some syllable
  | none =>
      let wanted := (partsOf left ++ [right]).map Char.toNat
      (composites.find? fun entry => entry.text = wanted).map fun entry =>
        Char.ofNat entry.codes.first

/-- A letter while marks are put on it: the marks that stay are kept from the
last one, with the combining class of that. -/
structure Joint where
  letter : Char
  kept : List Char
  lastOrder : Option Nat

namespace Joint

/-- The letter and the marks that stayed. -/
def text (joint : Joint) : List Char :=
  joint.letter :: joint.kept.reverse

/-- Whether the last mark that stayed keeps one of an order from the letter. -/
def blocks (joint : Joint) (order : Nat) : Bool :=
  match joint.lastOrder with
  | some last => order ≤ last
  | none => false

end Joint

/-- Puts the characters behind a letter together with it where they may be.
A character of order zero that stays begins anew. -/
def composeFrom (joint : Joint) : List (Char × Nat) → List Char
  | [] => joint.text
  | (character, order) :: rest =>
      let joined := if joint.blocks order then none
        else composite? joint.letter character
      match joined with
      | some letter => composeFrom { joint with letter } rest
      | none =>
          if order = 0 then
            joint.text ++ composeFrom ⟨character, [], none⟩ rest
          else
            composeFrom
              { joint with
                kept := character :: joint.kept
                lastOrder := some order }
              rest

/-- Composes a text of ordered parts; marks in front of the first letter have
no letter to be put on. -/
def composeParts : List (Char × Nat) → List Char
  | [] => []
  | (character, order) :: rest =>
      if order = 0 then composeFrom ⟨character, [], none⟩ rest
      else character :: composeParts rest

/-- The composed form of a text.  A text of ASCII has no parts. -/
def compose (text : List Char) : List Char :=
  if text.all isAscii then text else composeParts (decompose text)

/-- A text of ASCII is composed already. -/
theorem compose_eq_self_of_all_isAscii {text : List Char}
    (allAscii : ∀ character ∈ text, isAscii character = true) :
    compose text = text :=
  if_pos (List.all_eq_true.mpr allAscii)

end Provision.Text
