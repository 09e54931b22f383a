import Provision.Members
import Provision.Decimal.Layout

/-!
Contract: data documents as trees.

Owns:
- the tree `Json` with numbers that keep integers exact;
- decidable equality of trees, by recursion on both sides at once;
- the look-ups that ask for one shape and answer nothing for another.

Does not own: text.  Reading and printing stand in modules of their own.
-/

namespace Provision

/-- A number of a data document: an integer of at most 64 bits, signed or
unsigned, or a floating-point number. -/
inductive Json.Number where
  | integer (value : Int)
  | real (value : Decimal.Binary64)
deriving DecidableEq, Repr

/-- A data document. -/
inductive Json where
  | null
  | boolean (value : Bool)
  | number (value : Json.Number)
  | string (value : String)
  | array (items : List Json)
  | object (members : List (String × Json))
deriving Repr, Inhabited

namespace Json

mutual

/-- Equality of trees is decidable. -/
def decideEqual : (left right : Json) → Decidable (left = right)
  | .null, .null => isTrue rfl
  | .boolean left, .boolean right =>
      if same : left = right then isTrue (by rw [same])
      else isFalse fun equal => same (by injection equal)
  | .number left, .number right =>
      if same : left = right then isTrue (by rw [same])
      else isFalse fun equal => same (by injection equal)
  | .string left, .string right =>
      if same : left = right then isTrue (by rw [same])
      else isFalse fun equal => same (by injection equal)
  | .array left, .array right =>
      match decideEqualItems left right with
      | isTrue same => isTrue (by rw [same])
      | isFalse other => isFalse fun equal => other (by injection equal)
  | .object left, .object right =>
      match decideEqualMembers left right with
      | isTrue same => isTrue (by rw [same])
      | isFalse other => isFalse fun equal => other (by injection equal)
  | .null, .boolean _ | .null, .number _ | .null, .string _ | .null, .array _
  | .null, .object _ | .boolean _, .null | .boolean _, .number _
  | .boolean _, .string _ | .boolean _, .array _ | .boolean _, .object _
  | .number _, .null | .number _, .boolean _ | .number _, .string _
  | .number _, .array _ | .number _, .object _ | .string _, .null
  | .string _, .boolean _ | .string _, .number _ | .string _, .array _
  | .string _, .object _ | .array _, .null | .array _, .boolean _
  | .array _, .number _ | .array _, .string _ | .array _, .object _
  | .object _, .null | .object _, .boolean _ | .object _, .number _
  | .object _, .string _ | .object _, .array _ => isFalse (by simp)

/-- Equality of lists of trees is decidable. -/
def decideEqualItems : (left right : List Json) → Decidable (left = right)
  | [], [] => isTrue rfl
  | [], _ :: _ => isFalse (by simp)
  | _ :: _, [] => isFalse (by simp)
  | left :: lefts, right :: rights =>
      match decideEqual left right, decideEqualItems lefts rights with
      | isTrue first, isTrue others => isTrue (by rw [first, others])
      | isFalse first, _ => isFalse fun equal => first (by injection equal)
      | _, isFalse others => isFalse fun equal => others (by injection equal)

/-- Equality of lists of members is decidable. -/
def decideEqualMembers :
    (left right : List (String × Json)) → Decidable (left = right)
  | [], [] => isTrue rfl
  | [], _ :: _ => isFalse (by simp)
  | _ :: _, [] => isFalse (by simp)
  | (leftName, left) :: lefts, (rightName, right) :: rights =>
      if name : leftName = rightName then
        match decideEqual left right, decideEqualMembers lefts rights with
        | isTrue first, isTrue others => isTrue (by rw [name, first, others])
        | isFalse first, _ =>
            isFalse fun equal => first (by
              injection equal with pair _
              injection pair)
        | _, isFalse others => isFalse fun equal => others (by injection equal)
      else
        isFalse fun equal => name (by
          injection equal with pair _
          injection pair)

end

instance : DecidableEq Json := decideEqual

def string? : Json → Option String
  | .string value => some value
  | _ => none

def items? : Json → Option (List Json)
  | .array items => some items
  | _ => none

def members? : Json → Option (Members Json)
  | .object members => some members
  | _ => none

end Json

end Provision
