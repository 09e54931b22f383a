import Provision.Json.Printer
import Provision.Text.Pieces

/-!
Contract: attribute values and ordered sets of attributes.

There is no value for "absent": an attribute that is absent is not in its
set.  The steps that decide whether an attribute goes in stand here and
nowhere else.

Owns:
- the values: scalars, lists, and nested sets;
- the steps that build a set, with the rule that a name keeps its place;
- the three readings of a value: data document, display and parameter.

Does not own: which attributes a resource has.
-/

namespace Provision

/-- A primitive value.  Kinds are never converted into one another. -/
inductive Scalar where
  | text (value : String)
  | integer (value : Int64)
  | boolean (value : Bool)
deriving DecidableEq, Repr

/-- The value of an attribute.  A nested set is the list of its members. -/
inductive Value where
  | scalar (value : Scalar)
  | list (items : List Value)
  | nested (members : List (String × Value))
deriving Repr, Inhabited

abbrev ValueSet := Members Value

namespace Scalar

/-- The text of a scalar in its natural form. -/
def shown : Scalar → String
  | .text value => value
  | .integer value => String.ofList (Text.integerText value.toInt)
  | .boolean true => "true"
  | .boolean false => "false"

/-- The scalar of a natural number below `2 ^ 63`. -/
def ofNatural (value : Nat) : Scalar :=
  .integer (Int64.ofNat value)

/-- Whether the scalar is a text without characters. -/
def isEmptyText : Scalar → Bool
  | .text value => value = ""
  | _ => false

def toJson : Scalar → Json
  | .text value => .string value
  | .integer value => .number (.integer value.toInt)
  | .boolean value => .boolean value

end Scalar

namespace Value

def text (value : String) : Value :=
  .scalar (.text value)

def boolean (value : Bool) : Value :=
  .scalar (.boolean value)

def integer (value : Int64) : Value :=
  .scalar (.integer value)

mutual

/-- Equality of values is decidable. -/
def decideEqual : (left right : Value) → Decidable (left = right)
  | .scalar left, .scalar right =>
      if same : left = right then isTrue (by rw [same])
      else isFalse fun equal => same (by injection equal)
  | .list left, .list right =>
      match decideEqualItems left right with
      | isTrue same => isTrue (by rw [same])
      | isFalse other => isFalse fun equal => other (by injection equal)
  | .nested left, .nested right =>
      match decideEqualMembers left right with
      | isTrue same => isTrue (by rw [same])
      | isFalse other => isFalse fun equal => other (by injection equal)
  | .scalar _, .list _ | .scalar _, .nested _ | .list _, .scalar _
  | .list _, .nested _ | .nested _, .scalar _ | .nested _, .list _ =>
      isFalse (by simp)

/-- Equality of lists of values is decidable. -/
def decideEqualItems : (left right : List Value) → Decidable (left = right)
  | [], [] => isTrue rfl
  | [], _ :: _ => isFalse (by simp)
  | _ :: _, [] => isFalse (by simp)
  | left :: lefts, right :: rights =>
      match decideEqual left right, decideEqualItems lefts rights with
      | isTrue first, isTrue others => isTrue (by rw [first, others])
      | isFalse first, _ => isFalse fun equal => first (by injection equal)
      | _, isFalse others => isFalse fun equal => others (by injection equal)

/-- Equality of lists of members is decidable. -/
def decideEqualMembers :
    (left right : List (String × Value)) → Decidable (left = right)
  | [], [] => isTrue rfl
  | [], _ :: _ => isFalse (by simp)
  | _ :: _, [] => isFalse (by simp)
  | (leftName, left) :: lefts, (rightName, right) :: rights =>
      if name : leftName = rightName then
        match decideEqual left right, decideEqualMembers lefts rights with
        | isTrue first, isTrue others => isTrue (by rw [name, first, others])
        | isFalse first, _ =>
            isFalse fun equal => first (by
              injection equal with pair _
              injection pair)
        | _, isFalse others => isFalse fun equal => others (by injection equal)
      else
        isFalse fun equal => name (by
          injection equal with pair _
          injection pair)

end

instance : DecidableEq Value := decideEqual

mutual

def toJson : Value → Json
  | .scalar value => value.toJson
  | .list items => .array (itemsToJson items)
  | .nested members => .object (membersToJson members)

/-- A list of values as the items of an array. -/
def itemsToJson : List Value → List Json
  | [] => []
  | item :: rest => toJson item :: itemsToJson rest

/-- A set of attributes as the members of an object. -/
def membersToJson : List (String × Value) → List (String × Json)
  | [] => []
  | (name, value) :: rest => (name, toJson value) :: membersToJson rest

end

def scalar? : Value → Option Scalar
  | .scalar value => some value
  | _ => none

def isScalar (value : Value) : Bool :=
  value.scalar?.isSome

/-- The value as it is shown: a scalar in its natural form, a list or a set
as the text of its data document. -/
def shown : Value → String
  | .scalar value => value.shown
  | value => value.toJson.compactText

/-- The value as one parameter.  A list of scalars is written with single
blanks between the items; all else is shown as it is. -/
def parameter : Value → String
  | .list items =>
      if items.all isScalar then Text.glue " " (items.map shown)
      else (Value.list items).shown
  | value => value.shown

/-- The integer value of a number, where it has one of 64 bits with sign. -/
def ofInt? (number : Int) : Option Int64 :=
  if -0x8000000000000000 ≤ number ∧ number < 0x8000000000000000 then
    some (Int64.ofInt number)
  else none

/-- The value of a number: an integer that has 64 bits with sign, else the
text of the number. -/
def ofNumber (number : Json.Number) : Value :=
  match number with
  | .integer integer =>
      match ofInt? integer with
      | some held => .integer held
      | none => .text (String.ofList number.text)
  | .real _ => .text (String.ofList number.text)

mutual

/-- The value of a data document.  Null stands for "absent" and has no value;
inside arrays and objects it is left out. -/
def ofJson? : Json → Option Value
  | .null => none
  | .boolean value => some (.boolean value)
  | .number number => some (ofNumber number)
  | .string value => some (.text value)
  | .array items => some (.list (itemsOfJson items))
  | .object members =>
      some (.nested (Members.ofPairs (membersOfJson members)))

/-- The values of the items of an array. -/
def itemsOfJson : List Json → List Value
  | [] => []
  | item :: rest =>
      match ofJson? item with
      | some value => value :: itemsOfJson rest
      | none => itemsOfJson rest

/-- The attributes of the members of an object. -/
def membersOfJson : List (String × Json) → List (String × Value)
  | [] => []
  | (name, item) :: rest =>
      match ofJson? item with
      | some value => (name, value) :: membersOfJson rest
      | none => membersOfJson rest

end

end Value

namespace ValueSet

def empty : ValueSet := []

def toJson (values : ValueSet) : Json :=
  (Value.nested values).toJson

def set (values : ValueSet) (name : String) (value : Value) : ValueSet :=
  Members.put name value values

/-- Sets a scalar attribute, unless there is no scalar or its text is empty. -/
def setScalar (values : ValueSet) (name : String) (value : Option Scalar) :
    ValueSet :=
  match value with
  | some scalar =>
      if scalar.isEmptyText then values else values.set name (.scalar scalar)
  | none => values

/-- Sets a text attribute, unless there is no text or it is empty. -/
def setText (values : ValueSet) (name : String) (value : Option String) :
    ValueSet :=
  values.setScalar name (value.map .text)

/-- Sets a truth value, where there is one. -/
def setBoolean (values : ValueSet) (name : String) (value : Option Bool) :
    ValueSet :=
  values.setScalar name (value.map .boolean)

/-- Sets a number, where there is one. -/
def setNumber (values : ValueSet) (name : String) (value : Option Nat) :
    ValueSet :=
  values.setScalar name (value.map .ofNatural)

/-- Sets a list attribute, unless the list is empty. -/
def setList (values : ValueSet) (name : String) (items : List Value) :
    ValueSet :=
  if items.isEmpty then values else values.set name (.list items)

/-- Sets a list of texts, unless the list is empty. -/
def setTexts (values : ValueSet) (name : String) (items : List String) :
    ValueSet :=
  values.setList name (items.map Value.text)

/-- Sets a list of nested sets, unless the list is empty. -/
def setGroups (values : ValueSet) (name : String) (items : List ValueSet) :
    ValueSet :=
  values.setList name (items.map Value.nested)

/-- Sets a nested set, unless there is none or it is empty. -/
def setNested (values : ValueSet) (name : String) (nested : Option ValueSet) :
    ValueSet :=
  match nested with
  | some members =>
      if members.isEmpty then values else values.set name (.nested members)
  | none => values

/-- One step in the making of a set. -/
inductive Step where
  | set (name : String) (value : Value)
  | setScalar (name : String) (value : Option Scalar)
  | setList (name : String) (items : List Value)
  | setNested (name : String) (nested : Option ValueSet)
  | collect (pairs : List (String × Value))
deriving Inhabited

/-- What a step does.  Collecting starts over with the given pairs. -/
def apply (values : ValueSet) : Step → ValueSet
  | .set name value => values.set name value
  | .setScalar name value => values.setScalar name value
  | .setList name items => values.setList name items
  | .setNested name nested => values.setNested name nested
  | .collect pairs => Members.ofPairs pairs

/-- The set that the steps make, starting from the set without attributes. -/
def build (steps : List Step) : ValueSet :=
  steps.foldl apply empty

end ValueSet

end Provision
