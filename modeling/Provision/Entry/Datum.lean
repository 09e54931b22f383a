import Provision.Json.Printer
import Provision.Resource.CredentialReference
import Provision.Text.Pieces
import Provision.Text.Quoted

/-!
Contract: the data that a batch entry is written in, and its faults.

Entries come from data documents and from batch files.  Both are read into one
small data model first, so that a field is read in one way only.

Owns:
- the data model and the names that messages give to its shapes;
- the faults of an entry and their wording.

Does not own: which fields an entry has.
-/

namespace Provision

/-- A piece of data.  A floating-point number is kept as its text, since no
field holds one. -/
inductive Datum where
  | absent
  | boolean (value : Bool)
  | integer (value : Int)
  | real (spelling : String)
  | text (value : String)
  | sequence (items : List Datum)
  | record (members : List (String × Datum))
deriving Repr, Inhabited

namespace Datum

mutual

def ofJson : Json → Datum
  | .null => .absent
  | .boolean value => .boolean value
  | .number (.integer value) => .integer value
  | .number (.real value) => .real (String.ofList value.dataText)
  | .string value => .text value
  | .array items => .sequence (ofItems items)
  | .object members => .record (ofMembers members)

/-- The data of the items of an array. -/
def ofItems : List Json → List Datum
  | [] => []
  | item :: rest => ofJson item :: ofItems rest

/-- The data of the members of an object. -/
def ofMembers : List (String × Json) → List (String × Datum)
  | [] => []
  | (name, value) :: rest => (name, ofJson value) :: ofMembers rest

end

def description : Datum → String
  | .absent => "null"
  | .boolean true => "boolean `true`"
  | .boolean false => "boolean `false`"
  | .integer value =>
      "integer `" ++ String.ofList (Text.integerText value) ++ "`"
  | .real spelling => "floating point `" ++ spelling ++ "`"
  | .text value => "string " ++ Text.quoted value
  | .sequence _ => "sequence"
  | .record _ => "map"

/-- Why data makes no entry. -/
inductive Fault where
  | wrongType (found : Datum) (expected : String)
  | outOfRange (value : Int) (expected : String)
  | wrongLength (length : Nat) (expected : String)
  | unknownField (name : String) (known : List String)
  | unknownVariant (name : String) (known : List String)
  | missingField (name : String)
  | credential (cause : CredentialReference.Fault)
deriving Repr

def ticked (name : String) : String :=
  "`" ++ name ++ "`"

def choice : List String → String
  | [] => "no fields"
  | [only] => ticked only
  | [first, second] => ticked first ++ " or " ++ ticked second
  | names => "one of " ++ Text.glue ", " (names.map ticked)

def Fault.message : Fault → String
  | .wrongType found expected =>
      "invalid type: " ++ found.description ++ ", expected " ++ expected
  | .outOfRange value expected =>
      "invalid value: " ++ (Datum.integer value).description ++
        ", expected " ++ expected
  | .wrongLength length expected =>
      "invalid length " ++ String.ofList (Text.decimal length) ++
        ", expected " ++ expected
  | .unknownField name known =>
      "unknown field " ++ ticked name ++ ", expected " ++ choice known
  | .unknownVariant name known =>
      "unknown variant " ++ ticked name ++ ", expected " ++ choice known
  | .missingField name => "missing field " ++ ticked name
  | .credential cause => "Invalid credential reference: " ++ cause.reason

end Datum

end Provision
