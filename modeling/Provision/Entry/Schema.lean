import Provision.Entry.Datum

/-!
Contract: reading records of named fields.

A record is written with its field names, in any order, or as a sequence of
values in the order of the fields.  A sequence is read as the record that
pairs the names with the values, so both forms mean the same.

Members are looked at in the order in which they are written, and the first
fault is the answer.  What a field holds depends on its own member only.

Owns:
- `Field`, a name with a reader and with what an absent member stands for;
- the readers of texts, flags, bounded numbers, sequences and tables;
- `RecordShape`, the fields of a record and what they make.

Does not own: the fields of any particular record.
-/

namespace Provision.Datum

abbrev DataReader (α : Type) := Datum → Except Fault α

/-- A named field of a record. -/
structure Field (α : Type) where
  name : String
  read : DataReader α
  absent : α

/-- The check that a field makes of its member, without the value: whether a
record must name it, and whether a sequence must reach it. -/
structure Check where
  name : String
  named : Bool
  reached : Bool
  fault? : Datum → Option Fault

/-- The fault of a reading that failed. -/
def faultOf {α : Type} : Except Fault α → Option Fault
  | .ok _ => none
  | .error fault => some fault

/-- A field whose member may be left out. -/
def Field.optional {α : Type} (field : Field α) : Check :=
  ⟨field.name, false, false, fun datum => faultOf (field.read datum)⟩

/-- A field that only a record with names may leave out. -/
def Field.positional {α : Type} (field : Field α) : Check :=
  ⟨field.name, false, true, fun datum => faultOf (field.read datum)⟩

/-- A field whose member must be there. -/
def Field.needed {α : Type} (field : Field α) : Check :=
  ⟨field.name, true, true, fun datum => faultOf (field.read datum)⟩

/-- What a field holds in a record whose members were checked. -/
def Field.get {α : Type} (field : Field α) (members : Members Datum) : α :=
  match Members.get? field.name members with
  | some datum =>
      match field.read datum with
      | .ok value => value
      | .error _ => field.absent
  | none => field.absent

def readText : DataReader String
  | .text value => .ok value
  | found => .error (.wrongType found "a string")

def readBoolean : DataReader Bool
  | .boolean value => .ok value
  | found => .error (.wrongType found "a boolean")

def readNatural (limit : Nat) (title : String) : DataReader Nat
  | .integer value =>
      if 0 ≤ value ∧ value < limit then .ok value.toNat
      else .error (.outOfRange value title)
  | found => .error (.wrongType found title)

def readWord16 (datum : Datum) : Except Fault UInt16 :=
  (readNatural UInt16.size "u16" datum).map UInt16.ofNat

def readWord32 (datum : Datum) : Except Fault UInt32 :=
  (readNatural UInt32.size "u32" datum).map UInt32.ofNat

def readWord64 (datum : Datum) : Except Fault UInt64 :=
  (readNatural UInt64.size "u64" datum).map UInt64.ofNat

def readOptional {α : Type} (read : DataReader α) : DataReader (Option α)
  | .absent => .ok none
  | datum => (read datum).map some

/-- Reads the items from left to right. -/
def readAll {α : Type} (read : DataReader α) :
    List Datum → Except Fault (List α)
  | [] => .ok []
  | item :: rest =>
      match read item with
      | .error fault => .error fault
      | .ok value => (readAll read rest).map (value :: ·)

/-- Reads the members in the order in which they are written. -/
def readEach {α : Type} (read : DataReader α) :
    Members Datum → Except Fault (Members α)
  | [] => .ok []
  | member :: rest =>
      match read member.2 with
      | .error fault => .error fault
      | .ok value =>
          (readEach read rest).map fun others => (member.1, value) :: others

/-- A table with names of its own. -/
def readTable {α : Type} (read : DataReader α) : DataReader (Members α)
  | .record members => readEach read members
  | found => .error (.wrongType found "a map")

def readList {α : Type} (read : DataReader α) : DataReader (List α)
  | .sequence items => readAll read items
  | found => .error (.wrongType found "a sequence")

/-- A field for a text that may be left out. -/
def textField (name : String) : Field (Option String) :=
  ⟨name, readOptional readText, none⟩

/-- A field for a text that is empty when it is left out. -/
def nameField (name : String) : Field String :=
  ⟨name, readText, ""⟩

/-- A field for a flag that may be left out. -/
def booleanField (name : String) : Field (Option Bool) :=
  ⟨name, readOptional readBoolean, none⟩

/-- A field for a flag that is off when it is left out. -/
def switchField (name : String) : Field Bool :=
  ⟨name, readBoolean, false⟩

/-- A field for a number of thirty-two bits that may be left out. -/
def word32Field (name : String) : Field (Option UInt32) :=
  ⟨name, readOptional readWord32, none⟩

/-- A field for a sequence that is empty when it is left out. -/
def listField {α : Type} (name : String) (read : DataReader α) :
    Field (List α) :=
  ⟨name, readList read, []⟩

/-- A field for a sequence of texts. -/
def textsField (name : String) : Field (List String) :=
  listField name readText

/-- What a record is called, which fields it has, whether a sequence with too
many values is refused, and what the checked members make. -/
structure RecordShape (α : Type) where
  title : String
  fields : List Check
  surplusRefused : Bool
  make : Members Datum → Except Fault α

/-- Looks at the members in the order in which they are written. -/
def checkMembers (fields : List Check) : Members Datum → Except Fault Unit
  | [] => .ok ()
  | member :: rest =>
      match fields.find? fun field => field.name = member.1 with
      | none =>
          .error (.unknownField member.1 (fields.map fun field => field.name))
      | some field =>
          match field.fault? member.2 with
          | some fault => .error fault
          | none => checkMembers fields rest

/-- The first field that must be there and is not. -/
def missing? (fields : List Check) (members : Members Datum) : Option Check :=
  fields.find? fun field =>
    field.named && !Members.contains field.name members

/-- A number of things, as messages count them. -/
def counted (count : Nat) (one many : String) : String :=
  String.ofList (Text.decimal count) ++ " " ++ if count = 1 then one else many

/-- The values of a sequence under the names of the fields. -/
def RecordShape.labelled {α : Type} (shape : RecordShape α)
    (items : List Datum) : Members Datum :=
  (shape.fields.map fun field => field.name).zip items

/-- The check of the length of a sequence: it reaches every field that it must
reach, and no value is left over. -/
def RecordShape.checkLength {α : Type} (shape : RecordShape α)
    (count : Nat) : Except Fault Unit :=
  let width := shape.fields.length
  match (shape.fields.drop count).findIdx? fun field => field.reached with
  | some beyond =>
      .error (.wrongLength (count + beyond)
        (shape.title ++ " with " ++ counted width "element" "elements"))
  | none =>
      if shape.surplusRefused && width < count then
        .error (.wrongLength count
          (counted width "element in sequence" "elements in sequence"))
      else .ok ()

def RecordShape.read {α : Type} (shape : RecordShape α) : DataReader α
  | .record members => do
      checkMembers shape.fields members
      match missing? shape.fields members with
      | some field => .error (.missingField field.name)
      | none => shape.make members
  | .sequence items => do
      let members := shape.labelled items
      checkMembers shape.fields members
      shape.checkLength items.length
      shape.make members
  | found => .error (.wrongType found shape.title)

end Provision.Datum
