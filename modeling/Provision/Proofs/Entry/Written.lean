import Provision.Proofs.Json.Likeness
import Provision.Proofs.Value.Slots
import Provision.Proofs.Entry.Reading

/-!
Contract: how entries and the attributes that are sent for them correspond.

An entry is brought into the form of the attributes by dropping what says
nothing and by turning lists of properties into objects.  Attributes are
brought into the form of an entry by writing such objects as lists again.
The name of a member alone decides how it is treated.

Owns:
- the manners in which members are written, by name;
- `normal`, the data document that an entry stands for;
- `isKeyed`, which says that an entry is written with names throughout;
- `Manner.relisted`, the way back for one member;
- `Renders`, the likeness of a value with the normal form of its member.

Does not own: which members an entry may have.
-/

namespace Provision.Datum

/-- How a member is written: as it is sent, as the record of a structure, or
as a list of properties. -/
inductive Manner where
  | plain
  | record
  | properties
deriving DecidableEq, Repr

/-- The members that hold free properties. -/
def propertyMembers : List String :=
  ["mechanism-properties", "configuration"]

/-- The member that holds a reference to a secret. -/
def credentialMember : String := "credential-reference"

def Manner.ofName (name : String) : Manner :=
  if name ∈ propertyMembers then .properties
  else if name = credentialMember then .record
  else .plain

/-! ## The normal form of an entry -/

/-- Whether a member says nothing: null, an empty text or an empty list. -/
def isUnset : Datum → Bool
  | .absent => true
  | .text value => value = ""
  | .sequence items => items.isEmpty
  | _ => false

/-- The text that a record holds under a name. -/
def textAt (name : String) : Datum → String
  | .record members =>
      match Members.get? name members with
      | some (.text value) => value
      | _ => ""
  | _ => ""

/-- The object of a list of properties: one member for each name, where the
name came first, with the value that came last. -/
def propertyObject : Datum → Json
  | .sequence items =>
      .object (Members.ofPairs (items.map fun item =>
        (item.textAt "name", .string (item.textAt "value"))))
  | _ => .null

mutual

/-- The data document that data stand for: members that say nothing are
dropped from every record, and lists of properties become objects. -/
def normal : Datum → Json
  | .absent => .null
  | .boolean value => .boolean value
  | .integer value => .number (.integer value)
  | .real spelling => .string spelling
  | .text value => .string value
  | .sequence items => .array (normalItems items)
  | .record members => .object (normalMembers members)

def normalItems : List Datum → List Json
  | [] => []
  | item :: rest => normal item :: normalItems rest

def normalMembers : List (String × Datum) → List (String × Json)
  | [] => []
  | (name, datum) :: rest =>
      if datum.isUnset then normalMembers rest
      else
        (name,
          if Manner.ofName name = .properties then datum.propertyObject
          else normal datum) :: normalMembers rest

end

/-- What is sent for a member, if anything is. -/
def sent? (manner : Manner) (datum : Datum) : Option Json :=
  if datum.isUnset then none
  else if manner = .properties then some datum.propertyObject
  else some datum.normal

theorem normalItems_eq_map (items : List Datum) :
    normalItems items = items.map normal := by
  induction items with
  | nil => rfl
  | cons item rest inductionHypothesis =>
      rw [normalItems, inductionHypothesis, List.map_cons]

theorem names_normalMembers_sublist (members : List (String × Datum)) :
    (Members.names (normalMembers members)).Sublist
      (Members.names members) := by
  induction members with
  | nil => exact .slnil
  | cons member rest inductionHypothesis =>
      rw [normalMembers]
      split
      · exact inductionHypothesis.cons member.1
      · exact inductionHypothesis.cons_cons member.1

/-- Under distinct names, the normal form holds what is sent for the member
of each name. -/
theorem get?_normalMembers {members : List (String × Datum)}
    (distinct : Members.Distinct members) (name : String) :
    Members.get? name (normalMembers members) =
      (Members.get? name members).bind (sent? (.ofName name)) := by
  induction members with
  | nil => rfl
  | cons member rest inductionHypothesis =>
      obtain ⟨isNew, restDistinct⟩ := List.nodup_cons.mp distinct
      have ofRest := inductionHypothesis restDistinct
      rw [normalMembers]
      by_cases isHere : member.1 = name
      · subst isHere
        have unbound : Members.get? member.1 (normalMembers rest) = none := by
          rw [Members.get?_eq_none_iff]
          exact fun isBound =>
            isNew ((names_normalMembers_sublist rest).subset isBound)
        cases isUnset : member.2.isUnset with
        | true => simp [Members.get?, sent?, isUnset, unbound]
        | false =>
            by_cases isList : Manner.ofName member.1 = .properties <;>
              simp [Members.get?, sent?, isUnset, isList]
      · cases member.2.isUnset <;> simp [Members.get?, isHere, ofRest]

/-! ## Entries that are written with names -/

def isSequence : Datum → Bool
  | .sequence _ => true
  | _ => false

mutual

/-- Whether the names of every record are distinct and every structure is
written as a record: in a list, and under a name that asks for one. -/
def isKeyed : Datum → Bool
  | .sequence items => itemsAreKeyed items
  | .record members =>
      decide (Members.Distinct members) && membersAreKeyed members
  | _ => true

def itemsAreKeyed : List Datum → Bool
  | [] => true
  | item :: rest => !item.isSequence && isKeyed item && itemsAreKeyed rest

def membersAreKeyed : List (String × Datum) → Bool
  | [] => true
  | (name, datum) :: rest =>
      !(decide (Manner.ofName name = .record) && datum.isSequence) &&
        isKeyed datum && membersAreKeyed rest

end

/-- Whether a member is written with names, in a manner. -/
def isKeyedAs (manner : Manner) (datum : Datum) : Bool :=
  !(decide (manner = .record) && datum.isSequence) && datum.isKeyed

theorem isKeyed_sequence_iff {items : List Datum} :
    isKeyed (.sequence items) = true ↔
      ∀ item ∈ items, item.isSequence = false ∧ item.isKeyed = true := by
  rw [isKeyed]
  induction items with
  | nil => simp [itemsAreKeyed]
  | cons item rest inductionHypothesis =>
      simp [itemsAreKeyed, inductionHypothesis, and_assoc]

theorem isKeyed_record_iff {members : List (String × Datum)} :
    isKeyed (.record members) = true ↔
      Members.Distinct members ∧
        ∀ member ∈ members,
          member.2.isKeyedAs (.ofName member.1) = true := by
  have ofMembers : membersAreKeyed members = true ↔
      ∀ member ∈ members,
        member.2.isKeyedAs (.ofName member.1) = true := by
    induction members with
    | nil => simp [membersAreKeyed]
    | cons member rest inductionHypothesis =>
        rw [membersAreKeyed, Bool.and_eq_true, inductionHypothesis,
          List.forall_mem_cons, isKeyedAs]
  rw [isKeyed, Bool.and_eq_true, decide_eq_true_iff, ofMembers]

theorem isKeyedAs_of_get? {members : List (String × Datum)}
    (keyed : isKeyed (.record members) = true) {name : String} {datum : Datum}
    (bound : Members.get? name members = some datum) :
    datum.isKeyedAs (.ofName name) = true :=
  (isKeyed_record_iff.mp keyed).2 _ (Members.mem_of_get?_eq_some bound)

theorem isKeyedAs_record_iff {datum : Datum} :
    datum.isKeyedAs .record = true ↔
      datum.isSequence = false ∧ datum.isKeyed = true := by
  simp [isKeyedAs]

theorem isKeyed_of_isKeyedAs {manner : Manner} {datum : Datum}
    (keyed : datum.isKeyedAs manner = true) : datum.isKeyed = true :=
  (Bool.and_eq_true _ _ ▸ keyed).2

/-! ## Entries that differ in the order of members -/

/-- Equality up to the order of the members of records, at every depth. -/
inductive Reordered : Datum → Datum → Prop
  | same (datum : Datum) : Reordered datum datum
  | sequence {items others : List Datum}
      (sameLength : items.length = others.length)
      (each : ∀ (place : Nat) (item other : Datum), items[place]? = some item →
        others[place]? = some other → Reordered item other) :
      Reordered (.sequence items) (.sequence others)
  | record {members others : List (String × Datum)}
      (sameNames : (Members.names members).Perm (Members.names others))
      (each : ∀ (name : String) (datum other : Datum),
        Members.get? name members = some datum →
        Members.get? name others = some other → Reordered datum other) :
      Reordered (.record members) (.record others)

/-- Data that hold no other data. -/
def IsLeaf (datum : Datum) : Prop :=
  (∀ items, datum ≠ .sequence items) ∧ ∀ members, datum ≠ .record members

theorem isLeaf_text (text : String) : IsLeaf (.text text) := ⟨nofun, nofun⟩

theorem isLeaf_boolean (flag : Bool) : IsLeaf (.boolean flag) :=
  ⟨nofun, nofun⟩

theorem Reordered.eq_of_isLeaf {datum other : Datum}
    (reordered : Reordered datum other) (isLeaf : IsLeaf datum) :
    other = datum := by
  cases reordered with
  | same => rfl
  | sequence => exact absurd rfl (isLeaf.1 _)
  | record => exact absurd rfl (isLeaf.2 _)

theorem Reordered.option_eq_of_isLeaf {found other : Option Datum}
    (reordered : Option.Rel Reordered found other)
    (isLeaf : ∀ datum, found = some datum → IsLeaf datum) : other = found := by
  cases reordered with
  | none => rfl
  | some isReordered => rw [isReordered.eq_of_isLeaf (isLeaf _ rfl)]

theorem Reordered.sequence_cases {items : List Datum} {other : Datum}
    (reordered : Reordered (.sequence items) other) :
    ∃ others, other = .sequence others ∧
      List.Forall₂ Reordered items others := by
  cases reordered with
  | same => exact ⟨items, rfl, List.forall₂_same.mpr fun item _ => .same item⟩
  | sequence sameLength each =>
      refine ⟨_, rfl, List.forall₂_iff_get.mpr ⟨sameLength, ?_⟩⟩
      intro place inside insideOther
      exact each place _ _ (List.getElem?_eq_getElem inside)
        (List.getElem?_eq_getElem insideOther)

theorem Reordered.record_cases {members : List (String × Datum)}
    {other : Datum} (reordered : Reordered (.record members) other) :
    ∃ others, other = .record others ∧
      (Members.names members).Perm (Members.names others) ∧
      ∀ name, Option.Rel Reordered (Members.get? name members)
        (Members.get? name others) := by
  cases reordered with
  | same =>
      refine ⟨members, rfl, .refl _, fun name => ?_⟩
      cases Members.get? name members with
      | none => exact .none
      | some datum => exact .some (.same datum)
  | @record _ others sameNames each =>
      refine ⟨others, rfl, sameNames, fun name => ?_⟩
      cases bound : Members.get? name members with
      | some datum =>
          obtain ⟨other, otherBound⟩ :=
            Members.exists_get?_of_perm sameNames bound
          rw [otherBound]
          exact .some (each name datum other bound otherBound)
      | none =>
          have unbound : Members.get? name others = none := by
            by_contra isBound
            obtain ⟨other, otherBound⟩ := Option.ne_none_iff_exists'.mp isBound
            obtain ⟨datum, found⟩ :=
              Members.exists_get?_of_perm sameNames.symm otherBound
            rw [bound] at found
            cases found
          rw [unbound]
          exact .none

/-! ## The entry form of an attribute -/

/-- The document of an attribute as a member of an entry: the members of a
set of properties are listed one by one. -/
def Manner.relisted : Manner → Json → Json
  | .properties, .object members =>
      .array (members.map fun member =>
        .object [("name", .string member.1), ("value", member.2)])
  | _, document => document

/-! ## Values and normal forms -/

/-- A value says the same as a document, up to the order of members.  For
properties that order counts, too. -/
def Renders (manner : Manner) (value : Value) (document : Json) : Prop :=
  Json.Alike value.toJson document ∧
    (manner = .properties → value.toJson = document)

theorem Renders.of_eq {manner : Manner} {value : Value} {document : Json}
    (same : value.toJson = document) : Renders manner value document :=
  ⟨same ▸ .same _, fun _ => same⟩

theorem Renders.alike_toJson {manner : Manner} {sent : Option Value}
    {document : Option Json}
    (rendered : Option.Rel (Renders manner) sent document) :
    Option.Rel Json.Alike (sent.map Value.toJson) document := by
  cases rendered with
  | none => exact .none
  | some isRendered => exact .some isRendered.1

end Provision.Datum
