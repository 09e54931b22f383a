import Provision.Entry.Parts
import Mathlib.Data.List.Forall2

/-!
Contract: what is known of data that was read.

Owns:
- records: every member was accepted by the field of its name, and the same
  holds of the values of a sequence under the names of the fields;
- sequences: every item was read, and the values stand in order;
- what a field holds in checked members;
- the data of arrays and objects as lists.

Does not own: what is made of the values.
-/

namespace Provision.Datum

/-! ## Data of documents -/

theorem ofItems_eq_map (items : List Json) :
    ofItems items = items.map ofJson := by
  induction items with
  | nil => rfl
  | cons item rest inductionHypothesis =>
      rw [ofItems, inductionHypothesis, List.map_cons]

theorem ofMembers_eq_map (members : List (String × Json)) :
    ofMembers members =
      members.map fun member => (member.1, ofJson member.2) := by
  induction members with
  | nil => rfl
  | cons member rest inductionHypothesis =>
      rw [ofMembers, inductionHypothesis, List.map_cons]

/-! ## Records -/

theorem faultOf_eq_none_iff {α : Type} {result : Except Fault α} :
    faultOf result = none ↔ ∃ value, result = .ok value := by
  cases result <;> simp [faultOf]

/-- With distinct names, a name finds the field that has it. -/
theorem find?_name_eq_some_iff {fields : List Check}
    (distinct : (fields.map Check.name).Nodup) {name : String}
    {field : Check} :
    (fields.find? fun field => field.name = name) = some field ↔
      field ∈ fields ∧ field.name = name := by
  constructor
  · intro found
    exact ⟨List.mem_of_find?_eq_some found, by
      simpa using List.find?_some found⟩
  · rintro ⟨isField, rfl⟩
    induction fields with
    | nil => simp at isField
    | cons first rest inductionHypothesis =>
        rw [List.map_cons, List.nodup_cons] at distinct
        rcases List.mem_cons.mp isField with rfl | inRest
        · simp
        · have isOther : first.name ≠ field.name := fun same =>
            distinct.1 (same ▸ List.mem_map_of_mem inRest)
          rw [List.find?_cons_of_neg (by simpa using isOther)]
          exact inductionHypothesis distinct.2 inRest

/-- Members pass where each of them is accepted by the field of its name. -/
theorem checkMembers_eq_ok_iff {fields : List Check}
    (distinct : (fields.map Check.name).Nodup) {members : Members Datum} :
    checkMembers fields members = .ok () ↔
      ∀ member ∈ members, ∃ field ∈ fields,
        field.name = member.1 ∧ field.fault? member.2 = none := by
  induction members with
  | nil => simp [checkMembers]
  | cons member rest inductionHypothesis =>
      rw [List.forall_mem_cons, ← inductionHypothesis, checkMembers]
      cases found : fields.find? fun field => field.name = member.1 with
      | none =>
          simp only [reduceCtorEq, false_iff, not_and]
          rintro ⟨field, isField, sameName, -⟩
          rw [(find?_name_eq_some_iff distinct).mpr ⟨isField, sameName⟩]
            at found
          cases found
      | some field =>
          -- Names are distinct, so the field that is found is the only one.
          obtain ⟨isField, sameName⟩ :=
            (find?_name_eq_some_iff distinct).mp found
          have onlyOne : (∃ other ∈ fields, other.name = member.1 ∧
              other.fault? member.2 = none) ↔
                field.fault? member.2 = none := by
            constructor
            · rintro ⟨other, isOther, otherName, accepted⟩
              have otherFound :=
                (find?_name_eq_some_iff distinct).mpr ⟨isOther, otherName⟩
              rw [found, Option.some.injEq] at otherFound
              exact otherFound ▸ accepted
            · exact fun accepted => ⟨field, isField, sameName, accepted⟩
          rw [onlyOne]
          cases accepted : field.fault? member.2 <;> simp [accepted]

/-- Nothing is missing where every field may be left out. -/
theorem missing?_eq_none {fields : List Check}
    (optional : ∀ field ∈ fields, field.named = false)
    (members : Members Datum) : missing? fields members = none := by
  refine List.find?_eq_none.mpr fun field isField => ?_
  simp [optional field isField]

theorem RecordShape.read_record {α : Type} {shape : RecordShape α}
    {members : Members Datum}
    (checked : checkMembers shape.fields members = .ok ())
    (complete : missing? shape.fields members = none) :
    shape.read (.record members) = shape.make members := by
  simp only [RecordShape.read, checked, complete]
  rfl

/-- A record that was read passed the check of its members. -/
theorem RecordShape.made_of_read_record {α : Type} {shape : RecordShape α}
    {members : Members Datum} {value : α}
    (read : shape.read (.record members) = .ok value) :
    checkMembers shape.fields members = .ok () ∧
      missing? shape.fields members = none ∧
      shape.make members = .ok value := by
  cases checked : checkMembers shape.fields members with
  | error fault =>
      simp only [RecordShape.read, checked] at read
      cases read
  | ok passed =>
      cases complete : missing? shape.fields members with
      | some field =>
          simp only [RecordShape.read, checked, complete] at read
          cases read
      | none =>
          rw [RecordShape.read_record checked complete] at read
          exact ⟨rfl, rfl, read⟩

/-- What was read was made of members that were checked, whether it was
written as a record or as a sequence. -/
theorem RecordShape.exists_members {α : Type} {shape : RecordShape α}
    {datum : Datum} {value : α} (read : shape.read datum = .ok value) :
    ∃ members, checkMembers shape.fields members = .ok () ∧
      shape.make members = .ok value := by
  cases datum with
  | record members =>
      obtain ⟨checked, -, made⟩ := RecordShape.made_of_read_record read
      exact ⟨members, checked, made⟩
  | sequence items =>
      refine ⟨shape.labelled items, ?_⟩
      cases checked : checkMembers shape.fields (shape.labelled items) with
      | error fault =>
          simp only [RecordShape.read, checked] at read
          cases read
      | ok passed =>
          cases fits : shape.checkLength items.length with
          | error fault =>
              simp only [RecordShape.read, checked, fits] at read
              cases read
          | ok passed =>
              simp only [RecordShape.read, checked, fits] at read
              exact ⟨rfl, read⟩
  | _ => cases read

/-! ## Fields -/

section Field

variable {α : Type} {field : Field α} {members : Members Datum}

theorem Field.get_of_unbound
    (unbound : Members.get? field.name members = none) :
    field.get members = field.absent := by
  rw [Field.get, unbound]

theorem Field.get_of_read {datum : Datum} {value : α}
    (bound : Members.get? field.name members = some datum)
    (read : field.read datum = .ok value) : field.get members = value := by
  rw [Field.get, bound]
  simp only [read]

theorem Field.get_congr {others : Members Datum}
    (same : Members.get? field.name others = Members.get? field.name members) :
    field.get others = field.get members := by
  rw [Field.get, Field.get, same]

/-- What a field holds comes from a member that it read, or from none. -/
theorem Field.get_cases (field : Field α) (members : Members Datum) :
    field.get members = field.absent ∨
      ∃ datum, Members.get? field.name members = some datum ∧
        field.read datum = .ok (field.get members) := by
  cases bound : Members.get? field.name members with
  | none => exact Or.inl (Field.get_of_unbound bound)
  | some datum =>
      cases read : field.read datum with
      | error fault =>
          refine Or.inl ?_
          rw [Field.get, bound]
          simp only [read]
      | ok value =>
          refine Or.inr ⟨datum, rfl, ?_⟩
          rw [read, Field.get_of_read bound read]

end Field

/-! ## Sequences -/

/-- The items of a sequence that was read are read one by one. -/
theorem readAll_eq_ok_iff {α : Type} {read : DataReader α}
    {items : List Datum} {values : List α} :
    readAll read items = .ok values ↔
      List.Forall₂ (fun item value => read item = .ok value) items values := by
  induction items generalizing values with
  | nil => simp [readAll, eq_comm]
  | cons item rest inductionHypothesis =>
      rw [List.forall₂_cons_left_iff]
      cases isItem : read item with
      | error fault => simp [readAll, isItem]
      | ok value =>
          simp only [← inductionHypothesis, Except.ok.injEq]
          cases isRest : readAll read rest with
          | error fault => simp [readAll, isItem, isRest, Except.map]
          | ok others =>
              simp [readAll, isItem, isRest, Except.map, eq_comm]

theorem readList_eq_ok_iff {α : Type} {read : DataReader α} {datum : Datum}
    {values : List α} :
    readList read datum = .ok values ↔
      ∃ items, datum = .sequence items ∧
        List.Forall₂ (fun item value => read item = .ok value)
          items values := by
  cases datum with
  | sequence items => simp [readList, readAll_eq_ok_iff]
  | _ => simp [readList]

end Provision.Datum
