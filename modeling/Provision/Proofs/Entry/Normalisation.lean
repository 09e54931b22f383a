import Provision.Proofs.Entry.Commands

/-!
Contract: a command sends its entry, normalised.

The members of an entry become the attributes of the command, one by one and
under the same names.  Members that say nothing are dropped, also inside
structures, and lists of properties become sets.  Neither is anything added,
nor does the order of the members matter: the attributes stand in the order of
the kind.

Owns:
- `attributeMembers` and `payload`, the part of an entry that is sent;
- the likeness of that part with the attributes of the command;
- the command of an entry whose members are reordered.

Does not own: entries that are written without names.
-/

namespace Provision

open Datum (Setting Renders Reordered Manner slotsIn checkMembers isKeyed)

namespace Datum

/-- The members of an entry that are attributes. -/
def attributeMembers (members : Members Datum) : Members Datum :=
  members.filter fun member => member.1 ∉ directingMembers

/-- The attributes that an entry stands for, as the members of an object. -/
def payload (members : Members Datum) : Members Json :=
  normalMembers (attributeMembers members)

theorem get?_attributeMembers (name : String) (members : Members Datum) :
    Members.get? name (attributeMembers members) =
      if name ∈ directingMembers then none else Members.get? name members := by
  rw [attributeMembers, Members.get?_filter fun name =>
    decide (name ∉ directingMembers)]
  by_cases isDirecting : name ∈ directingMembers <;> simp [isDirecting]

theorem isKeyed_attributeMembers {members : Members Datum}
    (keyed : isKeyed (.record members) = true) :
    isKeyed (.record (attributeMembers members)) = true := by
  obtain ⟨distinct, eachKeyed⟩ := isKeyed_record_iff.mp keyed
  refine isKeyed_record_iff.mpr ⟨?_, fun member isMember => ?_⟩
  · exact (List.filter_sublist.map Prod.fst).nodup distinct
  · exact eachKeyed member (List.mem_of_mem_filter isMember)

theorem reordered_attributeMembers {members others : Members Datum}
    (reordered : ∀ name, Option.Rel Reordered (Members.get? name members)
      (Members.get? name others)) (name : String) :
    Option.Rel Reordered (Members.get? name (attributeMembers members))
      (Members.get? name (attributeMembers others)) := by
  rw [get?_attributeMembers, get?_attributeMembers]
  split
  · exact .none
  · exact reordered name

theorem slotsIn_congr {Draft : Type} {settings : List (Setting Draft)}
    {members others : Members Datum}
    (same : ∀ setting ∈ settings,
      Members.get? setting.name others = Members.get? setting.name members) :
    slotsIn settings others = slotsIn settings members := by
  refine List.map_congr_left fun setting isSetting => ?_
  have sameField : setting.field.get others = setting.field.get members :=
    Field.get_congr (same setting isSetting)
  rw [Setting.shownIn, Setting.shownIn, sameField]

end Datum

open Datum (attributeMembers payload kindMember directingMembers)

/-! ## Entries of one kind -/

namespace EntryForm

variable {Draft : Type} (form : EntryForm Draft) {members : Members Datum}

/-- A setting finds the same in an entry and in the attributes of the entry. -/
theorem slotsIn_attributeMembers (members : Members Datum) :
    slotsIn form.settings (Members.erase kindMember members) =
      slotsIn form.settings (attributeMembers members) := by
  refine Datum.slotsIn_congr fun setting isSetting => ?_
  have isAttribute := form.not_mem_directingMembers isSetting
  have notKind : setting.name ≠ kindMember := fun isKind =>
    isAttribute (isKind ▸ List.mem_cons_self)
  rw [Members.get?_erase, if_neg notKind, Datum.get?_attributeMembers,
    if_neg isAttribute]

/-- The attributes of an entry that passes the checks are accepted. -/
theorem accepted_attributeMembers
    (checked : checkMembers form.shape.fields
      (Members.erase kindMember members) = .ok ()) :
    Datum.Accepted form.settings (attributeMembers members) := by
  intro name datum bound
  rw [Datum.get?_attributeMembers] at bound
  split at bound
  · cases bound
  · next isAttribute =>
      simp only [directingMembers, List.mem_cons, List.not_mem_nil, or_false,
        not_or] at isAttribute
      obtain ⟨notKind, notName, notReplace⟩ := isAttribute
      have isMember : (name, datum) ∈ Members.erase kindMember members :=
        List.mem_filter.mpr
          ⟨Members.mem_of_get?_eq_some bound, by simpa using notKind⟩
      rcases form.checkMembers_iff.mp checked _ isMember with
        ⟨isName, -⟩ | ⟨isReplace, -⟩ | isRead
      · exact absurd isName notName
      · exact absurd isReplace notReplace
      · exact isRead

section Read

variable {draft : Draft} {command : Command}
  (checked : checkMembers form.shape.fields
    (Members.erase kindMember members) = .ok ())
  (keyed : isKeyed (.record members) = true)
  (holds : form.Holds draft (Members.erase kindMember members))
include checked keyed holds

section Makes

variable (makes : form.Makes draft command)
include makes

/-- Name by name, the attributes of a command render the attributes of its
entry. -/
theorem renders_values (name : String) :
    Option.Rel (Renders (.ofName name)) (Members.get? name command.values)
      (Members.get? name (payload members)) := by
  rw [makes.get?_values, holds.slots, form.slotsIn_attributeMembers]
  exact Datum.renders_slotsIn form.distinct_settings form.mannered
    (form.accepted_attributeMembers checked)
    (Datum.isKeyed_attributeMembers keyed) name

theorem alike_payload :
    Json.Alike command.values.toJson (.object (payload members)) :=
  Datum.alike_of_renders makes.distinct_values
    (Datum.isKeyed_record_iff.mp (Datum.isKeyed_attributeMembers keyed)).1
    (form.renders_values checked keyed holds makes)

/-- Sets of properties keep the order in which the properties are listed. -/
theorem properties_eq_payload {name : String}
    (isList : name ∈ Datum.propertyMembers) :
    (Members.get? name command.values).map Value.toJson =
      Members.get? name (payload members) := by
  have rendered := form.renders_values checked keyed holds makes name
  rw [Manner.ofName, if_pos isList] at rendered
  generalize Members.get? name command.values = sent at rendered ⊢
  generalize Members.get? name (payload members) = document at rendered ⊢
  cases rendered with
  | none => rfl
  | some isRendered => exact congrArg some (isRendered.2 rfl)

/-- The attributes that are sent stand in the order of the kind. -/
theorem names_values :
    Members.names command.values =
      (form.wrap draft).attributeOrder.filter fun name =>
        Members.contains name (payload members) := by
  rw [makes.values, ValueSet.names_present_arrange]
  refine List.filter_congr fun name _ => ?_
  have rendered := form.renders_values checked keyed holds makes name
  rw [← makes.get?_values, Members.contains]
  exact Members.isSome_eq_of_rel rendered

end Makes

/-! ## Reordered entries -/

section Reordered

variable
  (isKind : Members.get? kindMember members = some (.text form.kind.text))
  {others : Members Datum}
  (reordered : ∀ name, Option.Rel Reordered (Members.get? name members)
    (Members.get? name others))
include isKind reordered

omit keyed holds in
/-- The members that direct the reading hold no members themselves. -/
theorem get?_directing {name : String} (isDirecting : name ∈ directingMembers) :
    Members.get? name others = Members.get? name members := by
  refine Reordered.option_eq_of_isLeaf (reordered name) fun datum bound => ?_
  by_cases isKindMember : name = kindMember
  · subst isKindMember
    obtain rfl := Option.some.inj (isKind.symm.trans bound)
    exact Datum.isLeaf_text form.kind.text
  · have isMember : (name, datum) ∈ Members.erase kindMember members :=
      List.mem_filter.mpr
        ⟨Members.mem_of_get?_eq_some bound, by simpa using isKindMember⟩
    rcases form.checkMembers_iff.mp checked _ isMember with
      ⟨-, text, rfl⟩ | ⟨-, flag, rfl⟩ | ⟨setting, isSetting, sameName, -⟩
    · exact Datum.isLeaf_text text
    · exact Datum.isLeaf_boolean flag
    · exact absurd (sameName ▸ isDirecting)
        (form.not_mem_directingMembers isSetting)

omit holds in
/-- The members of a reordered entry pass the checks. -/
theorem checkMembers_reordered
    (sameNames : (Members.names members).Perm (Members.names others)) :
    checkMembers form.shape.fields (Members.erase kindMember others) =
      .ok () := by
  have otherAccepted := Datum.accepted_reordered form.mannered
    (form.accepted_attributeMembers checked)
    (Datum.isKeyed_attributeMembers keyed)
    (Datum.reordered_attributeMembers reordered)
  have otherDistinct : Members.Distinct others :=
    sameNames.nodup_iff.mp (Datum.isKeyed_record_iff.mp keyed).1
  refine form.checkMembers_iff.mpr fun (name, datum) isMember => ?_
  obtain ⟨isOther, notKind⟩ := List.mem_filter.mp isMember
  have bound := Members.get?_eq_some_of_mem otherDistinct isOther
  by_cases isDirecting : name ∈ directingMembers
  · rw [form.get?_directing checked isKind reordered isDirecting] at bound
    exact form.checkMembers_iff.mp checked _
      (List.mem_filter.mpr ⟨Members.mem_of_get?_eq_some bound, notKind⟩)
  · refine Or.inr (Or.inr (otherAccepted name datum ?_))
    rw [Datum.get?_attributeMembers, if_neg isDirecting]
    exact bound

end Reordered

/-- An entry whose members are reordered makes the same command. -/
theorem command_of_reordered
    (isMade : (form.wrap draft).command = .ok command)
    (isKind : Members.get? kindMember members = some (.text form.kind.text))
    {other : Datum} (isReordered : Reordered (.record members) other) :
    ∃ again, Datum.readEntry other = .ok again ∧
      again.command = .ok command := by
  obtain ⟨others, rfl, sameNames, reordered⟩ := isReordered.record_cases
  have directing : ∀ name ∈ directingMembers,
      Members.get? name others = Members.get? name members :=
    fun name => form.get?_directing checked isKind reordered
  obtain ⟨otherDraft, read, otherHolds⟩ := form.readDraft_record
    (form.checkMembers_reordered checked keyed isKind reordered sameNames)
  have sameSlots := Datum.slotsIn_reordered form.distinct_settings
    form.mannered (form.accepted_attributeMembers checked)
    (Datum.isKeyed_attributeMembers keyed)
    (Datum.reordered_attributeMembers reordered)
  have otherKind : Members.get? kindMember others =
      some (.text form.kind.text) := by
    rw [directing kindMember (by decide), isKind]
  -- The kind is taken off before the rest of an entry is read.
  have sameMember : ∀ name ∈ directingMembers, name ≠ kindMember →
      Members.get? name (Members.erase kindMember others) =
        Members.get? name (Members.erase kindMember members) := by
    intro name isDirecting notKind
    rw [Members.get?_erase, Members.get?_erase, if_neg notKind,
      if_neg notKind, directing name isDirecting]
  refine ⟨form.wrap otherDraft,
    Datum.readEntry_record_eq_ok_iff.mpr ⟨form.kind, otherKind, read⟩,
    form.command_congr isMade ?_ ?_ ?_⟩
  · rw [otherHolds.name, holds.name]
    exact Datum.Field.get_congr
      (sameMember Datum.nameMember (by decide) (by decide))
  · rw [otherHolds.replaces, holds.replaces]
    exact Datum.Field.get_congr
      (sameMember Datum.replaceMember (by decide) (by decide))
  · rw [otherHolds.slots, holds.slots, form.slotsIn_attributeMembers,
      form.slotsIn_attributeMembers, sameSlots]

end Read

end EntryForm

/-- **The payload is the entry, normalised.**  Take an entry that is written
with names throughout and that makes a command.  The attributes of the command
are the members of the entry without those that say nothing, and without those
that direct the reading; a list of properties is sent as a set in the order of
the list.  The attributes stand in the order of the kind, and every reordering
of the entry, at any depth, makes the same command. -/
theorem Command.values_alike_payload (members : Members Datum)
    (draft : ResourceDraft) (command : Command)
    (keyed : isKeyed (.record members) = true)
    (read : Datum.readEntry (.record members) = .ok draft)
    (isMade : draft.command = .ok command) :
    Json.Alike command.values.toJson (.object (payload members)) ∧
    (∀ name ∈ Datum.propertyMembers,
      (Members.get? name command.values).map Value.toJson =
        Members.get? name (payload members)) ∧
    (Members.names command.values =
      draft.attributeOrder.filter fun name =>
        Members.contains name (payload members)) ∧
    ∀ other : Datum, Reordered (.record members) other →
      ∃ again, Datum.readEntry other = .ok again ∧
        again.command = .ok command := by
  obtain ⟨kind, isKind, isRead⟩ := Datum.readEntry_record_eq_ok_iff.mp read
  induction kind using ResourceKind.of_entryForms with | each form =>
  obtain ⟨checked, held, rfl, holds⟩ := form.of_readDraft_record isRead
  have makes := form.makes_of_command isMade
  exact ⟨form.alike_payload checked keyed holds makes,
    fun name isList =>
      form.properties_eq_payload checked keyed holds makes isList,
    form.names_values checked keyed holds makes,
    fun other reordered =>
      form.command_of_reordered checked keyed holds isMade isKind reordered⟩

/-- An entry with members that say nothing, a flag that is off, a structure,
and a property that is listed twice. -/
def sampleEntry : Members Datum :=
  [("kind", .text "authentication-configuration"),
    ("mechanism-properties", .sequence
      [.record [("name", .text "quality"), ("value", .text "auth")],
        .record [("value", .text "2"), ("name", .text "retries")],
        .record [("name", .text "quality"), ("value", .text "auth-int")]]),
    ("name", .text "client"), ("host", .text ""), ("port", .integer 9990),
    ("anonymous", .boolean false), ("realm", .absent),
    ("forbid-sasl-mechanisms", .sequence []),
    ("credential-reference", .record
      [("alias", .text "key"), ("type", .absent), ("store", .text "secrets")]),
    ("replace-existing", .boolean true)]

theorem Command.values_alike_payload_sample :
    isKeyed (.record sampleEntry) = true ∧
    ∃ draft command, Datum.readEntry (.record sampleEntry) = .ok draft ∧
      draft.command = .ok command ∧
      Json.Alike command.values.toJson (.object (payload sampleEntry)) ∧
      (∀ name ∈ Datum.propertyMembers,
        (Members.get? name command.values).map Value.toJson =
          Members.get? name (payload sampleEntry)) ∧
      (Members.names command.values =
        draft.attributeOrder.filter fun name =>
          Members.contains name (payload sampleEntry)) ∧
      ∀ other : Datum, Reordered (.record sampleEntry) other →
        ∃ again, Datum.readEntry other = .ok again ∧
          again.command = .ok command := by
  have keyed : isKeyed (.record sampleEntry) = true := by decide
  have made : ∃ draft command,
      Datum.readEntry (.record sampleEntry) = .ok draft ∧
        draft.command = .ok command := ⟨_, _, rfl, rfl⟩
  obtain ⟨draft, command, read, isMade⟩ := made
  exact ⟨keyed, draft, command, read, isMade,
    values_alike_payload sampleEntry draft command keyed read isMade⟩

end Provision
