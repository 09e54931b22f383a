import Provision.Proofs.Entry.Resources

/-!
Contract: the commands that entries of one kind make.

A command is fixed by the name, the replace flag and the slots of a draft, and
these three are fixed by the members of the entry.

Owns:
- the kind of an entry, and the members that are read for it;
- the checks of these members, as conditions on the members;
- the draft that checked members make;
- the parts of the command that a draft makes, and drafts that make one
  command;
- the principle that what holds for every entry form holds for every kind.

Does not own: what the members say, and how they are ordered.
-/

namespace Provision

open ValueSet (present arrange held)
open Datum (Setting slotsOf slotsIn checkMembers)

/-! ## The kind of an entry -/

namespace Datum

theorem readKind_eq_ok {datum : Datum} {kind : ResourceKind}
    (read : readKind datum = .ok kind) : datum = .text kind.text := by
  cases datum with
  | text value =>
      rw [readKind] at read
      cases found : ResourceKind.ofText? value with
      | none => simp [found] at read
      | some other =>
          simp only [found, Except.ok.injEq] at read
          subst read
          have sameText := List.find?_some found
          rw [of_decide_eq_true sameText]
  | _ => cases read

theorem readKind_text (kind : ResourceKind) :
    readKind (.text kind.text) = .ok kind := by
  cases kind <;> rfl

/-- A record is an entry of the kind that it names. -/
theorem readEntry_record_eq_ok_iff {members : Members Datum}
    {draft : ResourceDraft} :
    readEntry (.record members) = .ok draft ↔
      ∃ kind : ResourceKind,
        Members.get? kindMember members = some (.text kind.text) ∧
        readDraft (.record (Members.erase kindMember members)) kind =
          .ok draft := by
  rw [readEntry]
  cases bound : Members.get? kindMember members with
  | none => simp
  | some written =>
      simp only [bind_eq_ok_iff, Option.some.injEq]
      refine exists_congr fun kind => and_congr_left fun _ => ?_
      exact ⟨readKind_eq_ok, fun isText => isText ▸ readKind_text kind⟩

/-- An entry has a kind, for which the rest of it is read. -/
theorem exists_readDraft_of_readEntry {datum : Datum} {draft : ResourceDraft}
    (read : readEntry datum = .ok draft) :
    ∃ kind rest, readDraft rest kind = .ok draft := by
  cases datum with
  | record members =>
      rw [readEntry] at read
      split at read
      · cases read
      · obtain ⟨kind, -, isRead⟩ := bind_eq_ok_iff.mp read
        exact ⟨kind, _, isRead⟩
  | sequence items =>
      cases items with
      | nil => cases read
      | cons first rest =>
          obtain ⟨kind, -, isRead⟩ := bind_eq_ok_iff.mp read
          exact ⟨kind, _, isRead⟩
  | _ => cases read

end Datum

/-- What holds for the kind of every entry form holds for every kind. -/
theorem ResourceKind.of_entryForms {motive : ResourceKind → Prop}
    (each : ∀ {Draft : Type} (form : EntryForm Draft), motive form.kind)
    (kind : ResourceKind) : motive kind := by
  cases kind with
  | authenticationConfiguration => exact each AuthenticationConfiguration.entry
  | clientSslContext => exact each ClientSslContext.entry
  | credentialStore => exact each CredentialStore.entry
  | customRealm => exact each CustomRealm.entry
  | filesystemRealm => exact each FilesystemRealm.entry
  | httpAuthenticationFactory => exact each HttpAuthenticationFactory.entry
  | securityDomain => exact each SecurityDomain.entry
  | x500AttributePrincipalDecoder =>
      exact each X500AttributePrincipalDecoder.entry

/-- A resource is known by its kind, its name, its attributes and its flag. -/
theorem Resource.command_congr {resource other : Resource}
    (sameKind : other.kind = resource.kind)
    (sameName : other.name.text = resource.name.text)
    (sameValues : other.values = resource.values)
    (sameReplace : other.replaceExisting = resource.replaceExisting) :
    other.command = resource.command := by
  simp only [command, address, ResourceKind.address, sameKind, sameName,
    sameValues, sameReplace]

namespace EntryForm

variable {Draft : Type} (form : EntryForm Draft)

/-! ## Names -/

theorem distinct_settings : (form.settings.map Setting.name).Nodup :=
  (List.nodup_append.mp form.distinct).2.1

/-- No setting has the name of a member that directs the reading. -/
theorem not_mem_directingMembers {setting : Setting Draft}
    (isSetting : setting ∈ form.settings) :
    setting.name ∉ Datum.directingMembers := fun isDirecting =>
  (List.nodup_append.mp form.distinct).2.2 _ isDirecting _
    (List.mem_map_of_mem isSetting) rfl

theorem distinct_fields :
    (form.shape.fields.map Datum.Check.name).Nodup := by
  have names_eq : form.shape.fields.map Datum.Check.name =
      Datum.nameMember ::
        (form.settings.map Setting.name ++ [Datum.replaceMember]) := by
    rw [form.fields_eq, List.map_append, List.map_cons, List.map_map]
    rfl
  rw [names_eq]
  refine ((List.perm_append_singleton _ _).cons _).nodup_iff.mpr ?_
  exact (List.nodup_cons.mp form.distinct).2

theorem mem_fields {field : Datum.Check} :
    field ∈ form.shape.fields ↔
      field = (Datum.nameField Datum.nameMember).optional ∨
      field = (Datum.switchField Datum.replaceMember).optional ∨
      ∃ setting ∈ form.settings, field = setting.field.optional := by
  rw [form.fields_eq, List.mem_append, List.mem_cons, List.mem_map,
    List.mem_singleton, or_assoc]
  refine or_congr_right (Or.comm.trans (or_congr_right ?_))
  exact exists_congr fun setting => and_congr_right fun _ => eq_comm

theorem missing?_eq_none (members : Members Datum) :
    Datum.missing? form.shape.fields members = none := by
  refine Datum.missing?_eq_none (fun field isField => ?_) members
  rcases form.mem_fields.mp isField with rfl | rfl | ⟨setting, -, rfl⟩ <;> rfl

/-! ## Checked members -/

/-- Members pass where the name is a text, the replace flag is a truth value,
and every other member is read by the setting of its name. -/
theorem checkMembers_iff {members : Members Datum} :
    checkMembers form.shape.fields members = .ok () ↔
      ∀ member ∈ members,
        (member.1 = Datum.nameMember ∧ ∃ text, member.2 = .text text) ∨
        (member.1 = Datum.replaceMember ∧ ∃ flag, member.2 = .boolean flag) ∨
        ∃ setting ∈ form.settings, setting.name = member.1 ∧
          ∃ value, setting.form.read member.2 = .ok value := by
  rw [Datum.checkMembers_eq_ok_iff form.distinct_fields]
  refine forall₂_congr fun member _ => ?_
  constructor
  · rintro ⟨field, isField, sameName, accepted⟩
    rcases form.mem_fields.mp isField with rfl | rfl | ⟨setting, isOne, rfl⟩
    · obtain ⟨text, isRead⟩ := Datum.faultOf_eq_none_iff.mp accepted
      exact Or.inl
        ⟨sameName.symm, text, Datum.readText_eq_ok_iff.mp isRead⟩
    · obtain ⟨flag, isRead⟩ := Datum.faultOf_eq_none_iff.mp accepted
      exact Or.inr (Or.inl
        ⟨sameName.symm, flag, Datum.readBoolean_eq_ok_iff.mp isRead⟩)
    · exact Or.inr (Or.inr
        ⟨setting, isOne, sameName, Datum.faultOf_eq_none_iff.mp accepted⟩)
  · rintro (⟨isName, text, isText⟩ | ⟨isFlag, flag, isBoolean⟩ |
      ⟨setting, isOne, sameName, isRead⟩)
    · refine ⟨_, form.mem_fields.mpr (Or.inl rfl), isName.symm, ?_⟩
      rw [isText]
      rfl
    · refine ⟨_, form.mem_fields.mpr (Or.inr (Or.inl rfl)), isFlag.symm, ?_⟩
      rw [isBoolean]
      rfl
    · exact ⟨_, form.mem_fields.mpr (Or.inr (Or.inr ⟨setting, isOne, rfl⟩)),
        sameName, Datum.faultOf_eq_none_iff.mpr isRead⟩

/-- What a draft holds of the members of an entry. -/
structure Holds (draft : Draft) (members : Members Datum) : Prop where
  name : form.name draft = (Datum.nameField Datum.nameMember).get members
  replaces : form.replaces draft =
    (Datum.switchField Datum.replaceMember).get members
  slots : slotsOf form.settings draft = slotsIn form.settings members

/-- Members that pass the checks make a draft. -/
theorem readDraft_record {members : Members Datum}
    (checked : checkMembers form.shape.fields members = .ok ()) :
    ∃ draft, Datum.readDraft (.record members) form.kind =
        .ok (form.wrap draft) ∧
      form.Holds draft members := by
  obtain ⟨draft, isMade, name, replaces, slots⟩ := form.made members
  refine ⟨draft, ?_, name, replaces, slots⟩
  rw [form.readDraft_eq, Datum.RecordShape.read_record checked
    (form.missing?_eq_none members), isMade]
  rfl

/-- A draft that was read holds members that passed the checks. -/
theorem exists_of_readDraft {datum : Datum} {draft : ResourceDraft}
    (read : Datum.readDraft datum form.kind = .ok draft) :
    ∃ held members, draft = form.wrap held ∧
      checkMembers form.shape.fields members = .ok () ∧
      form.Holds held members := by
  rw [form.readDraft_eq] at read
  obtain ⟨held, isRead, rfl⟩ := map_eq_ok_iff.mp read
  obtain ⟨members, checked, isMade⟩ := Datum.RecordShape.exists_members isRead
  obtain ⟨made, isMadeOf, name, replaces, slots⟩ := form.made members
  rw [isMade, Except.ok.injEq] at isMadeOf
  subst isMadeOf
  exact ⟨held, members, rfl, checked, name, replaces, slots⟩

/-- From a record, the members are those of the record. -/
theorem of_readDraft_record {members : Members Datum} {draft : ResourceDraft}
    (read : Datum.readDraft (.record members) form.kind = .ok draft) :
    checkMembers form.shape.fields members = .ok () ∧
      ∃ held, draft = form.wrap held ∧ form.Holds held members := by
  have isRead := read
  rw [form.readDraft_eq] at isRead
  obtain ⟨_, isHeld, -⟩ := map_eq_ok_iff.mp isRead
  obtain ⟨checked, -, -⟩ := Datum.RecordShape.made_of_read_record isHeld
  obtain ⟨held, readAgain, holds⟩ := form.readDraft_record checked
  rw [read, Except.ok.injEq] at readAgain
  exact ⟨checked, held, readAgain, holds⟩

/-! ## Commands -/

/-- The parts of the command that a draft makes. -/
structure Makes (draft : Draft) (command : Command) : Prop where
  kind : command.kind = form.kind.text
  name : command.address.leaf.name = form.name draft
  replaces : command.replaceExisting = form.replaces draft
  values : command.values = present
    (arrange (form.wrap draft).attributeOrder (slotsOf form.settings draft))

theorem distinct_arranged (draft : Draft) :
    Members.Distinct (arrange (form.wrap draft).attributeOrder
      (slotsOf form.settings draft)) := by
  rw [Members.Distinct, ValueSet.names_arrange]
  exact (form.ordered draft).nodup_iff.mpr form.distinct_settings

theorem makes_of_command {draft : Draft} {command : Command}
    (isMade : (form.wrap draft).command = .ok command) :
    form.Makes draft command := by
  obtain ⟨resource, built, rfl⟩ := map_eq_ok_iff.mp isMade
  obtain ⟨kind, name, replaces, values⟩ := form.built built
  exact ⟨congrArg ResourceKind.text kind, name, replaces, values⟩

/-- Drafts that agree in name, flag and slots make the same command. -/
theorem command_congr {draft other : Draft} {command : Command}
    (isMade : (form.wrap draft).command = .ok command)
    (sameName : form.name other = form.name draft)
    (sameReplace : form.replaces other = form.replaces draft)
    (sameSlots : slotsOf form.settings other = slotsOf form.settings draft) :
    (form.wrap other).command = .ok command := by
  obtain ⟨resource, built, rfl⟩ := map_eq_ok_iff.mp isMade
  obtain ⟨sameOrder, again, builtAgain⟩ :=
    form.rebuilt built sameName sameSlots
  obtain ⟨kind, name, replaces, values⟩ := form.built built
  obtain ⟨otherKind, otherName, otherReplaces, otherValues⟩ :=
    form.built builtAgain
  refine map_eq_ok_iff.mpr
    ⟨again, builtAgain, Resource.command_congr ?_ ?_ ?_ ?_⟩
  · rw [otherKind, kind]
  · rw [otherName, name, sameName]
  · rw [otherValues, values, sameOrder, sameSlots]
  · rw [otherReplaces, replaces, sameReplace]

section Makes

variable {form} {draft : Draft} {command : Command}
  (makes : form.Makes draft command)
include makes

theorem Makes.get?_values (name : String) :
    Members.get? name command.values =
      held (slotsOf form.settings draft) name := by
  have sameNames : (form.wrap draft).attributeOrder.Perm
      (Members.names (slotsOf form.settings draft)) := by
    rw [Datum.names_slotsOf]
    exact form.ordered draft
  rw [makes.values, ValueSet.get?_present (form.distinct_arranged draft),
    ValueSet.held_arrange sameNames]

theorem Makes.distinct_values : Members.Distinct command.values := by
  rw [makes.values]
  exact ValueSet.distinct_present (form.distinct_arranged draft)

end Makes

end EntryForm

end Provision
