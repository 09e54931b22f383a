import Provision.Proofs.Entry.Commands

/-!
Contract: what a command sends can be read back as an entry.

Owns:
- `Command.entryJson`, the entry that stands for a command;
- the reading of that entry, which makes the command again.

Does not own: the text of the entry, which is that of any data document.
-/

namespace Provision

open ValueSet (held)
open Datum (Manner slotsIn checkMembers writtenOf kindMember nameMember
  replaceMember)

/-- The entry that stands for a command: its kind, its name, its replace flag
and its attributes, with sets of properties written as lists. -/
def Command.entryJson (command : Command) : Json :=
  .object
    ([(kindMember, .string command.kind),
      (nameMember, .string command.address.leaf.name),
      (replaceMember, .boolean command.replaceExisting)] ++
    (Value.membersToJson command.values).map fun member =>
      (member.1, (Manner.ofName member.1).relisted member.2))

namespace Datum

/-- The members of the entry that stands for a command. -/
def writtenCommand (command : Command) : Members Datum :=
  (kindMember, .text command.kind) ::
    (nameMember, .text command.address.leaf.name) ::
    (replaceMember, .boolean command.replaceExisting) ::
    writtenOf command.values

theorem ofJson_entryJson (command : Command) :
    ofJson command.entryJson = .record (writtenCommand command) := by
  rw [Command.entryJson, ofJson, ofMembers_eq_map, List.map_append,
    List.map_map, Value.membersToJson_eq_map, List.map_map]
  rfl

end Datum

open Datum (writtenCommand)

namespace EntryForm

variable {Draft : Type} {form : EntryForm Draft} {draft : Draft}
  {command : Command} {members : Members Datum}
  (holds : form.Holds draft members) (makes : form.Makes draft command)
include holds makes

theorem get?_values_eq_held (name : String) :
    Members.get? name command.values =
      held (slotsIn form.settings members) name := by
  rw [makes.get?_values, holds.slots]

theorem checkMembers_writtenCommand :
    checkMembers form.shape.fields
      (Members.erase kindMember (writtenCommand command)) = .ok () := by
  refine form.checkMembers_iff.mpr fun member isMember => ?_
  obtain ⟨isWritten, notKind⟩ := List.mem_filter.mp isMember
  rcases List.mem_cons.mp isWritten with rfl | isWritten
  · simp at notKind
  rcases List.mem_cons.mp isWritten with rfl | isWritten
  · exact Or.inl ⟨rfl, _, rfl⟩
  rcases List.mem_cons.mp isWritten with rfl | isWritten
  · exact Or.inr (Or.inl ⟨rfl, _, rfl⟩)
  · exact Or.inr (Or.inr (Datum.exists_setting_of_mem_writtenOf
      form.distinct_settings form.mannered (get?_values_eq_held holds makes)
      makes.distinct_values isWritten))

theorem slotsIn_writtenCommand :
    slotsIn form.settings
        (Members.erase kindMember (writtenCommand command)) =
      slotsIn form.settings members := by
  refine Datum.slotsIn_written fun setting isSetting => ?_
  have isAttribute := form.not_mem_directingMembers isSetting
  simp only [Datum.directingMembers, List.mem_cons, List.not_mem_nil,
    or_false, not_or] at isAttribute
  obtain ⟨notKind, notName, notReplace⟩ := isAttribute
  rw [Members.get?_erase, if_neg notKind, writtenCommand]
  simp only [Members.get?, if_neg (Ne.symm notKind), if_neg (Ne.symm notName),
    if_neg (Ne.symm notReplace)]
  exact Datum.get?_writtenOf form.distinct_settings form.mannered
    (get?_values_eq_held holds makes) isSetting

/-- The entry that stands for a command makes the command. -/
theorem command_writtenCommand
    (isMade : (form.wrap draft).command = .ok command) :
    ∃ again, Datum.readEntry (.record (writtenCommand command)) = .ok again ∧
      again.command = .ok command := by
  obtain ⟨again, read, holdsAgain⟩ :=
    form.readDraft_record (checkMembers_writtenCommand holds makes)
  have isKind : Members.get? kindMember (writtenCommand command) =
      some (.text form.kind.text) := by
    rw [← makes.kind]
    rfl
  refine ⟨form.wrap again,
    Datum.readEntry_record_eq_ok_iff.mpr ⟨form.kind, isKind, read⟩,
    form.command_congr isMade ?_ ?_ ?_⟩
  · rw [holdsAgain.name, ← makes.name]
    exact Datum.Field.get_of_read rfl rfl
  · rw [holdsAgain.replaces, ← makes.replaces]
    exact Datum.Field.get_of_read rfl rfl
  · rw [holdsAgain.slots, slotsIn_writtenCommand holds makes, holds.slots]

end EntryForm

/-- **What a command sends can be read back.**  The entry that stands for a
command which an entry made is an entry, and makes the same command. -/
theorem Command.entryJson_reread (datum : Datum) (draft : ResourceDraft)
    (command : Command) (read : Datum.readEntry datum = .ok draft)
    (isMade : draft.command = .ok command) :
    ∃ again, Datum.readEntry (Datum.ofJson command.entryJson) = .ok again ∧
      again.command = .ok command := by
  obtain ⟨kind, rest, isRead⟩ := Datum.exists_readDraft_of_readEntry read
  induction kind using ResourceKind.of_entryForms with | each form =>
  obtain ⟨held, members, rfl, -, holds⟩ := form.exists_of_readDraft isRead
  rw [Datum.ofJson_entryJson]
  exact EntryForm.command_writtenCommand holds (form.makes_of_command isMade)
    isMade

/-- An entry without names, with a property that is listed twice. -/
def positionalEntry : Datum :=
  .sequence
    [.text "custom-realm", .text "staff", .text "org.example.Realm", .absent,
      .sequence
        [.record [("name", .text "table"), ("value", .text "users")],
          .record [("name", .text "cache"), ("value", .text "")],
          .record [("name", .text "table"), ("value", .text "people")]]]

/-- The realm that the entry stands for. -/
def positionalRealm : CustomRealm.Draft where
  name := "staff"
  className := some "org.example.Realm"
  configuration := [⟨"table", "users"⟩, ⟨"cache", ""⟩, ⟨"table", "people"⟩]

/-- The command that adds the realm, with each property once. -/
def positionalCommand : Command where
  kind := "custom-realm"
  address := ⟨[subsystemSegment], ⟨"custom-realm", "staff"⟩⟩
  values :=
    [("class-name", .text "org.example.Realm"),
      ("configuration",
        .nested [("table", .text "people"), ("cache", .text "")])]
  replaceExisting := false
  offline := none

theorem Command.entryJson_reread_sample :
    Datum.readEntry positionalEntry = .ok (.customRealm positionalRealm) ∧
      (ResourceDraft.customRealm positionalRealm).command =
        .ok positionalCommand ∧
      ∃ again,
        Datum.readEntry (Datum.ofJson positionalCommand.entryJson) =
          .ok again ∧
        again.command = .ok positionalCommand := by
  have read : Datum.readEntry positionalEntry =
      .ok (.customRealm positionalRealm) := rfl
  have isMade : (ResourceDraft.customRealm positionalRealm).command =
      .ok positionalCommand := rfl
  exact ⟨read, isMade, entryJson_reread positionalEntry _ _ read isMade⟩

end Provision
