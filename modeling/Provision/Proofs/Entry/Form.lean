import Mathlib.Data.List.Nodup
import Provision.Proofs.Entry.Written

/-!
Contract: the forms in which settings are written and sent.

A writing pairs the reader of a member with the value that is sent for what
was read.  It carries three laws.  What is sent renders the normal form of
the member; what is sent can be written into an entry, where it is read as a
setting for which the same is sent; and the same is sent however the members
of records are ordered.

Owns:
- `Writing`, `Form` for members that may be left out, and `ItemForm` for
  items of lists;
- settings, which bind a form to a name, and what a list of settings finds in
  the members of a record;
- `RecordForm`, the laws of a record whose members are all settings.

Does not own: which settings a record has.
-/

namespace Provision.Datum

open ValueSet (Slots present held)

/-- How something is written and what is sent for it, if anything is. -/
structure Writing (α : Type) where
  read : DataReader α
  shown : α → Option Value
  manner : Manner
  renders : ∀ {datum : Datum} {value : α}, read datum = .ok value →
    datum.isKeyedAs manner = true →
    Option.Rel (Renders manner) (shown value) (datum.sent? manner)
  rereads : ∀ {datum : Datum} {value : α} {sent : Value},
    read datum = .ok value → shown value = some sent →
    ∃ again, read (ofJson (manner.relisted sent.toJson)) = .ok again ∧
      shown again = some sent
  reorders : ∀ {datum other : Datum} {value : α}, read datum = .ok value →
    datum.isKeyedAs manner = true → Reordered datum other →
    ∃ again, read other = .ok again ∧ shown again = shown value

/-- How a setting is written that may be left out. -/
structure Form (α : Type) extends Writing α where
  absent : α
  shown_absent : shown absent = none

/-- How an item of a list is written and what is sent for it. -/
structure ItemForm (α : Type) where
  read : DataReader α
  shown : α → Value
  renders : ∀ {datum : Datum} {value : α}, read datum = .ok value →
    datum.isSequence = false → datum.isKeyed = true →
    Json.Alike (shown value).toJson datum.normal
  rereads : ∀ {datum : Datum} {value : α}, read datum = .ok value →
    ∃ again, read (ofJson (shown value).toJson) = .ok again ∧
      shown again = shown value
  reorders : ∀ {datum other : Datum} {value : α}, read datum = .ok value →
    datum.isSequence = false → datum.isKeyed = true → Reordered datum other →
    ∃ again, read other = .ok again ∧ shown again = shown value

/-- A setting that is written under a name in a form, and the part of a draft
that holds it. -/
structure Setting (Draft : Type) where
  {α : Type}
  name : String
  form : Form α
  part : Draft → α

namespace Setting

variable {Draft : Type}

/-- The field of an entry that holds the setting. -/
def field (setting : Setting Draft) : Field setting.α :=
  ⟨setting.name, setting.form.read, setting.form.absent⟩

/-- What is sent for the setting of a draft. -/
def slot (setting : Setting Draft) (draft : Draft) :
    String × Option Value :=
  (setting.name, setting.form.shown (setting.part draft))

/-- What is sent for the setting in the members of a record. -/
def shownIn (setting : Setting Draft) (members : Members Datum) :
    Option Value :=
  setting.form.shown (setting.field.get members)

end Setting

section Settings

variable {Draft : Type} (settings : List (Setting Draft))

/-- The slots that a draft fills. -/
def slotsOf (draft : Draft) : Slots :=
  settings.map fun setting => setting.slot draft

/-- The slots that the members of a record fill. -/
def slotsIn (members : Members Datum) : Slots :=
  settings.map fun setting => (setting.name, setting.shownIn members)

/-- Every member that is found belongs to a setting, whose form reads it. -/
def Accepted (members : Members Datum) : Prop :=
  ∀ (name : String) (datum : Datum), Members.get? name members = some datum →
    ∃ setting ∈ settings, setting.name = name ∧
      ∃ value, setting.form.read datum = .ok value

end Settings

/-! ## What settings find in members -/

section Setting

variable {Draft : Type} {setting : Setting Draft}
  {members others : Members Datum}

/-- What is sent comes from a member that was read. -/
theorem Setting.exists_of_shownIn {sent : Value}
    (isShown : setting.shownIn members = some sent) :
    ∃ datum value, Members.get? setting.name members = some datum ∧
      setting.form.read datum = .ok value ∧
      setting.form.shown value = some sent := by
  rcases setting.field.get_cases members with isAbsent | ⟨datum, bound, read⟩
  · rw [shownIn, isAbsent] at isShown
    change setting.form.shown setting.form.absent = some sent at isShown
    rw [setting.form.shown_absent] at isShown
    cases isShown
  · exact ⟨datum, _, bound, read, isShown⟩

/-- The member that holds what is sent for a setting. -/
def Setting.written (setting : Setting Draft) (sent : Value) : Datum :=
  ofJson (setting.form.manner.relisted sent.toJson)

/-- What is sent can be read as a member, and the same is sent for it. -/
theorem Setting.shownIn_written
    (held : Members.get? setting.name others =
      (setting.shownIn members).map setting.written) :
    setting.shownIn others = setting.shownIn members := by
  cases isShown : setting.shownIn members with
  | none =>
      rw [isShown] at held
      rw [shownIn, Field.get_of_unbound held]
      exact setting.form.shown_absent
  | some sent =>
      obtain ⟨datum, value, -, read, shows⟩ := exists_of_shownIn isShown
      obtain ⟨again, readAgain, showsAgain⟩ :=
        setting.form.rereads read shows
      rw [isShown] at held
      rw [shownIn, Field.get_of_read held readAgain]
      exact showsAgain

theorem Setting.reads_written {sent : Value}
    (isShown : setting.shownIn members = some sent) :
    ∃ again, setting.form.read (setting.written sent) = .ok again := by
  obtain ⟨datum, value, -, read, shows⟩ := exists_of_shownIn isShown
  obtain ⟨again, readAgain, -⟩ := setting.form.rereads read shows
  exact ⟨again, readAgain⟩

end Setting

section Settings

variable {Draft : Type} {settings : List (Setting Draft)}
  {members others : Members Datum}

theorem names_slotsIn :
    Members.names (slotsIn settings members) =
      settings.map Setting.name := by
  simp [Members.names, slotsIn, Function.comp_def]

theorem names_slotsOf (draft : Draft) :
    Members.names (slotsOf settings draft) = settings.map Setting.name := by
  simp [Members.names, slotsOf, Setting.slot, Function.comp_def]

theorem distinct_slotsOf (distinct : (settings.map Setting.name).Nodup)
    (draft : Draft) : Members.Distinct (slotsOf settings draft) := by
  rw [Members.Distinct, names_slotsOf]
  exact distinct

theorem distinct_slotsIn (distinct : (settings.map Setting.name).Nodup)
    (members : Members Datum) :
    Members.Distinct (slotsIn settings members) := by
  rw [Members.Distinct, names_slotsIn]
  exact distinct

/-- Filling the slots of distinct settings makes the set of those that are
filled. -/
theorem fillAll_slotsOf (distinct : (settings.map Setting.name).Nodup)
    (draft : Draft) :
    ValueSet.fillAll ValueSet.empty (slotsOf settings draft) =
      present (slotsOf settings draft) :=
  ValueSet.fillAll_empty _
    (ValueSet.distinct_present (distinct_slotsOf distinct draft))

/-- Settings for which the same is sent hold the same in every slot. -/
theorem held_eq_of_present_eq (distinct : (settings.map Setting.name).Nodup)
    {draft other : Draft}
    (same : present (slotsOf settings other) =
      present (slotsOf settings draft)) (name : String) :
    held (slotsOf settings other) name =
      held (slotsOf settings draft) name := by
  rw [← ValueSet.get?_present (distinct_slotsOf distinct other), same,
    ValueSet.get?_present (distinct_slotsOf distinct draft)]

/-- The slot of a setting holds what the setting finds. -/
theorem held_slotsIn (distinct : (settings.map Setting.name).Nodup)
    {setting : Setting Draft} (isSetting : setting ∈ settings) :
    held (slotsIn settings members) setting.name =
      setting.shownIn members := by
  induction settings with
  | nil => simp at isSetting
  | cons first rest inductionHypothesis =>
      rw [List.map_cons, List.nodup_cons] at distinct
      rcases List.mem_cons.mp isSetting with rfl | inRest
      · simp [held, slotsIn, Members.get?]
      · have isOther : first.name ≠ setting.name := fun same =>
          distinct.1 (same ▸ List.mem_map_of_mem inRest)
        have ofRest := inductionHypothesis distinct.2 inRest
        simpa [held, slotsIn, Members.get?, isOther] using ofRest

theorem held_slotsIn_of_not_mem {name : String}
    (isOther : name ∉ settings.map Setting.name) :
    held (slotsIn settings members) name = none := by
  rw [← names_slotsIn, ← Members.get?_eq_none_iff] at isOther
  rw [held, isOther]
  rfl

/-- Members pass the checks of settings where each of them is read by the
setting of its name. -/
theorem checkMembers_settings_iff
    (distinct : (settings.map Setting.name).Nodup) :
    checkMembers (settings.map fun setting => setting.field.optional)
        members = .ok () ↔
      ∀ member ∈ members, ∃ setting ∈ settings, setting.name = member.1 ∧
        ∃ value, setting.form.read member.2 = .ok value := by
  have distinctChecks : ((settings.map fun setting =>
      setting.field.optional).map Check.name).Nodup := by
    rwa [List.map_map]
  rw [checkMembers_eq_ok_iff distinctChecks]
  simp only [List.mem_map, exists_exists_and_eq_and]
  exact forall₂_congr fun member _ => exists_congr fun setting =>
    and_congr_right fun _ => and_congr_right fun _ => faultOf_eq_none_iff

theorem accepted_of_checkMembers
    (distinct : (settings.map Setting.name).Nodup)
    (checked : checkMembers
      (settings.map fun setting => setting.field.optional) members =
        .ok ()) :
    Accepted settings members := fun _ _ bound =>
  (checkMembers_settings_iff distinct).mp checked _
    (Members.mem_of_get?_eq_some bound)

/-- Members with distinct names that are accepted pass the checks. -/
theorem checkMembers_of_accepted
    (distinct : (settings.map Setting.name).Nodup)
    (distinctMembers : Members.Distinct members)
    (accepted : Accepted settings members) :
    checkMembers (settings.map fun setting => setting.field.optional)
      members = .ok () :=
  (checkMembers_settings_iff distinct).mpr fun _ isMember =>
    accepted _ _ (Members.get?_eq_some_of_mem distinctMembers isMember)

/-- An accepted member is read by the one setting of its name. -/
theorem Accepted.read (accepted : Accepted settings members)
    (distinct : (settings.map Setting.name).Nodup) {setting : Setting Draft}
    (isSetting : setting ∈ settings) {datum : Datum}
    (bound : Members.get? setting.name members = some datum) :
    ∃ value, setting.form.read datum = .ok value := by
  obtain ⟨other, isOther, sameName, isRead⟩ := accepted _ _ bound
  have isSame : other = setting :=
    List.inj_on_of_nodup_map distinct isOther isSetting sameName
  exact isSame ▸ isRead

/-- What is sent for accepted members renders their normal forms. -/
theorem renders_slotsIn (distinct : (settings.map Setting.name).Nodup)
    (mannered : ∀ setting ∈ settings,
      setting.form.manner = .ofName setting.name)
    (accepted : Accepted settings members)
    (keyed : isKeyed (.record members) = true) (name : String) :
    Option.Rel (Renders (.ofName name))
      (held (slotsIn settings members) name)
      (Members.get? name (normalMembers members)) := by
  rw [get?_normalMembers (isKeyed_record_iff.mp keyed).1]
  cases bound : Members.get? name members with
  | none =>
      -- Nothing is written under the name, so the slot is empty or missing.
      have isEmpty : held (slotsIn settings members) name = none := by
        by_cases isName : name ∈ settings.map Setting.name
        · obtain ⟨setting, isSetting, rfl⟩ := List.mem_map.mp isName
          rw [held_slotsIn distinct isSetting, Setting.shownIn,
            Field.get_of_unbound bound]
          exact setting.form.shown_absent
        · exact held_slotsIn_of_not_mem isName
      rw [isEmpty]
      exact .none
  | some datum =>
      obtain ⟨setting, isSetting, rfl, value, read⟩ := accepted _ _ bound
      have isKeyedAs := isKeyedAs_of_get? keyed bound
      rw [← mannered setting isSetting] at isKeyedAs ⊢
      rw [held_slotsIn distinct isSetting, Setting.shownIn,
        Field.get_of_read bound read]
      exact setting.form.renders read isKeyedAs

/-- Sets that render the normal form of members name by name render it as a
whole. -/
theorem alike_of_renders {values : ValueSet}
    (distinct : Members.Distinct values)
    (distinctMembers : Members.Distinct members)
    (rendered : ∀ name, Option.Rel (Renders (.ofName name))
      (Members.get? name values)
      (Members.get? name (normalMembers members))) :
    Json.Alike values.toJson (.object (normalMembers members)) := by
  refine Json.Alike.of_lookups ?_ ?_ fun name => ?_
  · rw [Members.Distinct, Value.names_membersToJson]
    exact distinct
  · exact (names_normalMembers_sublist members).nodup distinctMembers
  · rw [Value.get?_membersToJson]
    exact Renders.alike_toJson (rendered name)

/-! ## Members in another order -/

section Reordered

variable (distinct : (settings.map Setting.name).Nodup)
  (mannered : ∀ setting ∈ settings,
    setting.form.manner = .ofName setting.name)
  (accepted : Accepted settings members)
  (keyed : isKeyed (.record members) = true)
  (reordered : ∀ name, Option.Rel Reordered (Members.get? name members)
    (Members.get? name others))
include mannered keyed

/-- A reordered member is read by the setting of its name, and the same is
sent for it. -/
theorem exists_read_of_reordered {setting : Setting Draft}
    (isSetting : setting ∈ settings) {datum other : Datum} {value : setting.α}
    (bound : Members.get? setting.name members = some datum)
    (read : setting.form.read datum = .ok value)
    (isReordered : Reordered datum other) :
    ∃ again, setting.form.read other = .ok again ∧
      setting.form.shown again = setting.form.shown value := by
  have isKeyedAs := isKeyedAs_of_get? keyed bound
  rw [← mannered setting isSetting] at isKeyedAs
  exact setting.form.reorders read isKeyedAs isReordered

include accepted reordered

/-- Reordered members are read by the settings of their names. -/
theorem accepted_reordered : Accepted settings others := by
  intro name other otherBound
  have related := reordered name
  rw [otherBound] at related
  obtain ⟨datum, bound, isReordered⟩ := Members.exists_of_some_rel related
  obtain ⟨setting, isSetting, rfl, value, read⟩ := accepted _ _ bound
  obtain ⟨again, readAgain, -⟩ := exists_read_of_reordered mannered keyed
    isSetting bound read isReordered
  exact ⟨setting, isSetting, rfl, again, readAgain⟩

include distinct

/-- Reordered members fill the same slots. -/
theorem slotsIn_reordered :
    slotsIn settings others = slotsIn settings members := by
  refine List.map_congr_left fun setting isSetting => ?_
  have related := reordered setting.name
  refine congrArg (Prod.mk setting.name) ?_
  rw [Setting.shownIn, Setting.shownIn]
  cases bound : Members.get? setting.name members with
  | none =>
      rw [bound] at related
      have unbound := Members.eq_none_of_rel_none related
      rw [Field.get_of_unbound unbound, Field.get_of_unbound bound]
  | some datum =>
      rw [bound] at related
      obtain ⟨other, otherBound, isReordered⟩ :=
        Members.exists_of_rel_some related
      obtain ⟨value, read⟩ := accepted.read distinct isSetting bound
      obtain ⟨again, readAgain, sameShown⟩ := exists_read_of_reordered mannered
        keyed isSetting bound read isReordered
      rw [Field.get_of_read otherBound readAgain, Field.get_of_read bound read]
      exact sameShown

end Reordered

/-! ## What is sent, written as members -/

/-- The members of an entry that stand for a set of attributes. -/
def writtenOf (values : ValueSet) : Members Datum :=
  values.map fun member =>
    (member.1, ofJson ((Manner.ofName member.1).relisted member.2.toJson))

theorem ofJson_nested {values : ValueSet}
    (plain : ∀ name ∈ Members.names values, Manner.ofName name = .plain) :
    ofJson (Value.nested values).toJson = .record (writtenOf values) := by
  rw [Value.toJson, Value.membersToJson_eq_map, ofJson, ofMembers_eq_map,
    List.map_map, writtenOf]
  refine congrArg record (List.map_congr_left fun member isMember => ?_)
  rw [plain _ (List.mem_map_of_mem isMember)]
  rfl

section Written

variable {values : ValueSet}
  (distinct : (settings.map Setting.name).Nodup)
  (mannered : ∀ setting ∈ settings,
    setting.form.manner = .ofName setting.name)
  (holds : ∀ name,
    Members.get? name values = held (slotsIn settings members) name)
include distinct mannered holds

theorem get?_writtenOf {setting : Setting Draft}
    (isSetting : setting ∈ settings) :
    Members.get? setting.name (writtenOf values) =
      (setting.shownIn members).map setting.written := by
  have isHeld := holds setting.name
  rw [held_slotsIn distinct isSetting] at isHeld
  rw [← isHeld]
  clear isHeld holds
  unfold writtenOf Setting.written
  rw [mannered setting isSetting]
  induction values with
  | nil => rfl
  | cons member rest inductionHypothesis =>
      by_cases isHere : member.1 = setting.name
      · simp [Members.get?, isHere]
      · simpa [Members.get?, isHere] using inductionHypothesis

/-- Each of the members is read by the setting of its name. -/
theorem exists_setting_of_mem_writtenOf
    (distinctValues : Members.Distinct values) {member : String × Datum}
    (isMember : member ∈ writtenOf values) :
    ∃ setting ∈ settings, setting.name = member.1 ∧
      ∃ again, setting.form.read member.2 = .ok again := by
  obtain ⟨⟨name, sent⟩, isSent, rfl⟩ := List.mem_map.mp isMember
  have bound := Members.get?_eq_some_of_mem distinctValues isSent
  rw [holds] at bound
  have isName : name ∈ settings.map Setting.name := by
    by_contra isOther
    rw [held_slotsIn_of_not_mem isOther] at bound
    cases bound
  obtain ⟨setting, isSetting, rfl⟩ := List.mem_map.mp isName
  rw [held_slotsIn distinct isSetting] at bound
  obtain ⟨again, readAgain⟩ := Setting.reads_written bound
  refine ⟨setting, isSetting, rfl, again, ?_⟩
  rw [Setting.written, mannered setting isSetting] at readAgain
  exact readAgain

end Written

/-- Members that hold what is sent for others fill the same slots. -/
theorem slotsIn_written
    (written : ∀ setting ∈ settings,
      Members.get? setting.name others =
        (setting.shownIn members).map setting.written) :
    slotsIn settings others = slotsIn settings members := by
  refine List.map_congr_left fun setting isSetting => ?_
  rw [Setting.shownIn_written (written setting isSetting)]

end Settings

/-! ## Records whose members are all settings -/

/-- A record whose members are all sent in the way in which they are written,
and the set that is sent for it. -/
structure RecordForm (α Draft : Type) where
  shape : RecordShape α
  settings : List (Setting Draft)
  values : α → ValueSet
  fields_eq : shape.fields =
    settings.map fun setting => setting.field.optional
  distinct : (settings.map Setting.name).Nodup
  plain : ∀ setting ∈ settings,
    setting.form.manner = .plain ∧ Manner.ofName setting.name = .plain
  made : ∀ {members : Members Datum} {value : α},
    shape.make members = .ok value →
      values value = present (slotsIn settings members)
  remade : ∀ {members others : Members Datum} {value : α},
    shape.make members = .ok value →
    slotsIn settings others = slotsIn settings members →
    ∃ again, shape.make others = .ok again

namespace RecordForm

variable {α Draft : Type} (form : RecordForm α Draft)

theorem missing?_eq_none (members : Members Datum) :
    missing? form.shape.fields members = none := by
  refine Datum.missing?_eq_none (fun field isField => ?_) members
  rw [form.fields_eq] at isField
  obtain ⟨setting, -, rfl⟩ := List.mem_map.mp isField
  rfl

theorem mannered : ∀ setting ∈ form.settings,
    setting.form.manner = .ofName setting.name := by
  intro setting isSetting
  obtain ⟨isPlain, isPlainName⟩ := form.plain setting isSetting
  rw [isPlain, isPlainName]

/-- The names that are sent for a record are written in the plain manner. -/
theorem plain_of_mem_values {members : Members Datum} {value : α}
    (isMade : form.shape.make members = .ok value) :
    ∀ name ∈ Members.names (form.values value),
      Manner.ofName name = .plain := by
  intro name isName
  rw [form.made isMade] at isName
  have isSlot := (ValueSet.names_present_sublist _).subset isName
  rw [names_slotsIn] at isSlot
  obtain ⟨setting, isSetting, rfl⟩ := List.mem_map.mp isSlot
  exact (form.plain setting isSetting).2

/-- The set that is sent for a record renders the normal form of the record. -/
theorem renders {datum : Datum} {value : α}
    (read : form.shape.read datum = .ok value)
    (isRecord : datum.isSequence = false) (keyed : datum.isKeyed = true) :
    Json.Alike (Value.nested (form.values value)).toJson datum.normal ∧
      datum.isUnset = false := by
  cases datum with
  | record members =>
      refine ⟨?_, rfl⟩
      obtain ⟨checked, -, isMade⟩ := RecordShape.made_of_read_record read
      rw [form.fields_eq] at checked
      have distinctSlots := distinct_slotsIn form.distinct members
      rw [form.made isMade]
      refine alike_of_renders (ValueSet.distinct_present distinctSlots)
        (isKeyed_record_iff.mp keyed).1 fun name => ?_
      rw [ValueSet.get?_present distinctSlots]
      exact renders_slotsIn form.distinct form.mannered
        (accepted_of_checkMembers form.distinct checked) keyed name
  | sequence items => cases isRecord
  | _ => cases read

/-- What is sent for a record is read as a record for which it is sent. -/
theorem rereads {datum : Datum} {value : α}
    (read : form.shape.read datum = .ok value) :
    ∃ again,
      form.shape.read (ofJson (Value.nested (form.values value)).toJson) =
        .ok again ∧
      form.values again = form.values value := by
  obtain ⟨members, -, isMade⟩ := RecordShape.exists_members read
  have distinctSlots := distinct_slotsIn form.distinct members
  have isSent := form.made isMade
  have holds : ∀ name, Members.get? name (form.values value) =
      held (slotsIn form.settings members) name := by
    rw [isSent]
    exact ValueSet.get?_present distinctSlots
  have distinctValues : Members.Distinct (form.values value) := by
    rw [isSent]
    exact ValueSet.distinct_present distinctSlots
  -- The two records hold the same as far as settings can tell, so the value
  -- that is made may differ only in what is not sent.
  have sameSlots := slotsIn_written fun setting isSetting =>
    get?_writtenOf form.distinct form.mannered holds isSetting
  obtain ⟨again, isMadeAgain⟩ := form.remade isMade sameSlots
  have readAgain : form.shape.read
      (ofJson (Value.nested (form.values value)).toJson) = .ok again := by
    have checked : checkMembers form.shape.fields
        (writtenOf (form.values value)) = .ok () := by
      rw [form.fields_eq, checkMembers_settings_iff form.distinct]
      exact fun member isMember => exists_setting_of_mem_writtenOf
        form.distinct form.mannered holds distinctValues isMember
    rw [ofJson_nested (form.plain_of_mem_values isMade),
      RecordShape.read_record checked (form.missing?_eq_none _)]
    exact isMadeAgain
  refine ⟨again, readAgain, ?_⟩
  rw [form.made isMadeAgain, sameSlots, isSent]

/-- The same is sent for a record whose members are reordered. -/
theorem reorders {datum other : Datum} {value : α}
    (read : form.shape.read datum = .ok value)
    (isRecord : datum.isSequence = false) (keyed : datum.isKeyed = true)
    (isReordered : Reordered datum other) :
    ∃ again, form.shape.read other = .ok again ∧
      form.values again = form.values value := by
  cases datum with
  | record members =>
      obtain ⟨others, rfl, sameNames, reordered⟩ := isReordered.record_cases
      obtain ⟨checked, -, isMade⟩ := RecordShape.made_of_read_record read
      rw [form.fields_eq] at checked
      have accepted := accepted_of_checkMembers form.distinct checked
      have sameSlots := slotsIn_reordered form.distinct form.mannered accepted
        keyed reordered
      obtain ⟨again, isMadeAgain⟩ := form.remade isMade sameSlots
      have otherDistinct : Members.Distinct others :=
        sameNames.nodup_iff.mp (isKeyed_record_iff.mp keyed).1
      have otherChecked : checkMembers form.shape.fields others = .ok () := by
        rw [form.fields_eq]
        exact checkMembers_of_accepted form.distinct otherDistinct
          (accepted_reordered form.mannered accepted keyed reordered)
      refine ⟨again, ?_, ?_⟩
      · rw [RecordShape.read_record otherChecked (form.missing?_eq_none _)]
        exact isMadeAgain
      · rw [form.made isMadeAgain, sameSlots, form.made isMade]
  | sequence items => cases isRecord
  | _ => cases read

end RecordForm

end Provision.Datum
