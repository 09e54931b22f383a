import Provision.Proofs.Entry.Commands
import Provision.Proofs.Value.Lookups

/-!
Contract: an entry means the same however it is laid out.

A record finds its members by their names, and a sequence is read as the
record that pairs the names of the fields with the values.  So neither the
order of the members matters, nor whether the names are written at all.  Each
way to build a reader keeps this property, and every reader of an entry is
built in one of these ways.

Owns:
- `hasDistinctNames`, for data in which no record repeats a name;
- `SameContent`, data that differ in the order of members at most;
- `IgnoresOrder`, for readers, for checks and for the shapes of records, with
  one law for each way to build a reader;
- the shape of the settings of each kind;
- records and sequences that hold the same values.

Does not own: which faults are reported for data that are refused.
-/

namespace Provision

namespace Datum

/-! ## Data with the same content -/

mutual

/-- Whether no record repeats a name, at any depth. -/
def hasDistinctNames : Datum → Bool
  | .sequence items => itemsHaveDistinctNames items
  | .record members =>
      decide (Members.Distinct members) && membersHaveDistinctNames members
  | _ => true

def itemsHaveDistinctNames : List Datum → Bool
  | [] => true
  | item :: rest => hasDistinctNames item && itemsHaveDistinctNames rest

def membersHaveDistinctNames : List (String × Datum) → Bool
  | [] => true
  | (_, datum) :: rest =>
      hasDistinctNames datum && membersHaveDistinctNames rest

end

theorem hasDistinctNames_sequence_iff {items : List Datum} :
    hasDistinctNames (.sequence items) = true ↔
      ∀ item ∈ items, item.hasDistinctNames = true := by
  rw [hasDistinctNames]
  induction items with
  | nil => simp [itemsHaveDistinctNames]
  | cons item rest inductionHypothesis =>
      simp [itemsHaveDistinctNames, inductionHypothesis]

theorem hasDistinctNames_record_iff {members : List (String × Datum)} :
    hasDistinctNames (.record members) = true ↔
      Members.Distinct members ∧
        ∀ member ∈ members, member.2.hasDistinctNames = true := by
  have ofMembers : membersHaveDistinctNames members = true ↔
      ∀ member ∈ members, member.2.hasDistinctNames = true := by
    induction members with
    | nil => simp [membersHaveDistinctNames]
    | cons member rest inductionHypothesis =>
        rw [membersHaveDistinctNames, Bool.and_eq_true, inductionHypothesis,
          List.forall_mem_cons]
  rw [hasDistinctNames, Bool.and_eq_true, decide_eq_true_iff, ofMembers]

/-- Equal data, or data without repeated names that differ in the order of
members only. -/
def SameContent (datum other : Datum) : Prop :=
  datum = other ∨ datum.hasDistinctNames = true ∧ Reordered datum other

theorem SameContent.refl (datum : Datum) : SameContent datum datum :=
  Or.inl rfl

/-- Members that have the same content name by name. -/
def SameMembers (members others : Members Datum) : Prop :=
  ∀ name, Option.Rel SameContent (Members.get? name members)
    (Members.get? name others)

theorem SameMembers.of_get?_eq {members others : Members Datum}
    (same : ∀ name,
      Members.get? name members = Members.get? name others) :
    SameMembers members others := by
  intro name
  rw [same name]
  cases Members.get? name others with
  | none => exact .none
  | some datum => exact .some (.refl datum)

theorem SameMembers.erase {members others : Members Datum}
    (same : SameMembers members others) (name : String) :
    SameMembers (Members.erase name members) (Members.erase name others) := by
  intro asked
  rw [Members.get?_erase, Members.get?_erase]
  split
  · exact .none
  · exact same asked

/-- Under the same names, values with the same content are members with the
same content. -/
theorem SameMembers.zip {items others : List Datum}
    (same : List.Forall₂ SameContent items others) (names : List String) :
    SameMembers (names.zip items) (names.zip others) := by
  induction same generalizing names with
  | nil => simpa using SameMembers.of_get?_eq fun _ => rfl
  | cons isSame _ inductionHypothesis =>
      cases names with
      | nil => exact SameMembers.of_get?_eq fun _ => rfl
      | cons first rest =>
          intro name
          simp only [List.zip_cons_cons, Members.get?]
          split
          · exact .some isSame
          · exact inductionHypothesis rest name

/-- Values have some of the names that they are paired with. -/
theorem names_zip_sublist (names : List String) (items : List Datum) :
    (Members.names (names.zip items)).Sublist names := by
  induction names generalizing items with
  | nil => simp [Members.names]
  | cons name rest inductionHypothesis =>
      cases items with
      | nil => simp [Members.names]
      | cons item others => exact (inductionHypothesis others).cons_cons name

/-- Items keep their content where a sequence keeps its own. -/
theorem Reordered.sameItems {items : List Datum} {other : Datum}
    (distinct : hasDistinctNames (.sequence items) = true)
    (reordered : Reordered (.sequence items) other) :
    ∃ others, other = .sequence others ∧
      List.Forall₂ SameContent items others := by
  obtain ⟨others, rfl, each⟩ := reordered.sequence_cases
  refine ⟨others, rfl, ?_⟩
  rw [List.forall₂_iff_get] at each ⊢
  refine ⟨each.1, fun place inside insideOther => Or.inr ⟨?_, ?_⟩⟩
  · exact hasDistinctNames_sequence_iff.mp distinct _ (List.get_mem _ _)
  · exact each.2 place inside insideOther

/-- Members keep their content where a record keeps its own. -/
theorem Reordered.sameMembers {members : Members Datum} {other : Datum}
    (distinct : hasDistinctNames (.record members) = true)
    (reordered : Reordered (.record members) other) :
    ∃ others, other = .record others ∧ Members.Distinct members ∧
      Members.Distinct others ∧ SameMembers members others := by
  obtain ⟨distinctMembers, eachDistinct⟩ :=
    hasDistinctNames_record_iff.mp distinct
  obtain ⟨others, rfl, sameNames, each⟩ := reordered.record_cases
  refine ⟨others, rfl, distinctMembers,
    sameNames.nodup_iff.mp distinctMembers, fun name => ?_⟩
  have related := each name
  cases bound : Members.get? name members with
  | none =>
      rw [bound] at related
      rw [Members.eq_none_of_rel_none related]
      exact .none
  | some datum =>
      rw [bound] at related
      obtain ⟨other, otherBound, isReordered⟩ :=
        Members.exists_of_rel_some related
      rw [otherBound]
      exact .some (Or.inr
        ⟨eachDistinct _ (Members.mem_of_get?_eq_some bound), isReordered⟩)

/-! ## Readers -/

/-- Data with the same content are read as the same value, or are both
refused. -/
def IgnoresOrder {α : Type} (read : DataReader α) : Prop :=
  ∀ ⦃datum other : Datum⦄ ⦃value : α⦄, SameContent datum other →
    (read datum = .ok value ↔ read other = .ok value)

section Readers

variable {α β : Type} {read : DataReader α}

/-- What holds no other data has no order to ignore. -/
theorem ignoresOrder_of_isLeaf
    (leaves : ∀ {datum : Datum} {value : α}, read datum = .ok value →
      IsLeaf datum) : IgnoresOrder read := by
  rintro datum other value (rfl | ⟨-, reordered⟩)
  · exact Iff.rfl
  · cases reordered with
    | same => exact Iff.rfl
    | sequence =>
        constructor <;> exact fun isRead => absurd rfl ((leaves isRead).1 _)
    | record =>
        constructor <;> exact fun isRead => absurd rfl ((leaves isRead).2 _)

theorem map_eq_ok_congr {result other : Except Fault α} {change : α → β}
    (alike : ∀ held, result = .ok held ↔ other = .ok held) {value : β} :
    result.map change = .ok value ↔ other.map change = .ok value := by
  rw [map_eq_ok_iff, map_eq_ok_iff]
  exact exists_congr fun held => and_congr_left fun _ => alike held

theorem IgnoresOrder.map (ignores : IgnoresOrder read) (change : α → β) :
    IgnoresOrder fun datum => (read datum).map change :=
  fun _ _ _ same => map_eq_ok_congr fun _ => ignores same

@[simp]
theorem ignoresOrder_readText : IgnoresOrder readText := by
  refine ignoresOrder_of_isLeaf fun isRead => ?_
  obtain rfl := readText_eq_ok_iff.mp isRead
  exact isLeaf_text _

@[simp]
theorem ignoresOrder_readBoolean : IgnoresOrder readBoolean := by
  refine ignoresOrder_of_isLeaf fun isRead => ?_
  obtain rfl := readBoolean_eq_ok_iff.mp isRead
  exact isLeaf_boolean _

theorem ignoresOrder_readNatural (limit : Nat) (title : String) :
    IgnoresOrder (readNatural limit title) := by
  refine ignoresOrder_of_isLeaf fun isRead => ?_
  obtain ⟨rfl, -⟩ := readNatural_eq_ok_iff.mp isRead
  constructor <;>
    · intro _ impossible
      cases impossible

@[simp]
theorem ignoresOrder_readWord16 : IgnoresOrder readWord16 :=
  (ignoresOrder_readNatural _ _).map _

@[simp]
theorem ignoresOrder_readWord32 : IgnoresOrder readWord32 :=
  (ignoresOrder_readNatural _ _).map _

/-- Null holds no other data, and all else is read as it stands. -/
@[simp]
theorem IgnoresOrder.optional (ignores : IgnoresOrder read) :
    IgnoresOrder (readOptional read) := by
  rintro datum other value (rfl | ⟨distinct, reordered⟩)
  · exact Iff.rfl
  · have same : SameContent datum other := Or.inr ⟨distinct, reordered⟩
    cases reordered with
    | same => exact Iff.rfl
    | sequence => exact ignores.map some same
    | record => exact ignores.map some same

/-- The items of two sequences are read one by one, so what holds of each of
them holds of all. -/
theorem IgnoresOrder.readAll_iff (ignores : IgnoresOrder read)
    {items others : List Datum} {values : List α}
    (same : List.Forall₂ SameContent items others) :
    readAll read items = .ok values ↔ readAll read others = .ok values := by
  rw [readAll_eq_ok_iff, readAll_eq_ok_iff]
  induction same generalizing values with
  | nil => exact Iff.rfl
  | cons isSame _ inductionHypothesis =>
      simp only [List.forall₂_cons_left_iff, ignores isSame,
        inductionHypothesis]

theorem IgnoresOrder.list (ignores : IgnoresOrder read) :
    IgnoresOrder (readList read) := by
  rintro datum other value (rfl | ⟨distinct, reordered⟩)
  · exact Iff.rfl
  · cases datum with
    | sequence items =>
        obtain ⟨others, rfl, same⟩ := reordered.sameItems distinct
        exact ignores.readAll_iff same
    | record members =>
        obtain ⟨others, rfl, -⟩ := reordered.record_cases
        exact ⟨nofun, nofun⟩
    | _ => cases reordered; exact Iff.rfl

end Readers

/-! ## Fields -/

/-- Data with the same content pass a check or fail it together. -/
def Check.IgnoresOrder (check : Check) : Prop :=
  ∀ ⦃datum other : Datum⦄, SameContent datum other →
    (check.fault? datum = none ↔ check.fault? other = none)

section Fields

variable {α : Type} {field : Field α}

theorem ignoresOrder_faultOf (ignores : IgnoresOrder field.read)
    {datum other : Datum} (same : SameContent datum other) :
    faultOf (field.read datum) = none ↔ faultOf (field.read other) = none := by
  rw [faultOf_eq_none_iff, faultOf_eq_none_iff]
  exact exists_congr fun value => ignores same

@[simp]
theorem Field.ignoresOrder_optional (ignores : IgnoresOrder field.read) :
    field.optional.IgnoresOrder :=
  fun _ _ same => ignoresOrder_faultOf ignores same

@[simp]
theorem Field.ignoresOrder_needed (ignores : IgnoresOrder field.read) :
    field.needed.IgnoresOrder :=
  fun _ _ same => ignoresOrder_faultOf ignores same

/-- A field holds the same in members with the same content. -/
theorem Field.get_of_sameMembers {members others : Members Datum}
    (same : SameMembers members others) (ignores : IgnoresOrder field.read) :
    field.get members = field.get others := by
  have related := same field.name
  rw [Field.get, Field.get]
  generalize Members.get? field.name members = found at related ⊢
  generalize Members.get? field.name others = otherFound at related ⊢
  cases related with
  | none => rfl
  | @some datum other isSame =>
      cases isRead : field.read datum with
      | ok value => simp only [isRead, (ignores isSame).mp isRead]
      | error _ =>
          cases isOtherRead : field.read other with
          | ok value =>
              rw [(ignores isSame).mpr isOtherRead] at isRead
              cases isRead
          | error _ => simp only [isRead, isOtherRead]

@[simp]
theorem ignoresOrder_textField (name : String) :
    IgnoresOrder (textField name).read := ignoresOrder_readText.optional

@[simp]
theorem ignoresOrder_nameField (name : String) :
    IgnoresOrder (nameField name).read := ignoresOrder_readText

@[simp]
theorem ignoresOrder_booleanField (name : String) :
    IgnoresOrder (booleanField name).read := ignoresOrder_readBoolean.optional

@[simp]
theorem ignoresOrder_switchField (name : String) :
    IgnoresOrder (switchField name).read := ignoresOrder_readBoolean

@[simp]
theorem ignoresOrder_word32Field (name : String) :
    IgnoresOrder (word32Field name).read := ignoresOrder_readWord32.optional

@[simp]
theorem ignoresOrder_listField (name : String) {read : DataReader α}
    (ignores : IgnoresOrder read) :
    IgnoresOrder (listField name read).read := ignores.list

@[simp]
theorem ignoresOrder_textsField (name : String) :
    IgnoresOrder (textsField name).read := ignoresOrder_readText.list

end Fields

/-! ## Records -/

/-- A record finds its members by distinct names and looks at nothing but
their content. -/
structure RecordShape.IgnoresOrder {α : Type} (shape : RecordShape α) :
    Prop where
  distinct : (shape.fields.map Check.name).Nodup
  checks : ∀ field ∈ shape.fields, field.IgnoresOrder
  makes : ∀ {members others : Members Datum}, SameMembers members others →
    shape.make members = shape.make others

section Records

variable {α : Type} {shape : RecordShape α} {members others : Members Datum}
  {items : List Datum} {value : α}

theorem RecordShape.read_record_eq_ok_iff :
    shape.read (.record members) = .ok value ↔
      checkMembers shape.fields members = .ok () ∧
        missing? shape.fields members = none ∧
        shape.make members = .ok value := by
  constructor
  · exact RecordShape.made_of_read_record
  · rintro ⟨checked, complete, isMade⟩
    rw [RecordShape.read_record checked complete, isMade]

theorem RecordShape.read_sequence_eq_ok_iff :
    shape.read (.sequence items) = .ok value ↔
      checkMembers shape.fields (shape.labelled items) = .ok () ∧
        shape.checkLength items.length = .ok () ∧
        shape.make (shape.labelled items) = .ok value := by
  simp only [RecordShape.read, bind_eq_ok_iff]
  constructor
  · rintro ⟨_, checked, _, fits, isMade⟩
    exact ⟨checked, fits, isMade⟩
  · rintro ⟨checked, fits, isMade⟩
    exact ⟨(), checked, (), fits, isMade⟩

theorem missing?_of_sameMembers (same : SameMembers members others)
    (fields : List Check) :
    missing? fields members = missing? fields others := by
  have sameNames : ∀ name,
      Members.contains name members = Members.contains name others :=
    fun name => Members.isSome_eq_of_rel (same name)
  simp only [missing?, sameNames]

/-- Members with distinct names pass where what is bound to each name is
accepted by the field of the name. -/
theorem checkMembers_iff_get? {fields : List Check}
    (distinctFields : (fields.map Check.name).Nodup)
    (distinct : Members.Distinct members) :
    checkMembers fields members = .ok () ↔
      ∀ name datum, Members.get? name members = some datum →
        ∃ field ∈ fields, field.name = name ∧ field.fault? datum = none := by
  rw [checkMembers_eq_ok_iff distinctFields]
  simp only [Prod.forall, Members.mem_iff_get?_eq_some distinct]

namespace RecordShape.IgnoresOrder

variable (ignores : shape.IgnoresOrder)
include ignores

theorem checkMembers_iff (distinct : Members.Distinct members)
    (otherDistinct : Members.Distinct others)
    (same : SameMembers members others) :
    checkMembers shape.fields members = .ok () ↔
      checkMembers shape.fields others = .ok () := by
  rw [checkMembers_iff_get? ignores.distinct distinct,
    checkMembers_iff_get? ignores.distinct otherDistinct]
  refine forall_congr' fun name => ?_
  have related := same name
  generalize Members.get? name members = found at related ⊢
  generalize Members.get? name others = otherFound at related ⊢
  cases related with
  | none => simp
  | some isSame =>
      simp only [Option.some.injEq, forall_eq']
      exact exists_congr fun field => and_congr_right fun isField =>
        and_congr_right fun _ => ignores.checks field isField isSame

theorem read_record_iff (distinct : Members.Distinct members)
    (otherDistinct : Members.Distinct others)
    (same : SameMembers members others) :
    shape.read (.record members) = .ok value ↔
      shape.read (.record others) = .ok value := by
  rw [read_record_eq_ok_iff, read_record_eq_ok_iff,
    ignores.checkMembers_iff distinct otherDistinct same,
    missing?_of_sameMembers same, ignores.makes same]

theorem distinct_labelled (items : List Datum) :
    Members.Distinct (shape.labelled items) :=
  (names_zip_sublist _ items).nodup ignores.distinct

theorem read_sequence_iff {otherItems : List Datum}
    (same : List.Forall₂ SameContent items otherItems) :
    shape.read (.sequence items) = .ok value ↔
      shape.read (.sequence otherItems) = .ok value := by
  have sameMembers :
      SameMembers (shape.labelled items) (shape.labelled otherItems) :=
    SameMembers.zip same _
  rw [read_sequence_eq_ok_iff, read_sequence_eq_ok_iff,
    ignores.checkMembers_iff (ignores.distinct_labelled items)
      (ignores.distinct_labelled otherItems) sameMembers,
    same.length_eq, ignores.makes sameMembers]

/-- A record that looks at its members by name only is read the same however
they are ordered, and however those inside them are. -/
theorem read : Datum.IgnoresOrder shape.read := by
  rintro datum other value (rfl | ⟨distinct, reordered⟩)
  · exact Iff.rfl
  · cases datum with
    | sequence items =>
        obtain ⟨others, rfl, same⟩ := reordered.sameItems distinct
        exact ignores.read_sequence_iff same
    | record members =>
        obtain ⟨others, rfl, distinctMembers, distinctOthers, same⟩ :=
          reordered.sameMembers distinct
        exact ignores.read_record_iff distinctMembers distinctOthers same
    | _ => cases reordered; exact Iff.rfl

/-- Where no field must be there, the values of a sequence are read as the
members that they stand for, in any order. -/
theorem read_record_iff_sequence
    (free : ∀ field ∈ shape.fields,
      field.named = false ∧ field.reached = false)
    (fits : items.length ≤ shape.fields.length)
    (distinct : Members.Distinct members)
    (same : ∀ name, Members.get? name members =
      Members.get? name (shape.labelled items)) :
    shape.read (.record members) = .ok value ↔
      shape.read (.sequence items) = .ok value := by
  have sameMembers := SameMembers.of_get?_eq same
  have complete : missing? shape.fields members = none :=
    missing?_eq_none (fun field isField => (free field isField).1) members
  have isLongEnough : shape.checkLength items.length = .ok () := by
    have nothingBeyond :
        ((shape.fields.drop items.length).findIdx? fun field =>
          field.reached) = none :=
      List.findIdx?_eq_none_iff.mpr fun field isField =>
        (free field (List.mem_of_mem_drop isField)).2
    simp [checkLength, nothingBeyond, fits]
  rw [read_record_eq_ok_iff, read_sequence_eq_ok_iff,
    ignores.checkMembers_iff distinct (ignores.distinct_labelled items)
      sameMembers, ignores.makes sameMembers]
  simp only [complete, isLongEnough, true_and]

end RecordShape.IgnoresOrder

end Records

/-! ## The records inside entries -/

theorem credentialShape_ignoresOrder : credentialShape.IgnoresOrder where
  distinct := by decide
  checks := by simp [credentialShape]
  makes same := by simp [credentialShape, Field.get_of_sameMembers same]

theorem propertyShape_ignoresOrder : propertyShape.IgnoresOrder where
  distinct := by decide
  checks := by simp [propertyShape]
  makes same := by simp [propertyShape, Field.get_of_sameMembers same]

theorem domainRealmShape_ignoresOrder : domainRealmShape.IgnoresOrder where
  distinct := by decide
  checks := by simp [domainRealmShape]
  makes same := by simp [domainRealmShape, Field.get_of_sameMembers same]

theorem mechanismRealmShape_ignoresOrder :
    mechanismRealmShape.IgnoresOrder where
  distinct := by decide
  checks := by simp [mechanismRealmShape]
  makes same := by simp [mechanismRealmShape, Field.get_of_sameMembers same]

theorem mechanismShape_ignoresOrder : mechanismShape.IgnoresOrder where
  distinct := by decide
  checks := by simp [mechanismShape, mechanismRealmShape_ignoresOrder.read]
  makes same := by
    simp [mechanismShape, mechanismRealmShape_ignoresOrder.read,
      Field.get_of_sameMembers same]

@[simp]
theorem ignoresOrder_credentialField (name : String) :
    IgnoresOrder (credentialField name).read :=
  IgnoresOrder.optional credentialShape_ignoresOrder.read

/-! ## The records of entries -/

theorem authenticationConfigurationShape_ignoresOrder :
    authenticationConfigurationShape.IgnoresOrder where
  distinct := by decide
  checks := by
    simp [authenticationConfigurationShape, propertyShape_ignoresOrder.read]
  makes same := by
    simp [authenticationConfigurationShape, propertyShape_ignoresOrder.read,
      Field.get_of_sameMembers same]

theorem clientSslContextShape_ignoresOrder :
    clientSslContextShape.IgnoresOrder where
  distinct := by decide
  checks := by simp [clientSslContextShape]
  makes same := by simp [clientSslContextShape, Field.get_of_sameMembers same]

theorem credentialStoreShape_ignoresOrder :
    credentialStoreShape.IgnoresOrder where
  distinct := by decide
  checks := by simp [credentialStoreShape]
  makes same := by simp [credentialStoreShape, Field.get_of_sameMembers same]

theorem customRealmShape_ignoresOrder : customRealmShape.IgnoresOrder where
  distinct := by decide
  checks := by simp [customRealmShape, propertyShape_ignoresOrder.read]
  makes same := by
    simp [customRealmShape, propertyShape_ignoresOrder.read,
      Field.get_of_sameMembers same]

theorem filesystemRealmShape_ignoresOrder :
    filesystemRealmShape.IgnoresOrder where
  distinct := by decide
  checks := by simp [filesystemRealmShape]
  makes same := by simp [filesystemRealmShape, Field.get_of_sameMembers same]

theorem httpAuthenticationFactoryShape_ignoresOrder :
    httpAuthenticationFactoryShape.IgnoresOrder where
  distinct := by decide
  checks := by
    simp [httpAuthenticationFactoryShape, mechanismShape_ignoresOrder.read]
  makes same := by
    simp [httpAuthenticationFactoryShape, mechanismShape_ignoresOrder.read,
      Field.get_of_sameMembers same]

theorem securityDomainShape_ignoresOrder :
    securityDomainShape.IgnoresOrder where
  distinct := by decide
  checks := by simp [securityDomainShape, domainRealmShape_ignoresOrder.read]
  makes same := by
    simp [securityDomainShape, domainRealmShape_ignoresOrder.read,
      Field.get_of_sameMembers same]

theorem x500AttributePrincipalDecoderShape_ignoresOrder :
    x500AttributePrincipalDecoderShape.IgnoresOrder where
  distinct := by decide
  checks := by simp [x500AttributePrincipalDecoderShape]
  makes same := by
    simp [x500AttributePrincipalDecoderShape, Field.get_of_sameMembers same]

end Datum

/-! ## The settings of each kind -/

namespace ResourceKind

/-- What the settings of a resource of a kind are drafted as. -/
def Draft : ResourceKind → Type
  | .authenticationConfiguration => AuthenticationConfiguration.Draft
  | .clientSslContext => ClientSslContext.Draft
  | .credentialStore => CredentialStore.Draft
  | .customRealm => CustomRealm.Draft
  | .filesystemRealm => FilesystemRealm.Draft
  | .httpAuthenticationFactory => HttpAuthenticationFactory.Draft
  | .securityDomain => SecurityDomain.Draft
  | .x500AttributePrincipalDecoder => X500AttributePrincipalDecoder.Draft

/-- The record of the settings of a kind. -/
def shape : (kind : ResourceKind) → Datum.RecordShape kind.Draft
  | .authenticationConfiguration => Datum.authenticationConfigurationShape
  | .clientSslContext => Datum.clientSslContextShape
  | .credentialStore => Datum.credentialStoreShape
  | .customRealm => Datum.customRealmShape
  | .filesystemRealm => Datum.filesystemRealmShape
  | .httpAuthenticationFactory => Datum.httpAuthenticationFactoryShape
  | .securityDomain => Datum.securityDomainShape
  | .x500AttributePrincipalDecoder => Datum.x500AttributePrincipalDecoderShape

def wrap : (kind : ResourceKind) → kind.Draft → ResourceDraft
  | .authenticationConfiguration => .authenticationConfiguration
  | .clientSslContext => .clientSslContext
  | .credentialStore => .credentialStore
  | .customRealm => .customRealm
  | .filesystemRealm => .filesystemRealm
  | .httpAuthenticationFactory => .httpAuthenticationFactory
  | .securityDomain => .securityDomain
  | .x500AttributePrincipalDecoder => .x500AttributePrincipalDecoder

/-- The names of the settings of a kind, in the order of its fields. -/
def fieldNames (kind : ResourceKind) : List String :=
  kind.shape.fields.map Datum.Check.name

/-- The settings in the order in which an entry without names gives them. -/
theorem fieldNames_eq (kind : ResourceKind) :
    kind.fieldNames =
      match kind with
      | .authenticationConfiguration =>
          ["name", "credential-reference", "authentication-name", "anonymous",
            "security-domain", "allow-all-mechanisms", "allow-sasl-mechanisms",
            "extends", "authorization-name", "host", "protocol", "port",
            "realm", "forbid-sasl-mechanisms", "mechanism-properties",
            "replace-existing"]
      | .clientSslContext =>
          ["name", "cipher-suite-filter", "maximum-session-cache-size",
            "session-timeout", "key-managers", "trust-managers", "protocols",
            "providers", "provider-name", "replace-existing"]
      | .credentialStore =>
          ["name", "uri", "credential-reference", "type", "providers",
            "provider-name", "other-providers", "relative-to", "create",
            "modifiable", "replace-existing"]
      | .customRealm =>
          ["name", "class-name", "module", "configuration",
            "replace-existing"]
      | .filesystemRealm =>
          ["name", "path", "relative-to", "levels", "replace-existing"]
      | .httpAuthenticationFactory =>
          ["name", "security-domain", "http-server-mechanism-factory",
            "mechanism-configurations", "replace-existing"]
      | .securityDomain =>
          ["name", "default-realm", "realms", "permission-mapper",
            "role-mapper", "pre-realm-principal-transformer",
            "post-realm-principal-transformer", "trusted-security-domains",
            "outflow-security-domains", "replace-existing"]
      | .x500AttributePrincipalDecoder =>
          ["name", "oid", "joiner", "start-segment", "maximum-segments",
            "reverse", "required-oids", "replace-existing"] := by
  cases kind <;> rfl

theorem readDraft_eq_map (kind : ResourceKind) (datum : Datum) :
    Datum.readDraft datum kind = (kind.shape.read datum).map kind.wrap := by
  cases kind <;> rfl

theorem kindMember_not_mem_fieldNames (kind : ResourceKind) :
    Datum.kindMember ∉ kind.fieldNames := by
  cases kind <;> decide

/-- Every setting may be left out, with its name and without. -/
theorem free_fields (kind : ResourceKind) :
    ∀ field ∈ kind.shape.fields,
      field.named = false ∧ field.reached = false := by
  cases kind <;> decide

theorem shape_ignoresOrder (kind : ResourceKind) :
    kind.shape.IgnoresOrder := by
  cases kind with
  | authenticationConfiguration =>
      exact Datum.authenticationConfigurationShape_ignoresOrder
  | clientSslContext => exact Datum.clientSslContextShape_ignoresOrder
  | credentialStore => exact Datum.credentialStoreShape_ignoresOrder
  | customRealm => exact Datum.customRealmShape_ignoresOrder
  | filesystemRealm => exact Datum.filesystemRealmShape_ignoresOrder
  | httpAuthenticationFactory =>
      exact Datum.httpAuthenticationFactoryShape_ignoresOrder
  | securityDomain => exact Datum.securityDomainShape_ignoresOrder
  | x500AttributePrincipalDecoder =>
      exact Datum.x500AttributePrincipalDecoderShape_ignoresOrder

/-- Where the settings are read alike, the drafts are. -/
theorem readDraft_iff (kind : ResourceKind) {datum other : Datum}
    (alike : ∀ settings, kind.shape.read datum = .ok settings ↔
      kind.shape.read other = .ok settings) {draft : ResourceDraft} :
    Datum.readDraft datum kind = .ok draft ↔
      Datum.readDraft other kind = .ok draft := by
  rw [kind.readDraft_eq_map, kind.readDraft_eq_map]
  exact Datum.map_eq_ok_congr alike

end ResourceKind

/-! ## Entries -/

namespace Datum

theorem readEntry_sequence_eq_ok_iff {first : Datum} {rest : List Datum}
    {draft : ResourceDraft} :
    readEntry (.sequence (first :: rest)) = .ok draft ↔
      ∃ kind : ResourceKind, first = .text kind.text ∧
        readDraft (.sequence rest) kind = .ok draft := by
  rw [readEntry, bind_eq_ok_iff]
  refine exists_congr fun kind => and_congr_left fun _ => ?_
  exact ⟨readKind_eq_ok, fun isText => isText ▸ readKind_text kind⟩

theorem SameContent.eq_text_iff {datum other : Datum}
    (same : SameContent datum other) {text : String} :
    datum = .text text ↔ other = .text text := by
  rw [← readText_eq_ok_iff, ← readText_eq_ok_iff]
  exact ignoresOrder_readText same

/-- Members with the same content name the same kind. -/
theorem SameMembers.get?_eq_text_iff {members others : Members Datum}
    (same : SameMembers members others) {name text : String} :
    Members.get? name members = some (.text text) ↔
      Members.get? name others = some (.text text) := by
  have related := same name
  generalize Members.get? name members = found at related ⊢
  generalize Members.get? name others = otherFound at related ⊢
  cases related with
  | none => exact Iff.rfl
  | some isSame =>
      rw [Option.some.injEq, Option.some.injEq]
      exact isSame.eq_text_iff

/-- Entries with the same content are read as the same draft, or are both
refused. -/
theorem ignoresOrder_readEntry : IgnoresOrder readEntry := by
  rintro datum other draft (rfl | ⟨distinct, reordered⟩)
  · exact Iff.rfl
  · cases datum with
    | sequence items =>
        obtain ⟨others, rfl, same⟩ := reordered.sameItems distinct
        cases same with
        | nil => exact Iff.rfl
        | cons isSame restSame =>
            rw [readEntry_sequence_eq_ok_iff, readEntry_sequence_eq_ok_iff]
            exact exists_congr fun kind => and_congr isSame.eq_text_iff
              (kind.readDraft_iff fun _ =>
                kind.shape_ignoresOrder.read_sequence_iff restSame)
    | record members =>
        obtain ⟨others, rfl, distinctMembers, distinctOthers, same⟩ :=
          reordered.sameMembers distinct
        rw [readEntry_record_eq_ok_iff, readEntry_record_eq_ok_iff]
        exact exists_congr fun kind => and_congr same.get?_eq_text_iff
          (kind.readDraft_iff fun _ =>
            kind.shape_ignoresOrder.read_record_iff
              (distinctMembers.filter _) (distinctOthers.filter _)
              (same.erase kindMember))
    | _ => cases reordered; exact Iff.rfl

/-- The members that a sequence of a kind stands for. -/
def namedMembers (kind : ResourceKind) (values : List Datum) :
    Members Datum :=
  (kindMember, .text kind.text) :: kind.fieldNames.zip values

section Named

variable {kind : ResourceKind} {values : List Datum} {members : Members Datum}

theorem distinct_namedMembers (kind : ResourceKind) (values : List Datum) :
    Members.Distinct (namedMembers kind values) := by
  refine List.nodup_cons.mpr ⟨fun isSetting => ?_,
    kind.shape_ignoresOrder.distinct_labelled values⟩
  apply kind.kindMember_not_mem_fieldNames
  exact (names_zip_sublist kind.fieldNames values).subset isSetting

theorem get?_erase_namedMembers (name : String) :
    Members.get? name (Members.erase kindMember (namedMembers kind values)) =
      Members.get? name (kind.fieldNames.zip values) := by
  have isNew := (List.nodup_cons.mp (distinct_namedMembers kind values)).1
  rw [Members.get?_erase]
  split
  · next isKind =>
      rw [isKind, eq_comm, Members.get?_eq_none_iff]
      exact isNew
  · next notKind =>
      simp [namedMembers, Members.get?, Ne.symm notKind]

/-- An entry with names, in any order, is read as the entry without. -/
theorem readEntry_named_iff
    (fits : values.length ≤ kind.fieldNames.length)
    (rearranged : members.Perm (namedMembers kind values))
    {draft : ResourceDraft} :
    readEntry (.record members) = .ok draft ↔
      readEntry (.sequence (.text kind.text :: values)) = .ok draft := by
  have namedDistinct := distinct_namedMembers kind values
  have distinct : Members.Distinct members :=
    (rearranged.map Prod.fst).nodup_iff.mpr namedDistinct
  have same :=
    (Members.perm_iff_get?_eq distinct namedDistinct).mp rearranged
  have isKind : Members.get? kindMember members = some (.text kind.text) := by
    rw [same]
    rfl
  have sameSettings : ∀ name,
      Members.get? name (Members.erase kindMember members) =
        Members.get? name (kind.fieldNames.zip values) := by
    intro name
    rw [← get?_erase_namedMembers, Members.get?_erase, Members.get?_erase,
      same]
  have ofRecord : readEntry (.record members) =
      readDraft (.record (Members.erase kindMember members)) kind := by
    simp only [readEntry, isKind, readKind_text]
    rfl
  have ofSequence : readEntry (.sequence (.text kind.text :: values)) =
      readDraft (.sequence values) kind := by
    rw [readEntry, readKind_text]
    rfl
  have fitsFields : values.length ≤ kind.shape.fields.length := by
    simpa [ResourceKind.fieldNames] using fits
  rw [ofRecord, ofSequence]
  exact kind.readDraft_iff fun _ =>
    kind.shape_ignoresOrder.read_record_iff_sequence kind.free_fields
      fitsFields (distinct.filter _) sameSettings

end Named

/-- **An entry means the same however it is laid out.**  Give values to the
first settings of a kind, in the order of its fields.  The record that names
the kind and the settings, with its members in any order, and the sequence
that begins with the kind are read as the same draft, or both are refused.
And when no record inside an entry repeats a name, all reorderings of the
entry, at any depth, are read as the same draft, or all are refused.  What a
draft builds, or why it builds nothing, depends on the draft alone. -/
theorem readEntry_ignores_layout :
    (∀ (kind : ResourceKind) (values : List Datum) (members : Members Datum),
      values.length ≤ kind.fieldNames.length →
      members.Perm (namedMembers kind values) →
      ∀ draft, readEntry (.record members) = .ok draft ↔
        readEntry (.sequence (.text kind.text :: values)) = .ok draft) ∧
    ∀ datum other : Datum, datum.hasDistinctNames = true →
      Reordered datum other →
      ∀ draft, readEntry datum = .ok draft ↔ readEntry other = .ok draft := by
  constructor
  · intro kind values members fits rearranged draft
    exact readEntry_named_iff fits rearranged
  · intro datum other distinct reordered draft
    exact ignoresOrder_readEntry (Or.inr ⟨distinct, reordered⟩)

/-- A security domain, without names, that refers to two realms. -/
def domainValues : List Datum :=
  [.text "Management", .text "local", .sequence
    [.record [("realm", .text "local"), ("role-decoder", .text "groups")],
      .sequence [.text "ldap"]]]

/-- The same domain with names, from the last member to the kind. -/
def domainMembers : Members Datum :=
  [("realms", .sequence
      [.record [("realm", .text "local"), ("role-decoder", .text "groups")],
        .sequence [.text "ldap"]]),
    ("default-realm", .text "local"), ("name", .text "Management"),
    ("kind", .text "security-domain")]

/-- The same members in another order, as are those of the first realm. -/
def reorderedMembers : Members Datum :=
  [("name", .text "Management"), ("kind", .text "security-domain"),
    ("realms", .sequence
      [.record [("role-decoder", .text "groups"), ("realm", .text "local")],
        .sequence [.text "ldap"]]),
    ("default-realm", .text "local")]

theorem reordered_domainMembers :
    Reordered (.record domainMembers) (.record reorderedMembers) := by
  have realm : Reordered
      (.record [("realm", .text "local"), ("role-decoder", .text "groups")])
      (.record
        [("role-decoder", .text "groups"), ("realm", .text "local")]) := by
    refine .record (by decide) fun name datum other bound otherBound => ?_
    have isMember := Members.mem_of_get?_eq_some bound
    simp only [List.mem_cons, Prod.mk.injEq, List.not_mem_nil, or_false]
      at isMember
    rcases isMember with ⟨rfl, rfl⟩ | ⟨rfl, rfl⟩ <;>
      cases otherBound <;> exact .same _
  refine .record (by decide) fun name datum other bound otherBound => ?_
  have isMember := Members.mem_of_get?_eq_some bound
  simp only [domainMembers, List.mem_cons, Prod.mk.injEq, List.not_mem_nil,
    or_false] at isMember
  rcases isMember with ⟨rfl, rfl⟩ | ⟨rfl, rfl⟩ | ⟨rfl, rfl⟩ | ⟨rfl, rfl⟩
  · cases otherBound
    refine .sequence rfl fun place item other held otherHeld => ?_
    match place with
    | 0 => cases held; cases otherHeld; exact realm
    | 1 => cases held; cases otherHeld; exact .same _
  all_goals
    cases otherBound
    exact .same _

theorem readEntry_ignores_layout_sample :
    domainValues.length ≤ ResourceKind.securityDomain.fieldNames.length ∧
    domainMembers.Perm (namedMembers .securityDomain domainValues) ∧
    hasDistinctNames (.record domainMembers) = true ∧
    Reordered (.record domainMembers) (.record reorderedMembers) ∧
    ∃ draft command, draft.command = .ok command ∧
      readEntry (.record domainMembers) = .ok draft ∧
      readEntry (.sequence (.text ResourceKind.securityDomain.text ::
        domainValues)) = .ok draft ∧
      readEntry (.record reorderedMembers) = .ok draft := by
  have fits : domainValues.length ≤
      ResourceKind.securityDomain.fieldNames.length := by decide
  have rearranged :
      domainMembers.Perm (namedMembers .securityDomain domainValues) :=
    List.reverse_perm (namedMembers .securityDomain domainValues)
  have distinct : hasDistinctNames (.record domainMembers) = true := by decide
  have made : ∃ draft command, draft.command = .ok command ∧
      readEntry (.record domainMembers) = .ok draft := ⟨_, _, rfl, rfl⟩
  obtain ⟨draft, command, isMade, read⟩ := made
  have positional := (readEntry_ignores_layout.1 .securityDomain domainValues
    domainMembers fits rearranged draft).mp read
  have reordered := (readEntry_ignores_layout.2 (.record domainMembers)
    (.record reorderedMembers) distinct reordered_domainMembers draft).mp read
  exact ⟨fits, rearranged, distinct, reordered_domainMembers, draft, command,
    isMade, read, positional, reordered⟩

end Datum

end Provision
