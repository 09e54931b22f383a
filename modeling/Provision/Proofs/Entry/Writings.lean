import Provision.Proofs.Entry.Form
import Provision.Proofs.Resource.Building

/-!
Contract: the forms of the settings that entries are made of.

Owns:
- the forms of texts, flags and numbers;
- the form of a list, given how its items are written;
- the form of free properties, which are read as a list and sent as a set.

Does not own: settings that are records, and the settings of a resource.
-/

namespace Provision.Datum

/-! ## Texts, flags and numbers -/

theorem readText_eq_ok_iff {datum : Datum} {text : String} :
    readText datum = .ok text ↔ datum = .text text := by
  cases datum <;> simp [readText]

theorem readBoolean_eq_ok_iff {datum : Datum} {flag : Bool} :
    readBoolean datum = .ok flag ↔ datum = .boolean flag := by
  cases datum <;> simp [readBoolean]

theorem readNatural_eq_ok_iff {limit : Nat} {title : String} {datum : Datum}
    {number : Nat} :
    readNatural limit title datum = .ok number ↔
      datum = .integer number ∧ number < limit := by
  cases datum with
  | integer value =>
      rw [readNatural]
      by_cases fits : 0 ≤ value ∧ value < limit
      · rw [if_pos fits, Except.ok.injEq, Datum.integer.injEq]
        omega
      · rw [if_neg fits]
        simp only [reduceCtorEq, Datum.integer.injEq, false_iff]
        omega
  | _ => simp [readNatural]

def Writing.text : Writing String where
  read := readText
  shown := Value.ofText
  manner := .plain
  renders := by
    intro datum text read _
    obtain rfl := readText_eq_ok_iff.mp read
    by_cases isEmpty : text = ""
    · rw [Value.ofText, if_pos isEmpty, sent?, isUnset, isEmpty]
      exact .none
    · rw [Value.ofText_of_ne isEmpty, sent?, isUnset, decide_eq_false isEmpty]
      exact .some (.of_eq rfl)
  rereads := by
    intro datum text sent _ isShown
    obtain ⟨-, rfl⟩ := Value.ofText_eq_some_iff.mp isShown
    exact ⟨text, rfl, isShown⟩
  reorders := by
    intro datum other text read _ reordered
    obtain rfl := readText_eq_ok_iff.mp read
    obtain rfl := reordered.eq_of_isLeaf ⟨nofun, nofun⟩
    exact ⟨text, rfl, rfl⟩

def Writing.flag : Writing Bool where
  read := readBoolean
  shown flag := some (.boolean flag)
  manner := .plain
  renders := by
    intro datum flag read _
    obtain rfl := readBoolean_eq_ok_iff.mp read
    exact .some (.of_eq rfl)
  rereads := by
    rintro datum flag _ _ ⟨⟩
    exact ⟨flag, rfl, rfl⟩
  reorders := by
    intro datum other flag read _ reordered
    obtain rfl := readBoolean_eq_ok_iff.mp read
    obtain rfl := reordered.eq_of_isLeaf ⟨nofun, nofun⟩
    exact ⟨flag, rfl, rfl⟩

theorem toJson_ofNatural {number : Nat} (fits : number < UInt32.size) :
    (Value.scalar (.ofNatural number)).toJson = .number (.integer number) := by
  have fitsSigned : number < 2 ^ 63 := Nat.lt_trans fits (by decide)
  rw [Value.toJson, Scalar.ofNatural, Scalar.toJson,
    Int64.toInt_ofNat_of_lt fitsSigned]

/-- A number of a type that holds the natural numbers below a limit. -/
def Writing.number {α : Type} (limit : Nat) (title : String) (ofNat : Nat → α)
    (toNat : α → Nat) (small : limit ≤ UInt32.size)
    (toNat_ofNat : ∀ number < limit, toNat (ofNat number) = number) :
    Writing α where
  read datum := (readNatural limit title datum).map ofNat
  shown value := some (.scalar (.ofNatural (toNat value)))
  manner := .plain
  renders := by
    intro datum value read _
    obtain ⟨number, isRead, rfl⟩ := map_eq_ok_iff.mp read
    obtain ⟨rfl, fits⟩ := readNatural_eq_ok_iff.mp isRead
    refine .some (.of_eq ?_)
    rw [toNat_ofNat number fits,
      toJson_ofNatural (Nat.lt_of_lt_of_le fits small), normal]
  rereads := by
    rintro datum value _ read ⟨⟩
    obtain ⟨number, isRead, rfl⟩ := map_eq_ok_iff.mp read
    obtain ⟨-, fits⟩ := readNatural_eq_ok_iff.mp isRead
    refine ⟨ofNat number, ?_, rfl⟩
    rw [toNat_ofNat number fits,
      toJson_ofNatural (Nat.lt_of_lt_of_le fits small)]
    exact map_eq_ok_iff.mpr
      ⟨number, readNatural_eq_ok_iff.mpr ⟨rfl, fits⟩, rfl⟩
  reorders := by
    intro datum other value read _ reordered
    obtain ⟨number, isRead, -⟩ := map_eq_ok_iff.mp read
    obtain ⟨rfl, -⟩ := readNatural_eq_ok_iff.mp isRead
    obtain rfl := reordered.eq_of_isLeaf ⟨nofun, nofun⟩
    exact ⟨value, read, rfl⟩

/-! ## Settings that may be left out -/

theorem readOptional_of_read {α : Type} {read : DataReader α} {datum : Datum}
    {value : α} (refusesNull : ∀ value, read .absent ≠ .ok value)
    (isRead : read datum = .ok value) :
    readOptional read datum = .ok (some value) := by
  cases datum with
  | absent => exact absurd isRead (refusesNull value)
  | _ => simp [readOptional, isRead, Except.map]

theorem readOptional_eq_ok {α : Type} {read : DataReader α} {datum : Datum}
    {value : Option α} (isRead : readOptional read datum = .ok value) :
    datum = .absent ∧ value = none ∨
      ∃ held, value = some held ∧ read datum = .ok held := by
  cases datum with
  | absent =>
      rw [readOptional, Except.ok.injEq] at isRead
      exact Or.inl ⟨rfl, isRead.symm⟩
  | _ =>
      obtain ⟨held, isHeld, rfl⟩ := map_eq_ok_iff.mp isRead
      exact Or.inr ⟨held, rfl, isHeld⟩

/-- A setting that may be left out or be null. -/
def Writing.optional {α : Type} (writing : Writing α)
    (refusesNull : ∀ value, writing.read .absent ≠ .ok value) :
    Form (Option α) where
  read := readOptional writing.read
  shown value := value.bind writing.shown
  manner := writing.manner
  renders := by
    intro datum value isRead keyed
    rcases readOptional_eq_ok isRead with ⟨rfl, rfl⟩ | ⟨held, rfl, isHeld⟩
    · exact .none
    · exact writing.renders isHeld keyed
  rereads := by
    intro datum value sent isRead isShown
    rcases readOptional_eq_ok isRead with ⟨-, rfl⟩ | ⟨held, rfl, isHeld⟩
    · cases isShown
    · obtain ⟨again, readAgain, shownAgain⟩ := writing.rereads isHeld isShown
      exact ⟨some again, readOptional_of_read refusesNull readAgain,
        shownAgain⟩
  reorders := by
    intro datum other value isRead keyed reordered
    rcases readOptional_eq_ok isRead with ⟨rfl, rfl⟩ | ⟨held, rfl, isHeld⟩
    · obtain rfl := reordered.eq_of_isLeaf ⟨nofun, nofun⟩
      exact ⟨none, rfl, rfl⟩
    · obtain ⟨again, readAgain, sameShown⟩ :=
        writing.reorders isHeld keyed reordered
      exact ⟨some again, readOptional_of_read refusesNull readAgain,
        sameShown⟩
  absent := none
  shown_absent := rfl

namespace Form

/-- A text that may be left out or be null. -/
def text : Form (Option String) :=
  Writing.text.optional fun _ impossible => nomatch impossible

/-- A text that may be left out, but not be null. -/
def name : Form String :=
  { Writing.text with absent := "", shown_absent := rfl }

def flag : Form (Option Bool) :=
  Writing.flag.optional fun _ impossible => nomatch impossible

def word16 : Form (Option UInt16) :=
  (Writing.number UInt16.size "u16" UInt16.ofNat UInt16.toNat (by decide)
    fun _ fits => UInt16.toNat_ofNat_of_lt fits).optional
      fun _ impossible => nomatch impossible

def word32 : Form (Option UInt32) :=
  (Writing.number UInt32.size "u32" UInt32.ofNat UInt32.toNat (by decide)
    fun _ fits => UInt32.toNat_ofNat_of_lt fits).optional
      fun _ impossible => nomatch impossible

end Form

/-! ## Lists -/

def ItemForm.text : ItemForm String where
  read := readText
  shown := Value.text
  renders := by
    intro datum text read _ _
    obtain rfl := readText_eq_ok_iff.mp read
    exact .same _
  rereads := fun {_ text} _ => ⟨text, rfl, rfl⟩
  reorders := by
    intro datum other text read _ _ reordered
    obtain rfl := readText_eq_ok_iff.mp read
    obtain rfl := reordered.eq_of_isLeaf ⟨nofun, nofun⟩
    exact ⟨text, rfl, rfl⟩

/-- What is sent for the items of a list renders them one by one. -/
theorem ItemForm.renders_all {α : Type} (item : ItemForm α)
    {items : List Datum} {values : List α}
    (read : List.Forall₂ (fun datum value => item.read datum = .ok value)
      items values)
    (keyed : ∀ item ∈ items, item.isSequence = false ∧ item.isKeyed = true) :
    List.Forall₂ Json.Alike ((values.map item.shown).map Value.toJson)
      (items.map normal) := by
  induction read with
  | nil => exact .nil
  | cons isFirst _ inductionHypothesis =>
      obtain ⟨firstKeyed, othersKeyed⟩ := List.forall_mem_cons.mp keyed
      exact .cons (item.renders isFirst firstKeyed.1 firstKeyed.2)
        (inductionHypothesis othersKeyed)

/-- The items of a list are written one by one. -/
theorem ItemForm.rereads_all {α : Type} (item : ItemForm α)
    {items : List Datum} {values : List α}
    (read : List.Forall₂ (fun datum value => item.read datum = .ok value)
      items values) :
    ∃ again,
      List.Forall₂ (fun datum value => item.read datum = .ok value)
        (values.map fun value => ofJson (item.shown value).toJson) again ∧
      again.map item.shown = values.map item.shown := by
  induction read with
  | nil => exact ⟨[], .nil, rfl⟩
  | cons isFirst _ inductionHypothesis =>
      obtain ⟨first, readFirst, shownFirst⟩ := item.rereads isFirst
      obtain ⟨others, readOthers, shownOthers⟩ := inductionHypothesis
      exact ⟨first :: others, .cons readFirst readOthers,
        congrArg₂ List.cons shownFirst shownOthers⟩

/-- What holds of an item that is reordered holds of all items of a list. -/
theorem exists_readAll_of_reordered {α β : Type} {read : DataReader α}
    (shown : α → β)
    (reorders : ∀ {datum other : Datum} {value : α}, read datum = .ok value →
      datum.isSequence = false → datum.isKeyed = true →
      Reordered datum other →
      ∃ again, read other = .ok again ∧ shown again = shown value)
    {items others : List Datum} {values : List α}
    (isRead : List.Forall₂ (fun datum value => read datum = .ok value)
      items values)
    (keyed : ∀ item ∈ items, item.isSequence = false ∧ item.isKeyed = true)
    (reordered : List.Forall₂ Reordered items others) :
    ∃ again,
      List.Forall₂ (fun datum value => read datum = .ok value) others again ∧
      again.map shown = values.map shown := by
  induction isRead generalizing others with
  | nil =>
      cases reordered
      exact ⟨[], .nil, rfl⟩
  | cons isFirst _ inductionHypothesis =>
      obtain ⟨firstKeyed, othersKeyed⟩ := List.forall_mem_cons.mp keyed
      cases reordered with
      | cons firstReordered othersReordered =>
          obtain ⟨first, readFirst, shownFirst⟩ :=
            reorders isFirst firstKeyed.1 firstKeyed.2 firstReordered
          obtain ⟨rest, readRest, shownRest⟩ :=
            inductionHypothesis othersKeyed othersReordered
          exact ⟨first :: rest, .cons readFirst readRest,
            congrArg₂ List.cons shownFirst shownRest⟩

/-- A list that may be left out, and of which nothing is sent when it is
empty. -/
def Form.list {α : Type} (item : ItemForm α) : Form (List α) where
  read := readList item.read
  shown values := Value.ofItems? (values.map item.shown)
  manner := .plain
  renders := by
    intro datum values isRead keyed
    obtain ⟨items, rfl, all⟩ := readList_eq_ok_iff.mp isRead
    have alike := item.renders_all all
      (isKeyed_sequence_iff.mp (isKeyed_of_isKeyedAs keyed))
    cases all with
    | nil => exact .none
    | cons _ _ =>
        refine .some ⟨?_, nofun⟩
        rw [Value.toJson, Value.itemsToJson_eq_map, normal,
          normalItems_eq_map]
        exact .of_forall₂ alike
  rereads := by
    intro datum values sent isRead isShown
    obtain ⟨items, rfl, all⟩ := readList_eq_ok_iff.mp isRead
    obtain ⟨again, allAgain, sameShown⟩ := item.rereads_all all
    rw [← sameShown] at isShown
    refine ⟨again, readList_eq_ok_iff.mpr ⟨_, ?_, allAgain⟩, isShown⟩
    rw [sameShown, Value.ofItems?] at isShown
    split at isShown
    · cases isShown
    · cases isShown
      rw [Value.toJson, Value.itemsToJson_eq_map, Manner.relisted]
      · rw [ofJson, ofItems_eq_map, List.map_map, List.map_map]
        rfl
      · nofun
  reorders := by
    intro datum other values isRead keyed reordered
    obtain ⟨items, rfl, all⟩ := readList_eq_ok_iff.mp isRead
    obtain ⟨others, rfl, allReordered⟩ := reordered.sequence_cases
    have each := isKeyed_sequence_iff.mp (isKeyed_of_isKeyedAs keyed)
    obtain ⟨again, allAgain, sameShown⟩ :=
      exists_readAll_of_reordered item.shown item.reorders all each allReordered
    exact ⟨again, readList_eq_ok_iff.mpr ⟨others, rfl, allAgain⟩,
      congrArg Value.ofItems? sameShown⟩
  absent := []
  shown_absent := rfl

/-- Where the same is sent for two lists, what the items of one say for those
that send the same holds of the other. -/
theorem Form.forall_of_list_shown_eq {α : Type} {item : ItemForm α}
    {Holds : α → Prop} {values others : List α}
    (same : (Form.list item).shown others = (Form.list item).shown values)
    (transfers : ∀ {value other}, item.shown other = item.shown value →
      Holds value → Holds other)
    (all : ∀ value ∈ values, Holds value) : ∀ other ∈ others, Holds other := by
  intro other isOther
  have sameItems : others.map item.shown = values.map item.shown :=
    Value.ofItems?_inj same
  have isShown : item.shown other ∈ values.map item.shown := by
    rw [← sameItems]
    exact List.mem_map_of_mem isOther
  obtain ⟨value, isValue, sameShown⟩ := List.mem_map.mp isShown
  exact transfers sameShown.symm (all value isValue)

/-! ## Free properties -/

/-- A text that a record must name is there, and the field holds it. -/
theorem get?_of_needed {fields : List Check}
    (distinct : (fields.map Check.name).Nodup) {members : Members Datum}
    (checked : checkMembers fields members = .ok ())
    (complete : missing? fields members = none) {name : String}
    (isField : (nameField name).needed ∈ fields) :
    Members.get? name members =
      some (.text ((nameField name).get members)) := by
  have isThere : Members.contains name members = true := by
    simpa [Field.needed, nameField] using
      List.find?_eq_none.mp complete _ isField
  obtain ⟨datum, bound⟩ := Option.isSome_iff_exists.mp isThere
  obtain ⟨field, isOther, sameName, accepted⟩ :=
    (checkMembers_eq_ok_iff distinct).mp checked _
      (Members.mem_of_get?_eq_some bound)
  have found := (find?_name_eq_some_iff distinct).mpr ⟨isOther, sameName⟩
  have isFound : (fields.find? fun field => field.name = name) =
      some (nameField name).needed :=
    (find?_name_eq_some_iff distinct).mpr ⟨isField, rfl⟩
  obtain rfl := Option.some.inj (isFound.symm.trans found)
  obtain ⟨text, isRead⟩ := faultOf_eq_none_iff.mp accepted
  obtain rfl : datum = .text text := readText_eq_ok_iff.mp isRead
  rw [bound, Field.get_of_read bound isRead]

/-- A property that was read from a record holds the texts of the record. -/
theorem textAt_of_read {datum : Datum} {property : Property}
    (read : propertyShape.read datum = .ok property)
    (isRecord : datum.isSequence = false) :
    datum.textAt "name" = property.name ∧
      datum.textAt "value" = property.value := by
  cases datum with
  | record members =>
      obtain ⟨checked, complete, made⟩ := RecordShape.made_of_read_record read
      have distinct : (propertyShape.fields.map Check.name).Nodup := by decide
      have isName := get?_of_needed distinct checked complete
        (List.mem_cons_self : (nameField "name").needed ∈ propertyShape.fields)
      have isValue := get?_of_needed distinct checked complete
        (List.mem_cons_of_mem _ List.mem_cons_self :
          (nameField "value").needed ∈ propertyShape.fields)
      cases made
      rw [textAt, textAt, isName, isValue]
      exact ⟨rfl, rfl⟩
  | sequence items => cases isRecord
  | _ => cases read

/-- The members of a property are texts, so reordering a property changes no
member. -/
theorem get?_reordered {members others : Members Datum}
    (checked : checkMembers propertyShape.fields members = .ok ())
    (reordered : ∀ name, Option.Rel Reordered (Members.get? name members)
      (Members.get? name others)) (name : String) :
    Members.get? name others = Members.get? name members := by
  refine Reordered.option_eq_of_isLeaf (reordered name) fun datum bound => ?_
  have distinct : (propertyShape.fields.map Check.name).Nodup := by decide
  obtain ⟨field, isField, -, accepted⟩ :=
    (checkMembers_eq_ok_iff distinct).mp checked _
      (Members.mem_of_get?_eq_some bound)
  simp only [propertyShape, List.mem_cons, List.not_mem_nil, or_false]
    at isField
  rcases isField with rfl | rfl <;>
  · obtain ⟨text, isRead⟩ := faultOf_eq_none_iff.mp accepted
    obtain rfl : datum = .text text := readText_eq_ok_iff.mp isRead
    exact isLeaf_text text

theorem read_property_reordered {datum other : Datum} {property : Property}
    (read : propertyShape.read datum = .ok property)
    (isRecord : datum.isSequence = false) (keyed : datum.isKeyed = true)
    (isReordered : Reordered datum other) :
    propertyShape.read other = .ok property := by
  cases datum with
  | record members =>
      obtain ⟨others, rfl, sameNames, reordered⟩ := isReordered.record_cases
      obtain ⟨checked, complete, made⟩ := RecordShape.made_of_read_record read
      have same := get?_reordered checked reordered
      have distinct : (propertyShape.fields.map Check.name).Nodup := by decide
      have otherDistinct : Members.Distinct others :=
        sameNames.nodup_iff.mp (isKeyed_record_iff.mp keyed).1
      have otherChecked :
          checkMembers propertyShape.fields others = .ok () := by
        refine (checkMembers_eq_ok_iff distinct).mpr fun member isMember => ?_
        have bound := Members.get?_eq_some_of_mem otherDistinct isMember
        rw [same] at bound
        exact (checkMembers_eq_ok_iff distinct).mp checked _
          (Members.mem_of_get?_eq_some bound)
      have otherComplete : missing? propertyShape.fields others = none := by
        unfold missing? Members.contains at complete ⊢
        simpa only [same] using complete
      rw [RecordShape.read_record otherChecked otherComplete, ← made]
      simp only [propertyShape, Field.get, same]
  | sequence items => cases isRecord
  | _ => cases read

theorem read_propertyRecord (name value : String) :
    propertyShape.read
        (.record [("name", .text name), ("value", .text value)]) =
      .ok ⟨name, value⟩ := by
  rfl

/-- A set of texts is collected from the properties that list it. -/
theorem exists_properties {members : ValueSet}
    (texts : ∀ member ∈ members, ∃ text, member.2 = Value.text text) :
    ∃ properties : List Property,
      List.Forall₂
        (fun datum property => propertyShape.read datum = .ok property)
        (members.map fun member => .record
          [("name", .text member.1), ("value", ofJson member.2.toJson)])
        properties ∧
      properties.map (fun property =>
        (property.name, Value.text property.value)) = members := by
  induction members with
  | nil => exact ⟨[], .nil, rfl⟩
  | cons member rest inductionHypothesis =>
      obtain ⟨⟨text, isText⟩, othersTexts⟩ := List.forall_mem_cons.mp texts
      obtain ⟨others, all, same⟩ := inductionHypothesis othersTexts
      refine ⟨⟨member.1, text⟩ :: others, .cons ?_ all, ?_⟩
      · change propertyShape.read (.record [("name", .text member.1),
          ("value", ofJson member.2.toJson)]) = .ok ⟨member.1, text⟩
        rw [isText]
        exact read_propertyRecord member.1 text
      · rw [List.map_cons, same, ← isText]

/-- The object of a list of properties is what is sent for the list. -/
theorem toJson_collect {items : List Datum} {properties : List Property}
    (all : List.Forall₂
      (fun datum property => propertyShape.read datum = .ok property)
      items properties)
    (records : ∀ item ∈ items, item.isSequence = false) :
    (Value.nested (Property.collect properties)).toJson =
      propertyObject (.sequence items) := by
  rw [Value.toJson, Value.membersToJson_eq_map, Property.collect,
    Members.map_ofPairs, List.map_map, propertyObject]
  refine congrArg (fun pairs => Json.object (Members.ofPairs pairs)) ?_
  induction all with
  | nil => rfl
  | cons isFirst _ inductionHypothesis =>
      obtain ⟨isRecord, othersRecords⟩ := List.forall_mem_cons.mp records
      obtain ⟨isName, isValue⟩ := textAt_of_read isFirst isRecord
      rw [List.map_cons, List.map_cons, inductionHypothesis othersRecords,
        isName, isValue]
      rfl

/-- Free properties, of which nothing is sent when there are none. -/
def Form.properties : Form (List Property) where
  read := readList propertyShape.read
  shown properties := Value.ofMembers? (Property.collect properties)
  manner := .properties
  renders := by
    intro datum properties isRead keyed
    obtain ⟨items, rfl, all⟩ := readList_eq_ok_iff.mp isRead
    have each := isKeyed_sequence_iff.mp (isKeyed_of_isKeyedAs keyed)
    have same := toJson_collect all fun item isItem => (each item isItem).1
    cases all with
    | nil => exact .none
    | @cons _ first _ rest _ _ =>
        have isFilled := Members.ofPairs_cons_ne_nil
          (first.name, Value.text first.value)
          (rest.map fun property => (property.name, Value.text property.value))
        rw [Value.ofMembers?, if_neg (by rwa [List.isEmpty_iff])]
        exact .some (.of_eq same)
  rereads := by
    intro datum properties sent _ isShown
    rw [Value.ofMembers?] at isShown
    split at isShown
    · cases isShown
    · next isGiven =>
        cases isShown
        have texts : ∀ member ∈ Property.collect properties,
            ∃ text, member.2 = Value.text text := by
          intro member isMember
          have isPair := Members.mem_of_mem_ofPairs isMember
          obtain ⟨property, -, rfl⟩ := List.mem_map.mp isPair
          exact ⟨property.value, rfl⟩
        obtain ⟨again, all, same⟩ := exists_properties texts
        have collected : Property.collect again =
            Property.collect properties := by
          rw [Property.collect, same]
          exact Members.ofPairs_of_distinct (Members.distinct_ofPairs _)
        refine ⟨again, readList_eq_ok_iff.mpr ⟨_, ?_, all⟩, ?_⟩
        · rw [Value.toJson, Value.membersToJson_eq_map, Manner.relisted, ofJson,
            ofItems_eq_map, List.map_map, List.map_map]
          rfl
        · rw [collected, Value.ofMembers?, if_neg isGiven]
  reorders := by
    intro datum other properties isRead keyed reordered
    obtain ⟨items, rfl, all⟩ := readList_eq_ok_iff.mp isRead
    obtain ⟨others, rfl, allReordered⟩ := reordered.sequence_cases
    have each := isKeyed_sequence_iff.mp (isKeyed_of_isKeyedAs keyed)
    obtain ⟨again, allAgain, same⟩ := exists_readAll_of_reordered id
      (fun read isRecord keyed isReordered =>
        ⟨_, read_property_reordered read isRecord keyed isReordered, rfl⟩)
      all each allReordered
    rw [List.map_id, List.map_id] at same
    subst same
    exact ⟨again, readList_eq_ok_iff.mpr ⟨others, rfl, allAgain⟩, rfl⟩
  absent := []
  shown_absent := rfl

end Provision.Datum
