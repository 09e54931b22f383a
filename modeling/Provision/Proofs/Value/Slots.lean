import Provision.Value

/-!
Contract: sets of attributes as lists of slots.

A slot is the name of an attribute with the value that it may have.  Every
step in the making of a set fills one slot or leaves it empty, so a set that
is made step by step is the list of its filled slots.

Owns:
- the value that a setting of each type gives, if it gives any;
- `present`, the set of the filled slots, and its look-ups;
- the equations that turn the steps of a set into slots;
- slots in a given order;
- the look-ups in the data document of a set.

Does not own: which slots a resource has.
-/

namespace Provision

namespace Value

/-! ## The value of a setting -/

def ofText (text : String) : Option Value :=
  if text = "" then none else some (.text text)

def ofText? (text : Option String) : Option Value :=
  text.bind ofText

def ofNatural? (number : Option Nat) : Option Value :=
  number.bind fun number => some (.scalar (.ofNatural number))

def ofBoolean? (flag : Option Bool) : Option Value :=
  flag.bind fun flag => some (.boolean flag)

def ofItems? (items : List Value) : Option Value :=
  if items.isEmpty then none else some (.list items)

def ofMembers? (members : ValueSet) : Option Value :=
  if members.isEmpty then none else some (.nested members)

theorem text_injective : Function.Injective Value.text := by
  intro text other same
  cases same
  rfl

/-- Only a text that says something gives a value. -/
theorem ofText_eq_some_iff {text : String} {value : Value} :
    ofText text = some value ↔ text ≠ "" ∧ value = Value.text text := by
  by_cases isEmpty : text = "" <;> simp [ofText, isEmpty, eq_comm]

theorem ofText_of_ne {text : String} (given : text ≠ "") :
    ofText text = some (.text text) :=
  if_neg given

theorem ofText?_some {text : String} (given : text ≠ "") :
    ofText? (some text) = some (.text text) :=
  ofText_of_ne given

/-- A text that gives the value of another one, which says something, is that
other text. -/
theorem eq_of_ofText_eq {text other : String} (given : other ≠ "")
    (same : ofText text = ofText other) : text = other := by
  rw [ofText_of_ne given, ofText_eq_some_iff] at same
  injection same.2 with isScalar
  injection isScalar with isSame
  exact isSame.symm

theorem eq_some_of_ofText?_eq {text : Option String} {other : String}
    (given : other ≠ "") (same : ofText? text = ofText other) :
    text = some other := by
  cases text with
  | none =>
      rw [ofText_of_ne given] at same
      cases same
  | some text => rw [eq_of_ofText_eq given same]

/-- What is sent for a text is sent for a text that is given. -/
theorem ofText?_eq_map_filter (text : Option String) :
    ofText? text = (text.filter fun text => text ≠ "").map Value.text := by
  cases text with
  | none => rfl
  | some text =>
      by_cases isEmpty : text = "" <;>
        simp [ofText?, ofText, Option.filter, isEmpty]

/-- A text is given where it is there and says something. -/
theorem filter_eq_some_iff {setting : Option String} {text : String} :
    (setting.filter fun text => text ≠ "") = some text ↔
      setting = some text ∧ text ≠ "" := by
  rw [Option.filter_eq_some_iff, decide_eq_true_eq]

theorem filter_eq_of_ofText?_eq {text other : Option String}
    (same : ofText? other = ofText? text) :
    (other.filter fun text => text ≠ "") =
      text.filter fun text => text ≠ "" := by
  rw [ofText?_eq_map_filter, ofText?_eq_map_filter] at same
  refine Option.map_injective (fun left right equal => ?_) same
  injection equal with isScalar
  injection isScalar

theorem ofNatural?_map {α : Type} (toNat : α → Nat) (number : Option α) :
    ofNatural? (number.map toNat) =
      number.bind fun number => some (.scalar (.ofNatural (toNat number))) := by
  cases number <;> rfl

theorem ofText?_eq_some_iff {text : Option String} {value : Value} :
    ofText? text = some value ↔
      ∃ said, (text = some said ∧ said ≠ "") ∧ value = Value.text said := by
  simp only [ofText?, Option.bind_eq_some_iff, ofText_eq_some_iff, and_assoc]

theorem ofBoolean?_eq_some_iff {flag : Option Bool} {value : Value} :
    ofBoolean? flag = some value ↔
      ∃ state, flag = some state ∧ value = .boolean state := by
  cases flag <;> simp [ofBoolean?, eq_comm]

theorem ofItems?_eq_some_iff {items : List Value} {value : Value} :
    ofItems? items = some value ↔ items ≠ [] ∧ value = .list items := by
  cases items <;> simp [ofItems?, eq_comm]

theorem ofItems?_inj {items others : List Value}
    (same : ofItems? items = ofItems? others) : items = others := by
  cases items <;> cases others <;> simp_all [ofItems?]

end Value

namespace ValueSet

/-- Attributes by name with the values that they may have. -/
abbrev Slots := List (String × Option Value)

/-- The set of the slots that are filled. -/
def present (slots : Slots) : ValueSet :=
  slots.filterMap fun slot => slot.2.map fun value => (slot.1, value)

/-- The value in a slot, where the slot exists and is filled. -/
def held (slots : Slots) (name : String) : Option Value :=
  (Members.get? name slots).join

/-! ## The set of the filled slots -/

section Present

variable {slots : Slots}

@[simp]
theorem present_cons_some (name : String) (value : Value) (slots : Slots) :
    present ((name, some value) :: slots) = (name, value) :: present slots :=
  rfl

@[simp]
theorem present_cons_none (name : String) (slots : Slots) :
    present ((name, none) :: slots) = present slots := rfl

theorem present_append (slots others : Slots) :
    present (slots ++ others) = present slots ++ present others :=
  List.filterMap_append

/-- The names of the filled slots stand in the order of the slots. -/
theorem names_present_sublist (slots : Slots) :
    (Members.names (present slots)).Sublist (Members.names slots) := by
  induction slots with
  | nil => exact .slnil
  | cons slot rest inductionHypothesis =>
      obtain ⟨name, _ | value⟩ := slot
      · exact inductionHypothesis.cons name
      · exact inductionHypothesis.cons_cons name

theorem distinct_present (distinct : Members.Distinct slots) :
    Members.Distinct (present slots) :=
  (names_present_sublist slots).nodup distinct

theorem get?_present (distinct : Members.Distinct slots) (name : String) :
    Members.get? name (present slots) = held slots name := by
  induction slots with
  | nil => rfl
  | cons slot rest inductionHypothesis =>
      have restDistinct : Members.Distinct rest :=
        (List.nodup_cons.mp distinct).2
      have isNew : slot.1 ∉ Members.names rest :=
        (List.nodup_cons.mp distinct).1
      obtain ⟨slotName, content⟩ := slot
      by_cases isHere : slotName = name
      · subst isHere
        have unbound : Members.get? slotName (present rest) = none := by
          rw [Members.get?_eq_none_iff]
          exact fun isBound =>
            isNew ((names_present_sublist rest).subset isBound)
        cases content <;> simp [held, Members.get?, unbound]
      · have isHeld := inductionHypothesis restDistinct
        unfold held at isHeld
        cases content <;> simp [held, Members.get?, isHere, isHeld]

end Present

/-! ## Sets made step by step -/

/-- Fills one slot, or leaves it empty. -/
def fill (values : ValueSet) (name : String) : Option Value → ValueSet
  | some value => values.set name value
  | none => values

/-- Fills slots one after the other. -/
def fillAll (values : ValueSet) (slots : Slots) : ValueSet :=
  slots.foldl (fun values slot => values.fill slot.1 slot.2) values

theorem fillAll_eq_foldl_put (slots : Slots) (values : ValueSet) :
    fillAll values slots =
      (present slots).foldl
        (fun members pair => Members.put pair.1 pair.2 members) values := by
  induction slots generalizing values with
  | nil => rfl
  | cons slot rest inductionHypothesis =>
      obtain ⟨name, _ | value⟩ := slot
      · exact inductionHypothesis values
      · exact inductionHypothesis (values.set name value)

/-- Filling distinct slots makes the set of the filled ones. -/
theorem fillAll_empty (slots : Slots)
    (distinct : Members.Distinct (present slots)) :
    fillAll empty slots = present slots := by
  rw [fillAll_eq_foldl_put]
  exact Members.ofPairs_of_distinct distinct

section Steps

variable (values : ValueSet) (name : String)

theorem set_eq_fill (value : Value) :
    values.set name value = values.fill name (some value) := rfl

theorem setText_eq_fill (text : Option String) :
    values.setText name text = values.fill name (Value.ofText? text) := by
  cases text with
  | none => rfl
  | some text =>
      by_cases isEmpty : text = "" <;>
        simp [setText, setScalar, Scalar.isEmptyText, fill, Value.ofText?,
          Value.ofText, isEmpty, Value.text]

theorem setNumber_eq_fill (number : Option Nat) :
    values.setNumber name number =
      values.fill name (Value.ofNatural? number) := by
  cases number <;> rfl

theorem setBoolean_eq_fill (flag : Option Bool) :
    values.setBoolean name flag = values.fill name (Value.ofBoolean? flag) := by
  cases flag <;> rfl

theorem setList_eq_fill (items : List Value) :
    values.setList name items = values.fill name (Value.ofItems? items) := by
  cases items <;> rfl

theorem setTexts_eq_fill (items : List String) :
    values.setTexts name items =
      values.fill name (Value.ofItems? (items.map Value.text)) :=
  setList_eq_fill values name _

theorem setGroups_eq_fill (items : List ValueSet) :
    values.setGroups name items =
      values.fill name (Value.ofItems? (items.map Value.nested)) :=
  setList_eq_fill values name _

theorem setNested_eq_fill (members : ValueSet) :
    values.setNested name (some members) =
      values.fill name (Value.ofMembers? members) := by
  cases members <;> rfl

end Steps

/-! ## Slots in a given order -/

/-- The slots with the given names, in the order of the names. -/
def arrange (order : List String) (slots : Slots) : Slots :=
  order.map fun name => (name, held slots name)

theorem arrange_append (order others : List String) (slots : Slots) :
    arrange (order ++ others) slots =
      arrange order slots ++ arrange others slots :=
  List.map_append

theorem names_arrange (order : List String) (slots : Slots) :
    Members.names (arrange order slots) = order := by
  simp [Members.names, arrange, Function.comp_def]

/-- Distinct slots stand in the order of their own names. -/
theorem arrange_names {slots : Slots} (distinct : Members.Distinct slots) :
    arrange (Members.names slots) slots = slots := by
  suffices ∀ slot ∈ slots, (slot.1, held slots slot.1) = slot by
    unfold arrange Members.names
    rw [List.map_map]
    exact (List.map_congr_left this).trans (List.map_id' slots)
  induction slots with
  | nil => simp
  | cons first rest inductionHypothesis =>
      have isNew := (List.nodup_cons.mp distinct).1
      have ofRest := inductionHypothesis (List.nodup_cons.mp distinct).2
      intro slot isSlot
      rcases List.mem_cons.mp isSlot with rfl | inRest
      · simp [held, Members.get?]
      · have isOther : first.1 ≠ slot.1 := fun same =>
          isNew (same ▸ List.mem_map_of_mem inRest)
        have isHeld := ofRest slot inRest
        simpa [held, Members.get?, isOther] using isHeld

/-- Arranging slots does not change what they hold. -/
theorem held_arrange {order : List String} {slots : Slots}
    (sameNames : order.Perm (Members.names slots)) (name : String) :
    held (arrange order slots) name = held slots name := by
  have lookup : ∀ names : List String,
      Members.get? name (arrange names slots) =
        if name ∈ names then some (held slots name) else none := by
    intro names
    induction names with
    | nil => rfl
    | cons first rest inductionHypothesis =>
        by_cases isHere : first = name
        · simp [arrange, Members.get?, isHere]
        · simpa [arrange, Members.get?, isHere, Ne.symm isHere] using
            inductionHypothesis
  have ofOrder := lookup order
  unfold held at ofOrder ⊢
  rw [ofOrder]
  by_cases isName : name ∈ order
  · simp [isName]
  · have unbound := (Members.get?_eq_none_iff name slots).mpr
      (isName ∘ sameNames.mem_iff.mpr)
    simp [isName, unbound]

/-- The filled slots stand in the order in which they are arranged. -/
theorem names_present_arrange (order : List String) (slots : Slots) :
    Members.names (present (arrange order slots)) =
      order.filter fun name => (held slots name).isSome := by
  induction order with
  | nil => rfl
  | cons name rest inductionHypothesis =>
      change Members.names
        (present ((name, held slots name) :: arrange rest slots)) = _
      cases isHeld : held slots name with
      | none =>
          rw [present_cons_none, inductionHypothesis,
            List.filter_cons_of_neg (by simp [isHeld])]
      | some value =>
          rw [present_cons_some, List.filter_cons_of_pos (by simp [isHeld]),
            ← inductionHypothesis]
          rfl

end ValueSet

/-! ## The data document of a set -/

namespace Value

theorem itemsToJson_eq_map (items : List Value) :
    itemsToJson items = items.map toJson := by
  induction items with
  | nil => rfl
  | cons item rest inductionHypothesis =>
      rw [itemsToJson, inductionHypothesis, List.map_cons]

theorem membersToJson_eq_map (members : ValueSet) :
    membersToJson members =
      members.map fun member => (member.1, member.2.toJson) := by
  induction members with
  | nil => rfl
  | cons member rest inductionHypothesis =>
      rw [membersToJson, inductionHypothesis, List.map_cons]

theorem get?_membersToJson (name : String) (members : ValueSet) :
    Members.get? name (membersToJson members) =
      (Members.get? name members).map toJson := by
  rw [membersToJson_eq_map, Members.get?_map]

theorem names_membersToJson (members : ValueSet) :
    Members.names (membersToJson members) = Members.names members := by
  rw [membersToJson_eq_map, Members.names_map]

end Value

end Provision
