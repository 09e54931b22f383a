import Mathlib.Data.List.Induction
import Provision.Document.Parameters
import Provision.Proofs.Value.Lookups
import Provision.Proofs.Value.Slots

/-!
Contract: sets of attributes and parameters are recordings of their steps.

A step either sets something or is idle.  What was set can be read off the
finished dictionary as far as it counts: which names there are, which of them
was set first, and what was set last under each of them.

Owns:
- dictionaries that record a list of writes, and that building one records it;
- the attributes and the texts that a step sets, and the idle steps;
- what any number of steps make of the empty set and of no parameters.

Does not own: how values are written in documents and parameters.
-/

namespace Provision

namespace Members

variable {κ α : Type} [DecidableEq κ]

/-- A dictionary that records writes, in the order in which they were made. -/
structure Records (members writes : List (κ × α)) : Prop where
  /-- No name stands twice. -/
  distinct : Distinct members
  /-- The names that were written stand in the order in which each of them was
  written first. -/
  names_eq : names members = (names writes).eraseDups
  /-- A name has the value that was written last, if any was. -/
  get?_eq : ∀ name, get? name members = (valuesOf name writes).getLast?

theorem ofPairs_concat (pairs : List (κ × α)) (pair : κ × α) :
    ofPairs (pairs ++ [pair]) = put pair.1 pair.2 (ofPairs pairs) := by
  rw [ofPairs, List.foldl_append]
  rfl

theorem names_ofPairs (pairs : List (κ × α)) :
    names (ofPairs pairs) = (names pairs).eraseDups := by
  induction pairs using List.reverseRecOn with
  | nil => rfl
  | append_singleton pairs pair inductionHypothesis =>
      have names_concat : names (pairs ++ [pair]) =
          names pairs ++ [pair.1] := List.map_append
      rw [ofPairs_concat, names_put, inductionHypothesis, names_concat,
        List.eraseDups_append]
      by_cases isOld : pair.1 ∈ names pairs
      · simp [isOld, List.mem_eraseDups, List.removeAll]
      · simp [isOld, List.mem_eraseDups, List.removeAll, List.eraseDups_cons]

/-- Building a dictionary records the pairs. -/
theorem records_ofPairs (pairs : List (κ × α)) :
    Records (ofPairs pairs) pairs where
  distinct := distinct_ofPairs pairs
  names_eq := names_ofPairs pairs
  get?_eq name := get?_ofPairs name pairs

/-- Further writes go on with a dictionary that was built. -/
theorem foldl_put_ofPairs (earlier pairs : List (κ × α)) :
    pairs.foldl (fun members pair => put pair.1 pair.2 members)
        (ofPairs earlier) =
      ofPairs (earlier ++ pairs) := by
  rw [ofPairs, ofPairs, List.foldl_append]

end Members

/-! ## Sets of attributes -/

namespace ValueSet

/-- The steps that set nothing: optional ones without a value, with an empty
text, an empty list or an empty set. -/
inductive Step.IsIdle : Step → Prop
  | noScalar (name : String) : IsIdle (.setScalar name none)
  | emptyText (name : String) : IsIdle (.setScalar name (some (.text "")))
  | emptyList (name : String) : IsIdle (.setList name [])
  | noSet (name : String) : IsIdle (.setNested name none)
  | emptySet (name : String) : IsIdle (.setNested name (some []))

/-- The attributes that a step sets.  Collecting sets those of all pairs. -/
def Step.attributes : Step → List (String × Value)
  | .set name value => [(name, value)]
  | .setScalar name value =>
      match value with
      | some scalar =>
          if scalar = .text "" then [] else [(name, .scalar scalar)]
      | none => []
  | .setList name items => if items = [] then [] else [(name, .list items)]
  | .setNested name nested =>
      match nested with
      | some members => if members = [] then [] else [(name, .nested members)]
      | none => []
  | .collect pairs => pairs

/-- What is set in the end if attributes were set earlier.  Collecting starts
over, and every other step goes on. -/
def Step.extended (earlier : List (String × Value)) :
    Step → List (String × Value)
  | .collect pairs => pairs
  | step => earlier ++ step.attributes

/-- The attributes that the steps set one after the other. -/
def written (steps : List Step) : List (String × Value) :=
  steps.foldl Step.extended []

/-- Nothing is set by the idle steps, and by collecting nothing. -/
theorem attributes_eq_nil_iff {step : Step} :
    step.attributes = [] ↔ step.IsIdle ∨ step = .collect [] := by
  constructor
  · intro setsNothing
    cases step with
    | set name value => cases setsNothing
    | setScalar name value =>
        cases value with
        | none => exact Or.inl (.noScalar name)
        | some scalar =>
            by_cases isEmpty : scalar = .text ""
            · exact Or.inl (isEmpty ▸ .emptyText name)
            · simp [Step.attributes, isEmpty] at setsNothing
    | setList name items =>
        cases items with
        | nil => exact Or.inl (.emptyList name)
        | cons item rest => cases setsNothing
    | setNested name nested =>
        cases nested with
        | none => exact Or.inl (.noSet name)
        | some members =>
            cases members with
            | nil => exact Or.inl (.emptySet name)
            | cons member rest => cases setsNothing
    | collect pairs => exact Or.inr (congrArg Step.collect setsNothing)
  · rintro (isIdle | rfl)
    · cases isIdle <;> rfl
    · rfl

/-- An idle step leaves every set as it is. -/
theorem apply_of_isIdle (values : ValueSet) {step : Step}
    (isIdle : step.IsIdle) : values.apply step = values := by
  cases isIdle <;> rfl

theorem isEmptyText_eq_true_iff {scalar : Scalar} :
    scalar.isEmptyText = true ↔ scalar = .text "" := by
  cases scalar <;> simp [Scalar.isEmptyText]

/-- One step goes on with what was set earlier. -/
theorem apply_ofPairs (earlier : List (String × Value)) (step : Step) :
    apply (Members.ofPairs earlier) step =
      Members.ofPairs (step.extended earlier) := by
  cases step with
  | set name value =>
      exact (Members.ofPairs_concat earlier (name, value)).symm
  | setScalar name value =>
      cases value with
      | none => exact congrArg Members.ofPairs (List.append_nil earlier).symm
      | some scalar =>
          rw [apply, setScalar, Step.extended, Step.attributes]
          · simp only [isEmptyText_eq_true_iff]
            split
            · rw [List.append_nil]
            · exact (Members.ofPairs_concat earlier (name, _)).symm
          · intro _ impossible
            cases impossible
  | setList name items =>
      cases items with
      | nil => exact congrArg Members.ofPairs (List.append_nil earlier).symm
      | cons item rest =>
          exact (Members.ofPairs_concat earlier (name, _)).symm
  | setNested name nested =>
      cases nested with
      | none => exact congrArg Members.ofPairs (List.append_nil earlier).symm
      | some members =>
          cases members with
          | nil => exact congrArg Members.ofPairs (List.append_nil earlier).symm
          | cons member rest =>
              exact (Members.ofPairs_concat earlier (name, _)).symm
  | collect pairs => rfl

/-- Any number of steps build the dictionary of all that they set. -/
theorem build_eq_ofPairs (steps : List Step) :
    build steps = Members.ofPairs (written steps) := by
  induction steps using List.reverseRecOn with
  | nil => rfl
  | append_singleton steps step inductionHypothesis =>
      have goesOn : written (steps ++ [step]) =
          step.extended (written steps) := by
        rw [written, List.foldl_append]
        rfl
      rw [goesOn, ← apply_ofPairs, ← inductionHypothesis, build,
        List.foldl_append]
      rfl

end ValueSet

/-! ## Parameters -/

namespace Parameters

/-- The texts that a step sets: none for an absent value, and one for each
attribute of a set. -/
def Step.texts : Step → List (String × String)
  | .set name value =>
      match value with
      | some scalar => [(name, scalar.shown)]
      | none => []
  | .setValues values => values.map fun member =>
      (member.1, member.2.parameter)

/-- One step goes on with the texts that were set earlier. -/
theorem apply_ofPairs (earlier : List (String × String)) (step : Step) :
    apply (Members.ofPairs earlier) step =
      Members.ofPairs (earlier ++ step.texts) := by
  cases step with
  | set name value =>
      cases value with
      | none => exact congrArg Members.ofPairs (List.append_nil earlier).symm
      | some scalar => exact (Members.ofPairs_concat earlier (name, _)).symm
  | setValues values =>
      rw [Step.texts, ← Members.foldl_put_ofPairs, List.foldl_map]
      rfl

/-- Any number of steps build the dictionary of all that they set. -/
theorem foldl_apply_eq_ofPairs (steps : List Step) :
    steps.foldl apply empty =
      Members.ofPairs (steps.flatMap Step.texts) := by
  induction steps using List.reverseRecOn with
  | nil => rfl
  | append_singleton steps step inductionHypothesis =>
      rw [List.foldl_append, inductionHypothesis, List.flatMap_append,
        List.flatMap_singleton]
      exact apply_ofPairs (steps.flatMap Step.texts) step

end Parameters

/-- **Sets and parameters are ordered dictionaries.**

Whatever steps are made from the empty set on, the set records the attributes
that the steps set, and its document is the object of its members in their
order.  The steps that set nothing are the idle ones, which leave every set as
it is, and the collecting of no pairs.  Parameters record the texts that their
steps set in the same way, a set of values giving one text for each of its
attributes; an absent text leaves all parameters as they are. -/
theorem steps_are_recorded :
    (∀ steps : List ValueSet.Step,
      Members.Records (ValueSet.build steps) (ValueSet.written steps) ∧
      (ValueSet.build steps).toJson =
        .object ((ValueSet.build steps).map fun member =>
          (member.1, member.2.toJson))) ∧
    (∀ step : ValueSet.Step,
      (step.attributes = [] ↔ step.IsIdle ∨ step = .collect []) ∧
      (step.IsIdle → ∀ values : ValueSet, values.apply step = values)) ∧
    (∀ steps : List Parameters.Step,
      Members.Records (steps.foldl Parameters.apply Parameters.empty)
        (steps.flatMap Parameters.Step.texts)) ∧
    ∀ (parameters : Parameters) (name : String),
      parameters.apply (.set name none) = parameters := by
  refine ⟨?_, ?_, ?_, fun _ _ => rfl⟩
  · intro steps
    constructor
    · rw [ValueSet.build_eq_ofPairs]
      exact Members.records_ofPairs (ValueSet.written steps)
    · rw [ValueSet.toJson, Value.toJson, Value.membersToJson_eq_map]
  · intro step
    exact ⟨ValueSet.attributes_eq_nil_iff,
      fun isIdle values => ValueSet.apply_of_isIdle values isIdle⟩
  · intro steps
    rw [Parameters.foldl_apply_eq_ofPairs]
    exact Members.records_ofPairs (steps.flatMap Parameters.Step.texts)

/-- Steps that set two attributes, one of them twice, with idle steps among
them. -/
def hostSteps : List ValueSet.Step :=
  [.set "host" (.text "a"), .setScalar "port" (some (.integer 1)),
    .setScalar "host" (some (.text "")), .setList "port" [],
    .set "host" (.boolean true)]

/-- The set after the steps. -/
def hostValues : ValueSet := [("host", .boolean true), ("port", .integer 1)]

/-- Steps that set parameters: a text, an absent text, and the values of the
set. -/
def hostTexts : List Parameters.Step :=
  [.set "port" (some (.integer 2)), .set "host" none, .setValues hostValues]

theorem steps_are_recorded_sample :
    ValueSet.build hostSteps = hostValues ∧
    Members.Records hostValues
      [("host", .text "a"), ("port", .integer 1), ("host", .boolean true)] ∧
    hostValues.toJson =
      .object [("host", .boolean true), ("port", .number (.integer 1))] ∧
    ValueSet.Step.IsIdle (.setScalar "host" (some (.text ""))) ∧
    hostValues.apply (.setScalar "host" (some (.text ""))) = hostValues ∧
    hostTexts.foldl Parameters.apply Parameters.empty =
      [("port", "1"), ("host", "true")] ∧
    Members.Records [("port", "1"), ("host", "true")]
      [("port", "2"), ("host", "true"), ("port", "1")] := by
  have isBuilt : ValueSet.build hostSteps = hostValues := by decide
  have isCollected : hostTexts.foldl Parameters.apply Parameters.empty =
      [("port", "1"), ("host", "true")] := by decide
  have isIdle : ValueSet.Step.IsIdle (.setScalar "host" (some (.text ""))) :=
    .emptyText "host"
  obtain ⟨ofSets, ofIdle, ofTexts, -⟩ := steps_are_recorded
  obtain ⟨recorded, isDocument⟩ := ofSets hostSteps
  have textsRecorded := ofTexts hostTexts
  rw [isBuilt] at recorded isDocument
  rw [isCollected] at textsRecorded
  exact ⟨isBuilt, recorded, isDocument, isIdle,
    (ofIdle _).2 isIdle hostValues, isCollected, textsRecorded⟩

end Provision
