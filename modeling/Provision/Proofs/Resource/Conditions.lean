import Provision.Proofs.Configuration.Faults

/-!
Contract: settings that are accepted or refused condition by condition.

Settings are looked at in a fixed order.  They are accepted where every
condition is met, and otherwise the first condition that is not met is told.

Owns:
- conditions, each with the fault that tells that it is not met;
- outcomes that a list of conditions decides, and how such lists are joined;
- the conditions of the checks that the kinds of resources share.

Does not own: which conditions a kind of resource makes.
-/

namespace Provision

/-- A condition on settings, with the fault that tells that it is not met. -/
structure Condition where
  isMet : Prop
  fault : BuildError

namespace Condition

/-- The error tells that the condition is not met. -/
def Unmet (condition : Condition) (error : BuildError) : Prop :=
  ¬condition.isMet ∧ error = condition.fault

/-- A resource has a name. -/
def named (kind : ResourceKind) (name : String) : Condition :=
  ⟨name ≠ "", .missingName kind⟩

/-- A setting is there. -/
def given {α : Type} (field : String) (setting : Option α) : Condition :=
  ⟨setting ≠ none, .missing field⟩

/-- A text that is there says something. -/
def filled (field : String) (setting : Option String) : Condition :=
  ⟨setting ≠ some "", .empty field⟩

/-- Of two settings at most one is selected. -/
def apart (first : String) (firstSelected : Prop) (second : String)
    (secondSelected : Prop) : Condition :=
  ⟨¬(firstSelected ∧ secondSelected), .conflict first second⟩

end Condition

/-! ## Faults in an order -/

theorem firstOf_append_iff {ε : Type} {earlier later : List (ε → Prop)}
    {error : ε} :
    FirstOf (earlier ++ later) error ↔
      FirstOf earlier error ∨
        (∀ fault ∈ earlier, ∀ other, ¬fault other) ∧ FirstOf later error := by
  induction earlier with
  | nil => simp [FirstOf]
  | cons first rest inductionHypothesis =>
      rw [List.cons_append, FirstOf, FirstOf, inductionHypothesis,
        List.forall_mem_cons]
      tauto

/-- Some fault is the first one where some condition is not met. -/
theorem exists_firstOf_unmet_iff {conditions : List Condition} :
    (∃ error, FirstOf (conditions.map Condition.Unmet) error) ↔
      ¬∀ condition ∈ conditions, condition.isMet := by
  induction conditions with
  | nil => simp [FirstOf]
  | cons condition rest inductionHypothesis =>
      simp only [List.map_cons, FirstOf, exists_or, exists_and_left,
        inductionHypothesis, List.forall_mem_cons, Condition.Unmet]
      by_cases isMet : condition.isMet <;> simp [isMet]

/-- The fault that is told is that of a condition that is not met. -/
theorem exists_unmet_of_firstOf {conditions : List Condition}
    {error : BuildError}
    (isFirst : FirstOf (conditions.map Condition.Unmet) error) :
    ∃ condition ∈ conditions, condition.Unmet error := by
  induction conditions with
  | nil => exact isFirst.elim
  | cons condition rest inductionHypothesis =>
      rcases isFirst with isHere | ⟨-, isLater⟩
      · exact ⟨condition, List.mem_cons_self, isHere⟩
      · obtain ⟨other, isOther, unmet⟩ := inductionHypothesis isLater
        exact ⟨other, List.mem_cons_of_mem _ isOther, unmet⟩

/-! ## Outcomes that conditions decide -/

/-- The outcome is an error exactly where some condition is not met, and tells
the first such condition. -/
def DecidedBy {α : Type} (conditions : List Condition)
    (outcome : Except BuildError α) : Prop :=
  ∀ error, outcome = .error error ↔
    FirstOf (conditions.map Condition.Unmet) error

namespace DecidedBy

variable {α β : Type} {conditions later : List Condition}
  {condition : Condition} {outcome : Except BuildError α}
  {next : α → Except BuildError β}

/-- An outcome is no error exactly where every condition is met. -/
theorem exists_ok_iff (decided : DecidedBy conditions outcome) :
    (∃ value, outcome = .ok value) ↔
      ∀ condition ∈ conditions, condition.isMet := by
  have failed_iff : (∃ error, outcome = .error error) ↔
      ¬∀ condition ∈ conditions, condition.isMet := by
    rw [← exists_firstOf_unmet_iff]
    exact exists_congr decided
  rw [← not_iff_not, ← failed_iff]
  cases outcome <;> simp

theorem ok (value : α) : DecidedBy [] (.ok value) := fun _ =>
  iff_of_false nofun id

theorem singleton_iff :
    DecidedBy [condition] outcome ↔
      ∀ error, outcome = .error error ↔ condition.Unmet error := by
  refine forall_congr' fun error => ?_
  simp [FirstOf]

/-- Changing what is made changes nothing about the conditions. -/
theorem map (decided : DecidedBy conditions outcome) (change : α → β) :
    DecidedBy conditions (outcome.map change) := fun error =>
  map_eq_error_iff.trans (decided error)

/-- What is made from an outcome adds its conditions behind. -/
theorem andThen (decided : DecidedBy conditions outcome)
    (rest : ∀ held, outcome = .ok held → DecidedBy later (next held)) :
    DecidedBy (conditions ++ later) (outcome >>= next) := by
  intro error
  rw [bind_eq_error_iff, List.map_append, firstOf_append_iff, decided error]
  refine or_congr_right ?_
  have noneUnmet_iff : (∀ fault ∈ conditions.map Condition.Unmet,
      ∀ other, ¬fault other) ↔ ∃ held, outcome = .ok held := by
    rw [decided.exists_ok_iff, List.forall_mem_map]
    refine forall₂_congr fun condition _ => ?_
    simp [Condition.Unmet]
  rw [noneUnmet_iff]
  constructor
  · rintro ⟨held, isHeld, isError⟩
    exact ⟨⟨held, isHeld⟩, (rest held isHeld error).mp isError⟩
  · rintro ⟨⟨held, isHeld⟩, isFirst⟩
    exact ⟨held, isHeld, (rest held isHeld error).mpr isFirst⟩

/-- A condition that is looked at before all else. -/
theorem guarded {isBad : Prop} [Decidable isBad]
    {goesOn : Except BuildError α} (bad_iff : isBad ↔ ¬condition.isMet)
    (rest : ¬isBad → DecidedBy later goesOn) :
    DecidedBy (condition :: later)
      (if isBad then .error condition.fault else goesOn) := by
  intro error
  rw [List.map_cons, FirstOf, Condition.Unmet, ← bad_iff]
  split
  · next bad =>
      simp only [bad, Except.error.injEq, Condition.Unmet, ← bad_iff]
      simp [eq_comm]
  · next fine =>
      rw [rest fine error]
      simp [Condition.Unmet, ← bad_iff, fine]

end DecidedBy

/-! ## The checks that resources share -/

theorem decidedBy_requireName (kind : ResourceKind) (name : String) :
    DecidedBy [.named kind name] (requireName kind name) := by
  rw [DecidedBy.singleton_iff]
  intro error
  by_cases isEmpty : name = "" <;>
    simp [requireName, ResourceName.ofText?, Condition.Unmet, Condition.named,
      isEmpty, eq_comm]

theorem decidedBy_requireText (field : String) (setting : Option String) :
    DecidedBy [.given field setting, .filled field setting]
      (requireText field setting) := by
  intro error
  cases setting with
  | none =>
      simp [requireText, FirstOf, Condition.Unmet, Condition.given,
        Condition.filled, eq_comm]
  | some text =>
      by_cases isEmpty : text = "" <;>
        simp [requireText, FirstOf, Condition.Unmet, Condition.given,
          Condition.filled, isEmpty, eq_comm]

theorem decidedBy_require {α : Type} (field : String) (setting : Option α) :
    DecidedBy [.given field setting] (require field setting) := by
  rw [DecidedBy.singleton_iff]
  intro error
  cases setting <;>
    simp [require, Condition.Unmet, Condition.given, eq_comm]

theorem decidedBy_exclude {first second : String}
    {firstSelected secondSelected : Bool} {isFirst isSecond : Prop}
    (first_iff : firstSelected = true ↔ isFirst)
    (second_iff : secondSelected = true ↔ isSecond) :
    DecidedBy [.apart first isFirst second isSecond]
      (exclude first firstSelected second secondSelected) := by
  rw [DecidedBy.singleton_iff, ← first_iff, ← second_iff]
  intro error
  cases firstSelected <;> cases secondSelected <;>
    simp [exclude, Condition.Unmet, Condition.apart, eq_comm]

/-- Items that are checked one by one for one thing. -/
theorem decidedBy_forM {α : Type} {check : α → Except BuildError Unit}
    {isFine : α → Prop} {fault : BuildError}
    (decided : ∀ item, DecidedBy [⟨isFine item, fault⟩] (check item))
    (items : List α) :
    DecidedBy [⟨∀ item ∈ items, isFine item, fault⟩] (items.forM check) := by
  induction items with
  | nil =>
      rw [DecidedBy.singleton_iff]
      intro error
      simp [Condition.Unmet, pure, Except.pure]
  | cons item rest inductionHypothesis =>
      have joined : DecidedBy ([⟨isFine item, fault⟩] ++
          [⟨∀ item ∈ rest, isFine item, fault⟩])
          (check item >>= fun _ => rest.forM check) :=
        (decided item).andThen fun _ _ => inductionHypothesis
      rw [DecidedBy.singleton_iff]
      intro error
      refine (joined error).trans ?_
      simp only [List.singleton_append, List.map_cons, List.map_nil, FirstOf,
        Condition.Unmet, List.forall_mem_cons]
      by_cases isFirst : isFine item <;> simp [isFirst]

end Provision
