import Mathlib.Data.List.Forall2
import Provision.Proofs.Resource.Building

/-!
Contract: the first of several faults.

Owns:
- the failure of an outcome that is made from another one;
- the first item of a list that a check refuses;
- lists that are read item by item into a growing state;
- the error that is told where faults are looked for in an order.

Does not own: which faults there are.
-/

namespace Provision

variable {ε α β σ : Type}

theorem map_eq_error_iff
    {result : Except ε α}
    {change : α → β}
    {fault : ε} :
    result.map change = .error fault ↔ result = .error fault := by
  cases result <;> simp [Except.map]

theorem bind_eq_error_iff
    {result : Except ε α}
    {next : α → Except ε β}
    {fault : ε} :
    (result >>= next) = .error fault ↔
      result = .error fault ∨
        ∃ held, result = .ok held ∧ next held = .error fault := by
  cases result <;> simp [bind, Except.bind]

/-! ## The first item that is refused -/

/-- A check refuses the item at an index, and it passes every item before. -/
structure FirstFault
    (check : α → Except ε β)
    (items : List α)
    (index : Nat)
    (item : α)
    (fault : ε) : Prop where
  stands : items[index]? = some item
  fails : check item = .error fault
  earlierPass : ∀ earlier < index, ∀ other, items[earlier]? = some other →
    ∃ value, check other = .ok value

namespace FirstFault

variable {check : α → Except ε β} {first item : α} {rest items : List α}
  {index : Nat} {fault : ε}

/-- No item of an empty list is refused. -/
theorem not_nil : ¬FirstFault check [] index item fault := by
  intro isFirst
  have stands := isFirst.stands
  rw [List.getElem?_nil] at stands
  cases stands

/-- Nothing is looked at behind a first item that is refused. -/
theorem cons_iff_of_error
    {refusal : ε}
    (refused : check first = .error refusal) :
    FirstFault check (first :: rest) index item fault ↔
      index = 0 ∧ first = item ∧ refusal = fault := by
  constructor
  · intro isFirst
    have isHead : index = 0 := by
      by_contra isLater
      obtain ⟨value, passes⟩ :=
        isFirst.earlierPass 0 (Nat.pos_of_ne_zero isLater) first rfl
      rw [refused] at passes
      cases passes
    have isItem : first = item := by
      have stands := isFirst.stands
      rw [isHead] at stands
      exact Option.some.inj stands
    have isFault := isFirst.fails
    rw [← isItem, refused] at isFault
    exact ⟨isHead, isItem, Except.error.inj isFault⟩
  · rintro ⟨rfl, rfl, rfl⟩
    exact ⟨rfl, refused, fun earlier isEarlier => absurd isEarlier (by omega)⟩

/-- Behind a first item that passes, the rest decides. -/
theorem cons_iff_of_ok
    {value : β}
    (passed : check first = .ok value) :
    FirstFault check (first :: rest) index item fault ↔
      ∃ before, index = before + 1 ∧
        FirstFault check rest before item fault := by
  constructor
  · intro isFirst
    cases index with
    | zero =>
        have isItem : first = item := Option.some.inj isFirst.stands
        have fails := isFirst.fails
        rw [← isItem, passed] at fails
        cases fails
    | succ before =>
        refine ⟨before, rfl, isFirst.stands, isFirst.fails, ?_⟩
        intro earlier isEarlier
        exact isFirst.earlierPass (earlier + 1) (by omega)
  · rintro ⟨before, rfl, isFirst⟩
    refine ⟨isFirst.stands, isFirst.fails, ?_⟩
    intro earlier isEarlier other stands
    cases earlier with
    | zero => exact ⟨value, Option.some.inj stands ▸ passed⟩
    | succ earlier =>
        exact isFirst.earlierPass earlier (by omega) other stands

end FirstFault

/-! ## Lists that are read item by item -/

section

variable {read : α → Except ε β} {put : σ → β → σ} {items : List α}
  {start : σ}

/-- A list is read where each of its items is. -/
theorem exists_forall₂_eq_ok_iff :
    (∃ values,
      List.Forall₂ (fun item value => read item = .ok value) items values) ↔
      ∀ item ∈ items, ∃ value, read item = .ok value := by
  induction items with
  | nil => simp
  | cons first rest inductionHypothesis =>
      rw [List.forall_mem_cons, ← inductionHypothesis]
      constructor
      · rintro ⟨_, isRead⟩
        obtain ⟨value, values, isFirst, isRest, -⟩ :=
          List.forall₂_cons_left_iff.mp isRead
        exact ⟨⟨value, isFirst⟩, values, isRest⟩
      · rintro ⟨⟨value, isFirst⟩, values, isRest⟩
        exact ⟨value :: values, .cons isFirst isRest⟩

/-- Every item is read, and all that was read is put into the state. -/
theorem foldlM_read_eq_ok_iff
    {after : σ} :
    items.foldlM (fun state item => (read item).map (put state)) start =
        .ok after ↔
      ∃ values,
        List.Forall₂ (fun item value => read item = .ok value) items values ∧
          values.foldl put start = after := by
  induction items generalizing start with
  | nil => simp [pure, Except.pure]
  | cons first rest inductionHypothesis =>
      simp only [List.foldlM_cons, bind_eq_ok_iff, map_eq_ok_iff,
        inductionHypothesis, List.forall₂_cons_left_iff]
      constructor
      · rintro ⟨_, ⟨value, isFirst, rfl⟩, values, isRest, isAfter⟩
        exact ⟨_, ⟨value, values, isFirst, isRest, rfl⟩, isAfter⟩
      · rintro ⟨_, ⟨value, values, isFirst, isRest, rfl⟩, isAfter⟩
        exact ⟨_, ⟨value, isFirst, rfl⟩, values, isRest, isAfter⟩

/-- The first item that cannot be read ends the reading. -/
theorem foldlM_read_eq_error_iff
    {fault : ε} :
    items.foldlM (fun state item => (read item).map (put state)) start =
        .error fault ↔
      ∃ index item, FirstFault read items index item fault := by
  induction items generalizing start with
  | nil => simp [pure, Except.pure, FirstFault.not_nil]
  | cons first rest inductionHypothesis =>
      rw [List.foldlM_cons]
      cases isFirst : read first with
      | error refusal =>
          simp only [FirstFault.cons_iff_of_error isFirst]
          change Except.error refusal = _ ↔ _
          simp
      | ok value =>
          simp only [FirstFault.cons_iff_of_ok isFirst]
          change List.foldlM _ (put start value) rest = _ ↔ _
          rw [inductionHypothesis]
          constructor
          · rintro ⟨index, item, isLater⟩
            exact ⟨index + 1, item, index, rfl, isLater⟩
          · rintro ⟨_, item, index, -, isLater⟩
            exact ⟨index, item, isLater⟩

end

/-! ## Faults in an order -/

/-- The error is a fault of the first sort of which there is any. -/
def FirstOf : List (ε → Prop) → ε → Prop
  | [], _ => False
  | fault :: later, error =>
      fault error ∨ (∀ other, ¬fault other) ∧ FirstOf later error

/-- What is made from an outcome is looked at only where that outcome has no
fault. -/
theorem bind_eq_error_iff_firstOf
    {result : Except ε α}
    {next : α → Except ε β}
    {fault : ε → Prop}
    {later : List (ε → Prop)}
    (isFault : ∀ error, result = .error error ↔ fault error)
    (isLater : ∀ held, result = .ok held →
      ∀ error, next held = .error error ↔ FirstOf later error)
    (error : ε) :
    (result >>= next) = .error error ↔ FirstOf (fault :: later) error := by
  rw [bind_eq_error_iff, FirstOf, ← isFault error]
  cases outcome : result with
  | error other =>
      have isOther : fault other := (isFault other).mp outcome
      have noneLater : ¬∀ other, ¬fault other := fun none => none other isOther
      simp [noneLater]
  | ok held =>
      have noneHere : ∀ other, ¬fault other := by
        intro other isOther
        rw [← isFault other, outcome] at isOther
        cases isOther
      simp only [reduceCtorEq, false_or, Except.ok.injEq, exists_eq_left']
      rw [isLater held outcome error]
      exact ⟨fun isError => ⟨noneHere, isError⟩, And.right⟩

end Provision
