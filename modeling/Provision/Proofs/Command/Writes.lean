import Mathlib.Data.List.Induction
import Provision.Command.Batch

/-!
Contract: runs of writes, each of which goes to a place of its own and may be
refused by the state it meets.

A batch is such a run on a server as well as on a document, so what holds of
every run of writes is shown here once: a run that is carried out by attempts,
a run of writes to different places, and a run that is made twice.

Owns:
- `Writes`, with the run of a list and the condition that it goes through;
- the attempts that carry writes out, and the run of such attempts;
- the laws for the order of writes to different places;
- the law for a run that is made twice.

Does not own: what a command writes on a server or in a document.
-/

namespace Provision

/-- Writes of items into states: which state accepts an item, what the state
is afterwards, and where the item goes. -/
structure Writes (σ α κ : Type) where
  accepts : σ → α → Prop
  next : σ → α → σ
  place : α → κ

namespace Writes

variable {σ α κ : Type} (writes : Writes σ α κ)

/-- The state after all items. -/
def run (state : σ) (items : List α) : σ :=
  items.foldl writes.next state

/-- Each item is accepted when its turn comes. -/
def GoThrough : σ → List α → Prop
  | _, [] => True
  | state, item :: rest =>
      writes.accepts state item ∧ GoThrough (writes.next state item) rest

/-! ## Attempts that carry writes out -/

/-- The attempts succeed on the items that are accepted, and lead from a
machine that shows a state to one that shows the next state. -/
structure CarriedOut {τ : Type} (writes : Writes σ α κ)
    (act : α → Attempt τ CommandError Unit) (Shows : τ → σ → Prop) :
    Prop where
  accepted : ∀ {machine state item}, Shows machine state →
    writes.accepts state item → ∃ after,
      (act item).runFrom machine = (.ok (), after) ∧
        Shows after (writes.next state item)
  refused : ∀ {machine state item}, Shows machine state →
    ¬ writes.accepts state item → ∃ error after,
      (act item).runFrom machine = (.error error, after)

section

variable {writes} {τ : Type} {act : α → Attempt τ CommandError Unit}
  {Shows : τ → σ → Prop} {machine : τ} {state : σ} {items : List α}

/-- A run in which each item is accepted succeeds with the count of items. -/
theorem CarriedOut.runInOrder_of_goThrough
    (carriedOut : writes.CarriedOut act Shows) (shows : Shows machine state)
    (through : writes.GoThrough state items) (kind : α → String)
    (index : Nat) :
    ∃ after, (Batch.runInOrder kind act index items).runFrom machine =
        (.ok (index + items.length), after) ∧
      Shows after (writes.run state items) := by
  induction items generalizing machine state index with
  | nil => exact ⟨machine, rfl, shows⟩
  | cons item rest inductionHypothesis =>
      obtain ⟨isAccepted, restThrough⟩ := through
      obtain ⟨between, ran, showsNext⟩ := carriedOut.accepted shows isAccepted
      obtain ⟨after, ranRest, showsAfter⟩ :=
        inductionHypothesis showsNext restThrough (index + 1)
      refine ⟨after, ?_, showsAfter⟩
      rw [Batch.runFrom_runInOrder_cons, ran]
      simp only [ranRest, List.length_cons]
      rw [Nat.add_right_comm, Nat.add_assoc]

/-- A run in which some item is not accepted fails. -/
theorem CarriedOut.runInOrder_of_not_goThrough
    (carriedOut : writes.CarriedOut act Shows) (shows : Shows machine state)
    (stopped : ¬ writes.GoThrough state items) (kind : α → String)
    (index : Nat) :
    ∃ error after, (Batch.runInOrder kind act index items).runFrom machine =
      (.error error, after) := by
  induction items generalizing machine state index with
  | nil => exact absurd trivial stopped
  | cons item rest inductionHypothesis =>
      rw [Batch.runFrom_runInOrder_cons]
      by_cases isAccepted : writes.accepts state item
      · obtain ⟨between, ran, showsNext⟩ := carriedOut.accepted shows isAccepted
        rw [ran]
        exact inductionHypothesis showsNext
          (fun restThrough => stopped ⟨isAccepted, restThrough⟩) (index + 1)
      · obtain ⟨error, after, ran⟩ := carriedOut.refused shows isAccepted
        rw [ran]
        exact ⟨_, after, rfl⟩

end

/-! ## Writes to different places -/

/-- A write that is accepted does not decide whether one to another place
is. -/
def Separate : Prop :=
  ∀ state item other, writes.place item ≠ writes.place other →
    writes.accepts state other →
      (writes.accepts (writes.next state other) item ↔
        writes.accepts state item)

/-- Writes to different places go through where the first state accepts each
of them. -/
theorem goThrough_iff {writes : Writes σ α κ} (separate : writes.Separate)
    {items : List α} (distinct : (items.map writes.place).Nodup) (state : σ) :
    writes.GoThrough state items ↔
      ∀ item ∈ items, writes.accepts state item := by
  induction items generalizing state with
  | nil => simp [GoThrough]
  | cons first rest inductionHypothesis =>
      rw [List.map_cons, List.nodup_cons] at distinct
      rw [GoThrough, inductionHypothesis distinct.2, List.forall_mem_cons]
      refine and_congr_right fun isAccepted =>
        forall₂_congr fun item isItem => ?_
      refine separate state item first (fun samePlace => ?_) isAccepted
      exact distinct.1 (samePlace ▸ List.mem_map_of_mem isItem)

/-- The writes of a list to different places go through in any order. -/
theorem goThrough_perm {writes : Writes σ α κ} (separate : writes.Separate)
    {items others : List α}
    (rearranged : items.Perm others)
    (distinct : (items.map writes.place).Nodup) (state : σ) :
    writes.GoThrough state items ↔ writes.GoThrough state others := by
  have otherDistinct := (rearranged.map writes.place).nodup_iff.mp distinct
  rw [goThrough_iff separate distinct, goThrough_iff separate otherDistinct]
  exact forall_congr' fun item => imp_congr_left rearranged.mem_iff

/-- Writes keep states the same in some sense, and so do two writes to
different places in either order. -/
structure CommutesUpTo (Same : σ → σ → Prop) : Prop where
  refl : ∀ state, Same state state
  trans : ∀ {first second third}, Same first second → Same second third →
    Same first third
  keeps : ∀ {state other}, Same state other →
    ∀ item, Same (writes.next state item) (writes.next other item)
  comm : ∀ {item other}, writes.place item ≠ writes.place other →
    ∀ state, Same (writes.next (writes.next state other) item)
      (writes.next (writes.next state item) other)

namespace CommutesUpTo

variable {writes : Writes σ α κ} {Same : σ → σ → Prop}
  (commutes : writes.CommutesUpTo Same)

include commutes

theorem keeps_run {state other : σ} (same : Same state other)
    (items : List α) :
    Same (writes.run state items) (writes.run other items) := by
  induction items generalizing state other with
  | nil => exact same
  | cons item rest inductionHypothesis =>
      exact inductionHypothesis (commutes.keeps same item)

/-- Writes to different places may be made in any order. -/
theorem perm_run {items others : List α} (rearranged : items.Perm others)
    (distinct : (items.map writes.place).Nodup) (state : σ) :
    Same (writes.run state items) (writes.run state others) := by
  induction rearranged generalizing state with
  | nil => exact commutes.refl state
  | cons first _ inductionHypothesis =>
      rw [List.map_cons, List.nodup_cons] at distinct
      exact inductionHypothesis distinct.2 _
  | swap first second rest =>
      rw [List.map_cons, List.nodup_cons] at distinct
      have isOther : writes.place first ≠ writes.place second := fun same =>
        distinct.1 (by simp [same])
      exact commutes.keeps_run (commutes.comm isOther state) rest
  | trans before _ beforeHypothesis afterHypothesis =>
      -- The list in between has the same places, so they are distinct, too.
      have distinctBetween := (before.map writes.place).nodup_iff.mp distinct
      exact commutes.trans (beforeHypothesis distinct state)
        (afterHypothesis distinctBetween state)

end CommutesUpTo

/-! ## Runs that are made twice -/

/-- Once the item is accepted, no write keeps it from being accepted. -/
def Lasts (item : α) : Prop :=
  ∀ state other, writes.accepts state item →
    writes.accepts (writes.next state other) item

section

variable {writes} {items : List α} {state : σ}

theorem Lasts.accepts_run {item : α} (lasts : writes.Lasts item)
    (isAccepted : writes.accepts state item) (items : List α) :
    writes.accepts (writes.run state items) item := by
  induction items generalizing state with
  | nil => exact isAccepted
  | cons other rest inductionHypothesis =>
      exact inductionHypothesis (lasts state other isAccepted)

theorem goThrough_of_lasts (allLast : ∀ item ∈ items, writes.Lasts item)
    (allAccepted : ∀ item ∈ items, writes.accepts state item) :
    writes.GoThrough state items := by
  induction items generalizing state with
  | nil => trivial
  | cons first rest inductionHypothesis =>
      rw [List.forall_mem_cons] at allLast allAccepted
      refine ⟨allAccepted.1, inductionHypothesis allLast.2 ?_⟩
      exact fun item isItem =>
        allLast.2 item isItem state first (allAccepted.2 item isItem)

theorem GoThrough.accepts_run (through : writes.GoThrough state items)
    (allLast : ∀ item ∈ items, writes.Lasts item) :
    ∀ item ∈ items, writes.accepts (writes.run state items) item := by
  induction items generalizing state with
  | nil => exact fun item isItem => by cases isItem
  | cons first rest inductionHypothesis =>
      rw [List.forall_mem_cons] at allLast ⊢
      refine ⟨?_, inductionHypothesis through.2 allLast.2⟩
      exact allLast.1.accepts_run through.1 (first :: rest)

/-- Items that last go through again after they went through. -/
theorem GoThrough.again (through : writes.GoThrough state items)
    (allLast : ∀ item ∈ items, writes.Lasts item) :
    writes.GoThrough (writes.run state items) items :=
  goThrough_of_lasts allLast (through.accepts_run allLast)

end

/-- The later of two writes to one place counts.  Once a place is held, a
write to it and a write to another place may change places. -/
structure LastCounts (Held : κ → σ → Prop) : Prop where
  absorbs : ∀ {later earlier}, writes.place later = writes.place earlier →
    ∀ state, writes.next (writes.next state earlier) later =
      writes.next state later
  commutes : ∀ {item other}, writes.place item ≠ writes.place other →
    ∀ {state}, Held (writes.place item) state →
      writes.next (writes.next state other) item =
        writes.next (writes.next state item) other
  holds : ∀ state item, Held (writes.place item) (writes.next state item)
  keeps : ∀ {place state}, Held place state →
    ∀ item, Held place (writes.next state item)

namespace LastCounts

variable {writes : Writes σ α κ} {Held : κ → σ → Prop}
  (lastCounts : writes.LastCounts Held)

include lastCounts

theorem keeps_run {place : κ} {state : σ} (held : Held place state)
    (items : List α) : Held place (writes.run state items) := by
  induction items generalizing state with
  | nil => exact held
  | cons item rest inductionHypothesis =>
      exact inductionHypothesis (lastCounts.keeps held item)

/-- After a run every place of one of its items is held. -/
theorem held_run {items : List α} {item : α} (isItem : item ∈ items)
    (state : σ) : Held (writes.place item) (writes.run state items) := by
  induction items generalizing state with
  | nil => cases isItem
  | cons first rest inductionHypothesis =>
      rcases List.mem_cons.mp isItem with rfl | inRest
      · exact lastCounts.keeps_run (lastCounts.holds state item) rest
      · exact inductionHypothesis inRest _

/-- An item that is written last need not be written first as well, where all
places in between are held. -/
theorem next_run_next (last : α) {items : List α} {state : σ}
    (allHeld : ∀ item ∈ items, Held (writes.place item) state) :
    writes.next (writes.run (writes.next state last) items) last =
      writes.next (writes.run state items) last := by
  induction items generalizing state with
  | nil => exact lastCounts.absorbs rfl state
  | cons item rest inductionHypothesis =>
      have heldNext : ∀ other ∈ rest,
          Held (writes.place other) (writes.next state item) :=
        fun other isOther => lastCounts.keeps
          (allHeld other (List.mem_cons_of_mem _ isOther)) item
      simp only [run, List.foldl_cons] at inductionHypothesis ⊢
      by_cases samePlace : writes.place item = writes.place last
      · rw [lastCounts.absorbs samePlace]
      · rw [lastCounts.commutes samePlace (allHeld item (by simp)),
          inductionHypothesis heldNext]

/-- **A run that is made twice is made once.**  The induction is on the end of
the list: the last item need not be written first as well, and the items
before it find all their places held. -/
theorem run_run (items : List α) (state : σ) :
    writes.run (writes.run state items) items = writes.run state items := by
  induction items using List.reverseRecOn with
  | nil => rfl
  | append_singleton before last inductionHypothesis =>
      have split : ∀ start, writes.run start (before ++ [last]) =
          writes.next (writes.run start before) last := by
        intro start
        simp [run]
      rw [split, split, lastCounts.next_run_next last
        (fun item isItem => lastCounts.held_run isItem state),
        inductionHypothesis]

end LastCounts

end Writes

end Provision
