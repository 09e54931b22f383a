import Provision.Proofs.Command.Outcome
import Provision.Run

/-!
Contract: batches run strictly from the left and stop at the first failure.

What a batch comes to is said without the run: either all of its commands
succeed one after the other, or the ones before some command do and that
command fails, after which nothing happens any more.

Owns:
- what commands that are carried out in turn come to;
- the run of a batch as the one thing that they come to, on a server and on a
  document;
- the run of two batches in a row;
- the calls that a server in memory gets from a batch;
- the failure of a dry run.

Does not own: what a single command does.
-/

namespace Provision

/-- The node that a call is for, if it is for one. -/
def InMemory.Call.address? : InMemory.Call → Option Address
  | .present address => some address
  | .add address => some address
  | .remove address => some address
  | .query address _ => some address
  | .reloadIfRequired => none
  | .reload => none

/-- No step was begun only where there is no offline form. -/
theorem CommandError.step?_eq_none_iff {error : CommandError} :
    error.step? = none ↔
      ∃ kind address, error = .unsupported kind address := by
  cases error <;> simp [step?]

namespace Batch

open InMemory (session)

variable {σ : Type}

/-! ## What commands come to -/

section

variable {act : Command → Attempt σ CommandError Unit}
  {state between after : σ} {batch before rest : Batch}

/-- The commands are carried out one after the other, each with success. -/
inductive Reaches (act : Command → Attempt σ CommandError Unit) :
    σ → Batch → σ → Prop where
  | nil (state : σ) : Reaches act state [] state
  | cons {state between after : σ} {command : Command} {rest : Batch}
      (succeeds : (act command).runFrom state = (.ok (), between))
      (others : Reaches act between rest after) :
      Reaches act state (command :: rest) after

/-- What commands come to in turn: all of them succeed, or the ones before
some command do and that command fails.  The failure tells how many commands
succeeded, the kind of the one that did not, and its error; the state is the
one that this command leaves. -/
inductive ComesTo (act : Command → Attempt σ CommandError Unit) (state : σ)
    (batch : Batch) : Except BatchError Nat × σ → Prop where
  | done {after : σ} (reaches : Reaches act state batch after) :
      ComesTo act state batch (.ok batch.length, after)
  | stopped {before rest : Batch} {command : Command} {between after : σ}
      {cause : CommandError} (isBatch : batch = before ++ command :: rest)
      (reaches : Reaches act state before between)
      (fails : (act command).runFrom between = (.error cause, after)) :
      ComesTo act state batch
        (.error ⟨before.length, command.kind, cause⟩, after)

/-- An outcome of commands that come behind a number of others. -/
def shifted (count : Nat) (outcome : Except BatchError Nat) :
    Except BatchError Nat :=
  (outcome.map (count + ·)).mapError fun error =>
    { error with index := count + error.index }

/-- Positions may be counted from any index. -/
theorem runFrom_runInOrder_shifted (count index : Nat) (batch : Batch)
    (state : σ) :
    (runInOrder Command.kind act (count + index) batch).runFrom state =
      (shifted count
          ((runInOrder Command.kind act index batch).runFrom state).1,
        ((runInOrder Command.kind act index batch).runFrom state).2) := by
  induction batch generalizing index state with
  | nil => rfl
  | cons command rest inductionHypothesis =>
      rw [runFrom_runInOrder_cons, runFrom_runInOrder_cons]
      cases (act command).runFrom state with
      | mk outcome between =>
          cases outcome with
          | error cause => rfl
          | ok => exact inductionHypothesis (index + 1) between

/-- A run of two batches goes on with the second where the first ends. -/
theorem runFrom_runInOrder_append (index : Nat) (batch others : Batch)
    (state : σ) :
    (runInOrder Command.kind act index (batch ++ others)).runFrom state =
      match (runInOrder Command.kind act index batch).runFrom state with
      | (.ok reached, after) =>
          (runInOrder Command.kind act reached others).runFrom after
      | (.error error, after) => (.error error, after) := by
  induction batch generalizing index state with
  | nil => rfl
  | cons command rest inductionHypothesis =>
      rw [List.cons_append, runFrom_runInOrder_cons, runFrom_runInOrder_cons]
      cases (act command).runFrom state with
      | mk outcome between =>
          cases outcome with
          | error cause => rfl
          | ok => exact inductionHypothesis (index + 1) between

/-- Commands that succeed one after the other are passed by a run. -/
theorem Reaches.runFrom_append (reaches : Reaches act state before between)
    (index : Nat) (rest : Batch) :
    (runInOrder Command.kind act index (before ++ rest)).runFrom state =
      (runInOrder Command.kind act (index + before.length) rest).runFrom
        between := by
  induction reaches generalizing index with
  | nil state => rfl
  | cons succeeds others inductionHypothesis =>
      rw [List.cons_append, runFrom_runInOrder_cons, succeeds]
      dsimp only
      rw [inductionHypothesis, List.length_cons, Nat.add_right_comm,
        Nat.add_assoc]

theorem comesTo_runInOrder (batch : Batch) (state : σ) :
    ComesTo act state batch
      ((runInOrder Command.kind act 0 batch).runFrom state) := by
  induction batch generalizing state with
  | nil => exact .done (.nil state)
  | cons command rest inductionHypothesis =>
      rw [runFrom_runInOrder_cons]
      cases ran : (act command).runFrom state with
      | mk outcome between =>
          cases outcome with
          | error cause =>
              have isBatch : command :: rest = [] ++ command :: rest := rfl
              exact .stopped isBatch (.nil state) ran
          | ok =>
              have later := inductionHypothesis between
              dsimp only
              rw [runFrom_runInOrder_shifted 1 0]
              generalize (runInOrder Command.kind act 0 rest).runFrom between =
                ended at later
              cases later with
              | done reaches =>
                  have isDone := ComesTo.done (.cons ran reaches)
                  rw [List.length_cons, Nat.add_comm] at isDone
                  exact isDone
              | @stopped before others failing _ _ _ isRest reaches fails =>
                  have isStopped := ComesTo.stopped
                    (congrArg (command :: ·) isRest) (.cons ran reaches) fails
                  rw [List.length_cons, Nat.add_comm] at isStopped
                  exact isStopped

/-- A run ends with the one outcome that its commands come to in turn. -/
theorem runFrom_runInOrder_eq_iff
    {outcome : Except BatchError Nat × σ} :
    (runInOrder Command.kind act 0 batch).runFrom state = outcome ↔
      ComesTo act state batch outcome := by
  refine ⟨fun ran => ran ▸ comesTo_runInOrder batch state, fun comesTo => ?_⟩
  cases comesTo with
  | done reaches =>
      have ran := reaches.runFrom_append 0 []
      rwa [List.append_nil, Nat.zero_add] at ran
  | stopped isBatch reaches fails =>
      rw [isBatch, reaches.runFrom_append, runFrom_runInOrder_cons, fails,
        Nat.zero_add]

end

/-! ## Calls -/

/-- The calls of commands come behind the ones that were made before, and none
of them is for the node of another command. -/
def CallsFor (batch : Batch) (server after : InMemory) : Prop :=
  ∃ made, after.calls = server.calls ++ made ∧
    ∀ call ∈ made, ∀ address ∈ call.address?,
      ∃ command ∈ batch, command.address = address

theorem CallsFor.trans {batch others : Batch}
    {server between after : InMemory} (first : CallsFor batch server between)
    (second : CallsFor others between after) :
    CallsFor (batch ++ others) server after := by
  obtain ⟨made, isMade, forBatch⟩ := first
  obtain ⟨later, isLater, forOthers⟩ := second
  refine ⟨made ++ later, by rw [isLater, isMade, List.append_assoc], ?_⟩
  intro call isCall address isFor
  rcases List.mem_append.mp isCall with inMade | inLater
  · obtain ⟨command, isMember, isAddress⟩ := forBatch call inMade address isFor
    exact ⟨command, List.mem_append_left _ isMember, isAddress⟩
  · obtain ⟨command, isMember, isAddress⟩ :=
      forOthers call inLater address isFor
    exact ⟨command, List.mem_append_right _ isMember, isAddress⟩

/-- The last step of a command makes one call. -/
theorem callsFor_added (command : Command) (server : InMemory) :
    CallsFor [command] server (command.added server).2 := by
  refine ⟨[.add command.address], ?_, by simp [InMemory.Call.address?]⟩
  unfold Command.added
  cases server.refusal? command.address command.values <;> rfl

theorem callsFor_cleared (command : Command) (server : InMemory) :
    CallsFor [command] server (server.cleared command.address) := by
  rw [CallsFor, InMemory.calls_cleared, List.append_assoc]
  refine ⟨_, rfl, ?_⟩
  split <;> simp [InMemory.Call.address?]

/-- Whatever comes of it, a command makes calls for its own node only. -/
theorem callsFor_applyLive (command : Command) (server : InMemory) :
    CallsFor [command] server
      ((command.applyLive session).runFrom server).2 := by
  cases mode : command.replaceExisting with
  | false =>
      rw [command.runFrom_applyLive_keeping server mode]
      exact callsFor_added command server
  | true =>
      rw [command.runFrom_applyLive_replacing server mode]
      split
      · exact ⟨[.remove command.address], rfl,
          by simp [InMemory.Call.address?]⟩
      · obtain ⟨made, isMade, forCommand⟩ :=
          (callsFor_cleared command server).trans
            (callsFor_added command (server.cleared command.address))
        exact ⟨made, isMade, by simpa using forCommand⟩

theorem Reaches.callsFor {batch : Batch} {server after : InMemory}
    (reaches : Reaches (Command.applyLive session) server batch after) :
    CallsFor batch server after := by
  induction reaches with
  | nil server => exact ⟨[], by simp, by simp⟩
  | @cons server between after command rest succeeds others
      inductionHypothesis =>
      have first := callsFor_applyLive command server
      rw [succeeds] at first
      exact first.trans inductionHypothesis

/-- A batch that fails makes no call for a command behind the failing one. -/
theorem callsFor_of_stopped {batch before rest : Batch} {command : Command}
    {server between after : InMemory} {cause : CommandError}
    (isBatch : batch = before ++ command :: rest)
    (reaches : Reaches (Command.applyLive session) server before between)
    (fails : (command.applyLive session).runFrom between =
      (.error cause, after)) :
    CallsFor (batch.take (before.length + 1)) server after := by
  have last := callsFor_applyLive command between
  rw [fails] at last
  have isTaken : batch.take (before.length + 1) = before ++ [command] := by
    rw [isBatch, List.take_length_add_append, List.take_succ_cons,
      List.take_zero]
  rw [isTaken]
  exact reaches.callsFor.trans last

/-! ## Documents -/

/-- On a document a command with an offline form fails in its only step. -/
theorem step?_of_applyOffline {document : OfflineDocument σ}
    {command : Command} (isOffline : command.offline.isSome) {state after : σ}
    {cause : CommandError}
    (fails : (command.applyOffline document).runFrom state =
      (.error cause, after)) : cause.step? = some .add := by
  obtain ⟨transform, isTransform⟩ := Option.isSome_iff_exists.mp isOffline
  simp only [Command.applyOffline, Command.transform, isTransform,
    Command.applyTransform, Command.atStep, Attempt.runFrom_adapt,
    Prod.mk.injEq] at fails
  cases ran : ((document.apply transform).runFrom state).1 with
  | ok => simp [ran] at fails
  | error error =>
      rw [ran, Attempt.mapError_error, Except.error.injEq] at fails
      rw [← fails.1]
      rfl

/-- A batch fails for want of an offline form where the look-up of its
transforms fails, whatever the document is. -/
theorem transforms_eq_error_iff (document : OfflineDocument σ) (state : σ)
    {batch : Batch} {error : BatchError} :
    batch.transforms = .error error ↔
      ((batch.runOffline document).runFrom state).1 = .error error ∧
        error.cause.step? = none := by
  by_cases isThere : ∃ command ∈ batch, command.offline = none
  · obtain ⟨before, command, rest, rfl, earlierOffline, isLiveOnly⟩ :=
      exists_first_liveOnly isThere
    have isError : Batch.transforms (before ++ command :: rest) =
        .error ⟨before.length, command.kind,
          .unsupported command.kind command.address⟩ := by
      rw [transforms, transformsFrom_of_first earlierOffline isLiveOnly,
        Nat.zero_add]
    simp only [runOffline, isError, Attempt.runFrom_throw,
      Except.error.injEq]
    refine ⟨fun same => ⟨same, same ▸ rfl⟩, And.left⟩
  · have allOffline : ∀ command ∈ batch, command.offline.isSome := by
      intro command isMember
      by_contra isNone
      exact isThere ⟨command, isMember, by simpa using isNone⟩
    have isOk : batch.transforms = .ok batch.resolved :=
      transformsFrom_of_all allOffline 0
    rw [isOk, runOffline_of_all document allOffline]
    refine iff_of_false (by simp) ?_
    rintro ⟨failed, notBegun⟩
    have ended : ComesTo (Command.applyOffline document) state batch _ :=
      comesTo_runInOrder batch state
    generalize (runInOrder Command.kind (Command.applyOffline document) 0
      batch).runFrom state = ran at failed ended
    cases ended with
    | done reaches => cases failed
    | @stopped before rest command _ _ _ isBatch reaches fails =>
        cases failed
        have isMember : command ∈ batch := by simp [isBatch]
        rw [step?_of_applyOffline (allOffline command isMember) fails]
          at notBegun
        cases notBegun

end Batch

/-! ## Dry runs -/

/-- A dry run against a document fails where a transform is not found. -/
theorem Configuration.rehearse_eq_error_iff {configuration : Configuration}
    (isOffline : configuration.target.isOffline = true) {error : RunError} :
    configuration.rehearse.result = .error error ↔
      ∃ cause, error = .batch cause ∧
        configuration.batch.transforms = .error cause := by
  unfold rehearse
  rw [if_pos isOffline]
  cases configuration.batch.transforms with
  | ok resolved => simp
  | error cause =>
      simp only [Except.error.injEq]
      exact ⟨fun same => ⟨cause, same.symm, rfl⟩,
        fun ⟨_, isBatch, same⟩ => same ▸ isBatch.symm⟩

open InMemory (session) in
/-- **A batch runs strictly from the left and stops at the first failure.**  On
a server in memory, whatever state it is in, the outcome and the state are the
ones that the commands come to in turn; no call is for a command behind the
one that fails; and two batches in a row are one batch.  On a document, a
command without an offline form fails the batch before the document is
touched; the first such command is told, whatever the other ones would do.
Without such a command the batch runs on a document as it does on a server.  A
dry run fails where that run fails for want of an offline form, with the same
error. -/
theorem Batch.run_strictly_in_order {σ : Type} (batch : Batch)
    (server : InMemory) (document : OfflineDocument σ) (state : σ) :
    let live := (batch.runLive session).runFrom server
    let offline := (batch.runOffline document).runFrom state
    (∀ outcome, live = outcome ↔
      ComesTo (Command.applyLive session) server batch outcome) ∧
    (∀ error after, live = (.error error, after) →
      CallsFor (batch.take (error.index + 1)) server after) ∧
    (∀ others : Batch,
      (Batch.runLive session (batch ++ others)).runFrom server =
        match live with
        | (.ok _, after) =>
            let later := (others.runLive session).runFrom after
            (shifted batch.length later.1, later.2)
        | (.error error, after) => (.error error, after)) ∧
    ((∃ command ∈ batch, command.offline = none) →
      ∃ before command rest, batch = before ++ command :: rest ∧
        (∀ earlier ∈ before, earlier.offline.isSome) ∧
        command.offline = none ∧
        offline = (.error ⟨before.length, command.kind,
          .unsupported command.kind command.address⟩, state)) ∧
    ((∀ command ∈ batch, command.offline.isSome) →
      ∀ outcome, offline = outcome ↔
        ComesTo (Command.applyOffline document) state batch outcome) ∧
    (∀ configuration : Configuration,
      configuration.target.isOffline = true → configuration.batch = batch →
        ∀ error, configuration.rehearse.result = .error error ↔
          ∃ cause kind address, error = .batch cause ∧
            cause.cause = .unsupported kind address ∧
            offline.1 = .error cause) := by
  dsimp only
  refine ⟨fun outcome => runFrom_runInOrder_eq_iff, fun error after ran => ?_,
    fun others => ?_, fun isThere => ?_, fun allOffline outcome => ?_,
    fun configuration isOffline isBatch error => ?_⟩
  · cases runFrom_runInOrder_eq_iff.mp ran with
    | stopped isBatch reaches fails =>
        exact callsFor_of_stopped isBatch reaches fails
  · rw [runLive, runFrom_runInOrder_append]
    have ended : ComesTo (Command.applyLive session) server batch _ :=
      comesTo_runInOrder batch server
    rw [← runLive] at ended ⊢
    generalize (batch.runLive session).runFrom server = ran at ended ⊢
    cases ended with
    | done reaches => exact runFrom_runInOrder_shifted batch.length 0 others _
    | stopped isBatch reaches fails => rfl
  · obtain ⟨before, command, rest, rfl, earlierOffline, isLiveOnly⟩ :=
      exists_first_liveOnly isThere
    refine ⟨before, command, rest, rfl, earlierOffline, isLiveOnly, ?_⟩
    simp only [runOffline, transforms,
      transformsFrom_of_first earlierOffline isLiveOnly, Nat.zero_add,
      Attempt.runFrom_throw]
  · rw [runOffline_of_all document allOffline]
    exact runFrom_runInOrder_eq_iff
  · rw [configuration.rehearse_eq_error_iff isOffline, isBatch]
    simp only [transforms_eq_error_iff document state,
      CommandError.step?_eq_none_iff]
    constructor
    · rintro ⟨cause, rfl, failed, kind, address, isUnsupported⟩
      exact ⟨cause, kind, address, rfl, isUnsupported, failed⟩
    · rintro ⟨cause, kind, address, rfl, isUnsupported, failed⟩
      exact ⟨cause, rfl, failed, kind, address, isUnsupported⟩

end Provision
