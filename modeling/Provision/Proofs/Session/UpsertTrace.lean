import Provision.Command.Upsert
import Provision.Proofs.Session.Exchanges

/-!
Contract: what goes over the wire while one command is carried out.

The traces of the three steps of a command are relations: which operations
follow each other depends on nothing but the answers.  The run of a command
has such a trace whatever the endpoint answers, and its outcome is told by the
last answer.

Owns:
- the traces of removal, reload on demand, and of a whole command;
- the law that every run of a command has such a trace.

Does not own: the steps of a single operation, and batches.
-/

namespace Provision

namespace ManagementClient

/-- The trace of a removal, and whether it ends without error: the names are
read, and the node is removed where its name is among them. -/
inductive RemovalTrace (address : Address) : List SessionStep → Bool → Prop where
  | absent {looked : Answer} (isAbsent : SaysAbsent address.leaf.name looked) :
      RemovalTrace address
        [.exchanged (.readChildrenNames address.parent address.leaf.kind)
          looked] true
  | unknown {looked : Answer}
      (notListed : ¬ Lists address.leaf.name looked)
      (notAbsent : ¬ SaysAbsent address.leaf.name looked) :
      RemovalTrace address
        [.exchanged (.readChildrenNames address.parent address.leaf.kind)
          looked] false
  | removed {looked removed : Answer}
      (isListed : Lists address.leaf.name looked) (done : Bool)
      (isDone : done = true ↔ Succeeds removed) :
      RemovalTrace address
        [.exchanged (.readChildrenNames address.parent address.leaf.kind)
            looked,
          .exchanged (.remove address) removed] done

/-- The trace of a reload on demand, and whether it ends without error: the
state is read, and the server reloads and is polled where the state says that
it must. -/
inductive ReloadTrace (client : ManagementClient) :
    List SessionStep → Bool → Prop where
  | unneeded {read : Answer} {state : String} (reads : Reads state read)
      (isOther : state ≠ reloadState) :
      ReloadTrace client [.exchanged stateOperation read] true
  | unknown {read : Answer} (noState : ∀ state, ¬ Reads state read) :
      ReloadTrace client [.exchanged stateOperation read] false
  | notStarted {read started : Answer} {error : SessionError}
      (reads : Reads reloadState read)
      (fails : Started started (.error error)) :
      ReloadTrace client
        [.exchanged stateOperation read, .exchanged .reload started] false
  | polled {read started : Answer} {answers : List Answer}
      (reads : Reads reloadState read) (begins : Started started (.ok ()))
      (isBounded : answers.length ≤ client.policy.maxPolls)
      (outcome : Except SessionError Unit)
      (polling : client.Polling client.policy.maxPolls answers outcome) :
      ReloadTrace client
        (.exchanged stateOperation read :: .exchanged .reload started ::
          client.polls answers) outcome.isOk

/-- An outcome that is not the failure for a node that is there already. -/
def SparesDuplicate {α : Type} (outcome : Except SessionError α) : Prop :=
  ∀ error, outcome = .error error → error.isDuplicate = false

theorem isDuplicate_of_isPassing {error : SessionError}
    (passes : isPassing error = true) : error.isDuplicate = false := by
  cases error with
  | transport | protocol => rfl
  | _ => cases passes

namespace SparesDuplicate

variable {α : Type}

@[simp]
theorem ok (value : α) : SparesDuplicate (.ok value) :=
  fun _ isError => by cases isError

@[simp]
theorem error_iff (error : SessionError) :
    SparesDuplicate (.error error : Except SessionError α) ↔
      error.isDuplicate = false := by
  simp [SparesDuplicate]

theorem of_undecoded {answer : Answer} {error : SessionError}
    (undecoded : decode answer = .error error) :
    SparesDuplicate (.error error : Except SessionError α) :=
  (error_iff error).mpr
    (isDuplicate_of_isPassing (isPassing_of_decode_eq_error undecoded))

end SparesDuplicate

section Laws

variable (client : ManagementClient) (address : Address)

theorem yields_present :
    client.Yields (client.present address) fun trace outcome =>
      ∃ answer, trace = [.exchanged
          (.readChildrenNames address.parent address.leaf.kind) answer] ∧
        (outcome = .ok true ↔ Lists address.leaf.name answer) ∧
        (outcome = .ok false ↔ SaysAbsent address.leaf.name answer) ∧
        SparesDuplicate outcome := by
  refine (client.yields_execute _).andThen ?_ ?_
  · rintro response early ⟨answer, rfl, isDecoded⟩
    have decoded : decode answer = .ok response := isDecoded.symm
    cases succeeds : response.isSuccess with
    | false =>
        cases isAbsent : saysNotFound response.failure with
        | true =>
            refine .ofPure ⟨answer, rfl, ?_⟩
            simp [Lists, SaysAbsent, says_iff_of_decoded decoded, succeeds,
              isAbsent]
        | false =>
            refine .ofThrow ⟨answer, rfl, ?_⟩
            simp [Lists, SaysAbsent, says_iff_of_decoded decoded, succeeds,
              isAbsent, failed, SessionError.isDuplicate]
    | true =>
        cases result : response.result with
        | array names =>
            refine .ofPure ⟨answer, rfl, ?_⟩
            simp [Lists, SaysAbsent, says_iff_of_decoded decoded, succeeds,
              result]
        | _ =>
            refine .ofThrow ⟨answer, rfl, ?_⟩
            simp [Lists, SaysAbsent, says_iff_of_decoded decoded, succeeds,
              result, SessionError.isDuplicate]
  · rintro error early ⟨answer, rfl, isUndecoded⟩
    have undecoded : decode answer = .error error := isUndecoded.symm
    have saysNothing := not_says_of_undecoded undecoded
    exact ⟨answer, rfl, by simp [Lists, saysNothing],
      by simp [SaysAbsent, saysNothing], .of_undecoded undecoded⟩

theorem yields_removeIfPresent :
    client.Yields (client.removeIfPresent address) fun trace outcome =>
      RemovalTrace address trace outcome.isOk ∧ SparesDuplicate outcome := by
  refine (client.yields_present address).andThen ?_ ?_
  · rintro isThere early ⟨looked, rfl, isListed, isAbsent, -⟩
    cases isThere with
    | false => exact .ofPure ⟨.absent (isAbsent.mp rfl), .ok false⟩
    | true =>
        have lists := isListed.mp rfl
        refine (client.yields_execute _).andThen ?_ ?_
        · rintro response early ⟨removed, rfl, decoded⟩
          have isDone : Succeeds removed ↔ response.isSuccess = true :=
            says_iff_of_decoded decoded.symm _
          cases succeeds : response.isSuccess with
          | true =>
              exact .ofPure ⟨.removed lists true (by simp [isDone, succeeds]),
                .ok true⟩
          | false =>
              exact .ofThrow ⟨.removed lists false (by simp [isDone, succeeds]),
                (SparesDuplicate.error_iff _).mpr rfl⟩
        · rintro error early ⟨removed, rfl, undecoded⟩
          have notDone : ¬ Succeeds removed :=
            not_says_of_undecoded undecoded.symm _
          exact ⟨.removed lists false (by simp [notDone]),
            .of_undecoded undecoded.symm⟩
  · rintro error early ⟨looked, rfl, notListed, notAbsent, spares⟩
    refine ⟨.unknown ?_ ?_, (SparesDuplicate.error_iff error).mpr ?_⟩
    · intro lists
      cases notListed.mpr lists
    · intro absent
      cases notAbsent.mpr absent
    · exact spares error rfl

theorem StateRead.sparesDuplicate {answer : Answer}
    {outcome : Except SessionError String}
    (isRead : StateRead answer outcome) : SparesDuplicate outcome := by
  cases isRead with
  | read => exact .ok _
  | refused => exact (SparesDuplicate.error_iff _).mpr rfl
  | unread _ _ passes =>
      exact (SparesDuplicate.error_iff _).mpr (isDuplicate_of_isPassing passes)

theorem Started.isDuplicate_eq_false {answer : Answer} {error : SessionError}
    (fails : Started answer (.error error)) : error.isDuplicate = false := by
  cases fails <;> rfl

theorem Polling.sparesDuplicate {left : Nat} {answers : List Answer}
    {outcome : Except SessionError Unit}
    (polling : client.Polling left answers outcome) :
    SparesDuplicate outcome := by
  induction polling with
  | exhausted | refused => exact (SparesDuplicate.error_iff _).mpr rfl
  | running => exact .ok ()
  | waiting _ _ _ inductionHypothesis => exact inductionHypothesis

theorem yields_reloadIfRequired :
    client.Yields client.reloadIfRequired fun trace outcome =>
      client.ReloadTrace trace outcome.isOk ∧ SparesDuplicate outcome := by
  refine client.yields_serverState.andThen ?_ ?_
  · rintro state early ⟨read, rfl, isRead⟩
    have reads : Reads state read := (isRead.eq_ok_iff state).mp rfl
    by_cases isReload : state = reloadState
    · -- A reload that was not taken is not followed by any poll.
      rw [if_pos isReload]
      subst isReload
      refine client.yields_reload.andThen ?_ ?_
      · rintro ⟨⟩ early ⟨started, answers, rfl, isTold⟩
        rcases isTold with ⟨begins, polling⟩ | ⟨-, error, -, isError⟩
        · have isBounded := polling.length_le client
          exact .ofPure ⟨by
            simpa using .polled reads begins isBounded _ polling, .ok true⟩
        · cases isError
      · rintro error early ⟨started, answers, rfl, isTold⟩
        rcases isTold with ⟨begins, polling⟩ | ⟨rfl, cause, fails, isError⟩
        · have isBounded := polling.length_le client
          have spares := polling.sparesDuplicate client error rfl
          exact ⟨.polled reads begins isBounded _ polling,
            (SparesDuplicate.error_iff error).mpr spares⟩
        · cases isError
          exact ⟨.notStarted reads fails,
            (SparesDuplicate.error_iff error).mpr fails.isDuplicate_eq_false⟩
    · rw [if_neg isReload]
      exact .ofPure ⟨.unneeded reads isReload, .ok false⟩
  · rintro error early ⟨read, rfl, isRead⟩
    refine ⟨.unknown fun state reads => ?_,
      (SparesDuplicate.error_iff error).mpr (isRead.sparesDuplicate error rfl)⟩
    cases (isRead.eq_ok_iff state).mpr reads

theorem yields_add (values : ValueSet) :
    client.Yields (client.add address values) fun trace outcome =>
      ∃ answer, trace = [.exchanged (.add address values) answer] ∧
        (outcome = .ok () ↔ Succeeds answer) ∧
        ((∃ error, outcome = .error error ∧ error.isDuplicate = true) ↔
          SaysDuplicate answer) := by
  refine (client.yields_execute _).andThen ?_ ?_
  · rintro response early ⟨answer, rfl, decoded⟩
    have isDone : Succeeds answer ↔ response.isSuccess = true :=
      says_iff_of_decoded decoded.symm _
    have isDuplicate : SaysDuplicate answer ↔ response.isSuccess = false ∧
        mentions response.failure duplicateCode = true := by
      rw [SaysDuplicate, says_iff_of_decoded decoded.symm, mentions,
        Text.contains_eq_true_iff]
    cases succeeds : response.isSuccess with
    | true =>
        refine .ofPure ⟨answer, rfl, ?_, ?_⟩
        · simp [isDone, succeeds]
        · simp [isDuplicate, succeeds]
    | false =>
        cases isThere : mentions response.failure duplicateCode with
        | true =>
            refine .ofThrow ⟨answer, rfl, ?_, ?_⟩
            · simp [isDone, succeeds]
            · simp [isDuplicate, succeeds, isThere, SessionError.isDuplicate]
        | false =>
            refine .ofThrow ⟨answer, rfl, ?_, ?_⟩
            · simp [isDone, succeeds]
            · simp [isDuplicate, isThere, SessionError.isDuplicate]
  · rintro error early ⟨answer, rfl, undecoded⟩
    have saysNothing := not_says_of_undecoded undecoded.symm
    have spares := isDuplicate_of_isPassing
      (isPassing_of_decode_eq_error undecoded.symm)
    exact ⟨answer, rfl, by simp [Succeeds, saysNothing],
      by simp [SaysDuplicate, saysNothing, spares]⟩

end Laws

/-! ## The trace of a command -/

/-- The trace of what a replacing command does before it adds, and how it
ends.  The reload on demand follows only a removal without error. -/
inductive ClearTrace (client : ManagementClient) (address : Address) :
    List SessionStep → Except CommandError Unit → Prop where
  | notRemoved {removal : List SessionStep} {error : SessionError}
      (ends : RemovalTrace address removal false)
      (spares : error.isDuplicate = false) :
      ClearTrace client address removal
        (.error (.failed address .remove (.session error)))
  | notReloaded {removal reload : List SessionStep} {error : SessionError}
      (isRemoved : RemovalTrace address removal true)
      (ends : client.ReloadTrace reload false)
      (spares : error.isDuplicate = false) :
      ClearTrace client address (removal ++ reload)
        (.error (.failed address .reload (.session error)))
  | cleared {removal reload : List SessionStep}
      (isRemoved : RemovalTrace address removal true)
      (isReloaded : client.ReloadTrace reload true) :
      ClearTrace client address (removal ++ reload) (.ok ())

/-- The trace of a command.  A command that keeps what is there only adds; a
command that replaces adds only after it has cleared, and then adds last. -/
inductive UpsertTrace (client : ManagementClient) (command : Command) :
    List SessionStep → Prop where
  | added {answer : Answer} (keeps : command.replaceExisting = false) :
      UpsertTrace client command
        [.exchanged (.add command.address command.values) answer]
  | notCleared {trace : List SessionStep} {error : CommandError}
      (replaces : command.replaceExisting = true)
      (ends : client.ClearTrace command.address trace (.error error)) :
      UpsertTrace client command trace
  | replaced {trace : List SessionStep} {answer : Answer}
      (replaces : command.replaceExisting = true)
      (isCleared : client.ClearTrace command.address trace (.ok ())) :
      UpsertTrace client command
        (trace ++ [.exchanged (.add command.address command.values) answer])

theorem yields_clear (client : ManagementClient) (address : Address) :
    client.Yields (Command.clear client.session address)
      (client.ClearTrace address) := by
  refine ((client.yields_removeIfPresent address).reword _).andThen ?_ ?_
  · rintro isThere removal ⟨inner, ⟨isRemoved, -⟩, isInner⟩
    cases inner with
    | error => cases isInner
    | ok =>
        refine (client.yields_reloadIfRequired.reword _).andThen ?_ ?_
        · rintro isDone reload ⟨inner, ⟨isReloaded, -⟩, isInner⟩
          cases inner with
          | error => cases isInner
          | ok =>
              exact .ofPure (by simpa using .cleared isRemoved isReloaded)
        · rintro error reload ⟨inner, ⟨ends, spares⟩, isInner⟩
          cases inner with
          | ok => cases isInner
          | error cause =>
              cases isInner
              exact .notReloaded isRemoved ends (spares cause rfl)
  · rintro error removal ⟨inner, ⟨ends, spares⟩, isInner⟩
    cases inner with
    | ok => cases isInner
    | error cause =>
        cases isInner
        exact .notRemoved ends (spares cause rfl)

/-- The operations of a trace, in the order in which they went out. -/
def sentOperations (trace : List SessionStep) : List Operation :=
  trace.filterMap fun
    | .exchanged operation _ => some operation
    | .waited _ => none

/-- The step of a command that an operation goes out for. -/
def phase (operation : Operation) : CommandStep :=
  if operation.name = "add" then .add
  else if operation.name = "remove" ∨
      operation.name = "read-children-names" then .remove
  else .reload

/-- Operations go out, and each of them for the same step. -/
def BelongsTo (step : CommandStep) (trace : List SessionStep) : Prop :=
  sentOperations trace ≠ [] ∧
    ∀ operation ∈ sentOperations trace, phase operation = step

theorem sentOperations_append (early late : List SessionStep) :
    sentOperations (early ++ late) =
      sentOperations early ++ sentOperations late :=
  List.filterMap_append

/-- The last operation is one of the last step. -/
theorem BelongsTo.getLast? {step : CommandStep} {late : List SessionStep}
    (belongs : BelongsTo step late) (early : List SessionStep) :
    (sentOperations (early ++ late)).getLast?.map phase = some step := by
  obtain ⟨isSome, isSame⟩ := belongs
  have isLast := List.getLast?_eq_some_getLast isSome
  rw [sentOperations_append, List.getLast?_append, isLast]
  exact congrArg some (isSame _ (List.getLast_mem isSome))

theorem RemovalTrace.belongsTo {address : Address} {trace : List SessionStep}
    {done : Bool} (isTrace : RemovalTrace address trace done) :
    BelongsTo .remove trace := by
  cases isTrace <;>
    simp [BelongsTo, sentOperations, phase, Operation.readChildrenNames,
      Operation.remove]

theorem ReloadTrace.belongsTo {client : ManagementClient}
    {trace : List SessionStep} {done : Bool}
    (isTrace : client.ReloadTrace trace done) : BelongsTo .reload trace := by
  have isState : phase stateOperation = .reload := by decide
  have isReload : phase .reload = .reload := by decide
  cases isTrace with
  | unneeded | unknown => simp [BelongsTo, sentOperations, isState]
  | notStarted => simp [BelongsTo, sentOperations, isState, isReload]
  | @polled read started answers =>
      have isPoll : ∀ operation ∈ sentOperations (client.polls answers),
          phase operation = .reload := by
        intro operation isSent
        simp only [sentOperations, polls, List.mem_filterMap,
          List.mem_flatMap] at isSent
        obtain ⟨step, ⟨answer, -, isStep⟩, isOperation⟩ := isSent
        simp only [List.mem_cons, List.not_mem_nil, or_false] at isStep
        rcases isStep with rfl | rfl
        · cases isOperation
        · cases isOperation
          exact isState
      refine ⟨by simp [sentOperations], fun operation isSent => ?_⟩
      change operation ∈ stateOperation :: Operation.reload ::
        sentOperations (client.polls answers) at isSent
      rcases List.mem_cons.mp isSent with rfl | isLater
      · exact isState
      · rcases List.mem_cons.mp isLater with rfl | isLater
        · exact isReload
        · exact isPoll operation isLater

theorem BelongsTo.not_mem_of_ne {step : CommandStep}
    {trace : List SessionStep} (belongs : BelongsTo step trace)
    {operation : Operation} (isOther : phase operation ≠ step)
    (answer : Answer) : .exchanged operation answer ∉ trace := by
  intro isThere
  have isSent : operation ∈ sentOperations trace :=
    List.mem_filterMap.mpr ⟨_, isThere, rfl⟩
  exact isOther (belongs.2 operation isSent)

/-- Before it adds, a command never sends what it adds with. -/
theorem ClearTrace.not_added {client : ManagementClient} {address : Address}
    {trace : List SessionStep} {outcome : Except CommandError Unit}
    (isTrace : client.ClearTrace address trace outcome)
    (node : Address) (values : ValueSet) (answer : Answer) :
    .exchanged (.add node values) answer ∉ trace := by
  have isAdd : phase (.add node values) = .add := rfl
  have notRemoval {removal : List SessionStep} {done : Bool}
      (isRemoval : RemovalTrace address removal done) :
      .exchanged (.add node values) answer ∉ removal :=
    isRemoval.belongsTo.not_mem_of_ne (by simp [isAdd]) answer
  have notReload {reload : List SessionStep} {done : Bool}
      (isReload : client.ReloadTrace reload done) :
      .exchanged (.add node values) answer ∉ reload :=
    isReload.belongsTo.not_mem_of_ne (by simp [isAdd]) answer
  cases isTrace with
  | notRemoved ends => exact notRemoval ends
  | notReloaded isRemoved ends =>
      simp [notRemoval isRemoved, notReload ends]
  | cleared isRemoved isReloaded =>
      simp [notRemoval isRemoved, notReload isReloaded]

/-- A failure before the addition is one of the step that was begun last. -/
theorem ClearTrace.failure_step {client : ManagementClient} {address : Address}
    {trace : List SessionStep} {error : CommandError}
    (isTrace : client.ClearTrace address trace (.error error)) :
    error.isDuplicate = false ∧
      error.step? = (sentOperations trace).getLast?.map phase := by
  cases isTrace with
  | notRemoved ends spares =>
      exact ⟨spares, (ends.belongsTo.getLast? []).symm⟩
  | notReloaded isRemoved ends spares =>
      exact ⟨spares, (ends.belongsTo.getLast? _).symm⟩

/-- What a trace and an outcome tell about each other. -/
structure TellsOutcome (command : Command) (trace : List SessionStep)
    (outcome : Except CommandError Unit) : Prop where
  ok_iff : outcome = .ok () ↔ ∃ answer,
    .exchanged (.add command.address command.values) answer ∈ trace ∧
      Succeeds answer
  step : ∀ error, outcome = .error error →
    error.step? = (sentOperations trace).getLast?.map phase
  duplicate_iff :
    (∃ error, outcome = .error error ∧ error.isDuplicate = true) ↔
      ∃ answer,
        .exchanged (.add command.address command.values) answer ∈ trace ∧
          SaysDuplicate answer

/-- The steps of the addition tell the outcome where nothing like it was sent
before. -/
theorem yields_addition (client : ManagementClient) (command : Command) :
    client.Yields
      (Command.atStep command.address .add .session
        (client.session.add command.address command.values))
      fun trace outcome => ∃ answer,
        trace =
          [.exchanged (.add command.address command.values) answer] ∧
        ∀ early, (∀ other,
            .exchanged (.add command.address command.values) other ∉ early) →
          TellsOutcome command (early ++ trace) outcome := by
  refine ((client.yields_add command.address command.values).reword _).mono ?_
  rintro trace outcome ⟨inner, ⟨answer, rfl, isDone, isDuplicate⟩, rfl⟩
  refine ⟨answer, rfl, fun early notEarly => ?_⟩
  have belongs : BelongsTo .add
      [.exchanged (.add command.address command.values) answer] := by
    simp [BelongsTo, sentOperations, phase, Operation.add]
  cases inner with
  | ok =>
      change TellsOutcome command _ (.ok ())
      refine ⟨?_, fun error isError => (by cases isError), ?_⟩
      · simp [notEarly, ← isDone]
      · simp [notEarly, ← isDuplicate]
  | error cause =>
      change TellsOutcome command _
        (.error (.failed command.address .add (.session cause)))
      refine ⟨?_, fun error isError => ?_, ?_⟩
      · simp [notEarly, ← isDone]
      · cases isError
        exact (belongs.getLast? early).symm
      · simp [notEarly, ← isDuplicate, CommandError.isDuplicate,
          BackendError.isDuplicate]

/-- The operations that carry out a command follow each other as the answers
say, whatever they are; and the outcome is the one that the last answer
tells. -/
theorem applyLive_trace (client : ManagementClient) (command : Command) :
    client.Yields (command.applyLive client.session) fun trace outcome =>
      client.UpsertTrace command trace ∧
        TellsOutcome command trace outcome := by
  have yieldsAdd := client.yields_addition command
  cases replaces : command.replaceExisting with
  | false =>
      have isAdd : command.applyLive client.session =
          Command.atStep command.address .add .session
            (client.session.add command.address command.values) := by
        rw [Command.applyLive, replaces]
        rfl
      rw [isAdd]
      refine yieldsAdd.mono ?_
      rintro trace outcome ⟨answer, rfl, tells⟩
      exact ⟨.added replaces, tells [] fun _ => List.not_mem_nil⟩
  | true =>
      rw [Command.applyLive, replaces]
      refine (client.yields_clear command.address).andThen ?_ ?_
      · rintro isDone early isCleared
        refine yieldsAdd.mono ?_
        rintro late outcome ⟨answer, rfl, tells⟩
        exact ⟨.replaced replaces isCleared,
          tells early (isCleared.not_added _ _)⟩
      · rintro error trace ends
        obtain ⟨spares, isStep⟩ := ends.failure_step
        have notAdded := ends.not_added command.address command.values
        refine ⟨.notCleared replaces ends, ?_, fun cause isError => ?_, ?_⟩
        · simp [notAdded]
        · cases isError
          exact isStep
        · simp [notAdded, spares]

end ManagementClient

end Provision
