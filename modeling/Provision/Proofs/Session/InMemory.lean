import Provision.Command.Upsert
import Provision.Session.InMemory

/-!
Contract: what the operations of a server in memory do, each in one equation.

Owns:
- the states that the operations lead to, and why an addition is refused;
- the outcome and the state after each operation;
- the outcome and the state after a command.

Does not own: batches, and anything that a document does.
-/

namespace Provision

namespace InMemory

/-! ## The states that operations lead to -/

/-- The server with one more call. -/
def noted (server : InMemory) (call : Call) : InMemory :=
  { server with calls := server.calls ++ [call] }

/-- The server without a node.  A node that was there leaves a reload
pending. -/
def without (server : InMemory) (address : Address) : InMemory :=
  { server with
    nodes := Members.erase address server.nodes
    reloadPending :=
      server.reloadPending || (server.node? address).isSome }

/-- The server after the reload that was pending, if there was one. -/
def settled (server : InMemory) : InMemory :=
  if server.reloadPending then
    { server.noted .reload with
      reloadPending := false
      reloads := server.reloads + 1 }
  else server

/-- The server after the steps that come before a node is put in place of
another one. -/
def cleared (server : InMemory) (address : Address) : InMemory :=
  (((server.noted (.remove address)).without address).noted
    .reloadIfRequired).settled

/-- Whether one of the values is refused. -/
def Rejects (server : InMemory) (values : ValueSet) : Prop :=
  ∃ name, server.rejected = some name ∧ name ∈ Members.names values

/-- Why the server does not add a node: no answer, a refused attribute, or a
node that is there already, asked in this order. -/
def refusal? (server : InMemory) (address : Address) (values : ValueSet) :
    Option SessionError :=
  if server.unavailable then some (.transport .timeout)
  else
    match server.rejection? values with
    | some name =>
        some (.invalidAttributes address ("'" ++ name ++ "' rejected"))
    | none =>
        if (server.node? address).isSome then some (.duplicateResource address)
        else none

section States

variable (server : InMemory) (address : Address)

@[simp]
theorem node?_noted (call : Call) :
    (server.noted call).node? address = server.node? address := rfl

@[simp]
theorem rejection?_noted (call : Call) (values : ValueSet) :
    (server.noted call).rejection? values = server.rejection? values := rfl

@[simp]
theorem node?_seed (other : Address) (values : ValueSet) :
    (server.seed address values).node? other =
      if other = address then some values else server.node? other := by
  simp [seed, node?, Members.get?_put]

@[simp]
theorem nodes_cleared :
    (server.cleared address).nodes = Members.erase address server.nodes := by
  unfold cleared settled
  split <;> rfl

@[simp]
theorem node?_cleared (other : Address) :
    (server.cleared address).node? other =
      if other = address then none else server.node? other := by
  simp [node?, Members.get?_erase]

@[simp]
theorem unavailable_cleared :
    (server.cleared address).unavailable = server.unavailable := by
  unfold cleared settled
  split <;> rfl

@[simp]
theorem rejected_cleared :
    (server.cleared address).rejected = server.rejected := by
  unfold cleared settled
  split <;> rfl

@[simp]
theorem rejects_cleared (values : ValueSet) :
    (server.cleared address).Rejects values ↔ server.Rejects values := by
  simp [Rejects]

@[simp]
theorem reloadPending_settled :
    server.settled.reloadPending = false := by
  unfold settled
  split
  · rfl
  · next isSettled => simpa using isSettled

@[simp]
theorem reloadPending_cleared :
    (server.cleared address).reloadPending = false :=
  reloadPending_settled _

/-- What stands between a removal and the question for a pending reload. -/
private theorem reloadPending_removed (call : Call) :
    (((server.noted (.remove address)).without address).noted
        call).reloadPending =
      (server.reloadPending || (server.node? address).isSome) := rfl

/-- A reload is made where one was pending or a node was removed. -/
theorem reloads_cleared :
    (server.cleared address).reloads = server.reloads +
      if server.reloadPending || (server.node? address).isSome then 1
      else 0 := by
  unfold cleared settled
  rw [reloadPending_removed]
  split <;> rfl

/-- The calls of the steps before an addition, in order. -/
theorem calls_cleared :
    (server.cleared address).calls =
      server.calls ++ [.remove address, .reloadIfRequired] ++
        if server.reloadPending || (server.node? address).isSome then
          [.reload]
        else [] := by
  unfold cleared settled
  rw [reloadPending_removed]
  split <;> simp [noted, without]

end States

/-- An attribute is refused where the server rejects one of the values. -/
theorem rejection?_eq_none_iff (server : InMemory) (values : ValueSet) :
    server.rejection? values = none ↔ ¬ server.Rejects values := by
  unfold rejection? Rejects
  cases server.rejected with
  | none => simp
  | some name => simp [Option.filter, ← Members.contains_eq_true_iff]

/-- A node is added where the server answers, takes the values, and has no
such node. -/
theorem refusal?_eq_none_iff (server : InMemory) (address : Address)
    (values : ValueSet) :
    server.refusal? address values = none ↔
      server.unavailable = false ∧ ¬ server.Rejects values ∧
        server.node? address = none := by
  rw [← rejection?_eq_none_iff]
  unfold refusal?
  by_cases isUnavailable : server.unavailable
  · simp [isUnavailable]
  · cases server.rejection? values <;> simp [isUnavailable]

/-- An addition is refused as a duplicate only by a server that answers and
would take the values. -/
theorem refusal?_isDuplicate_iff (server : InMemory) (address : Address)
    (values : ValueSet) :
    (∃ cause, server.refusal? address values = some cause ∧
        cause.isDuplicate = true) ↔
      server.unavailable = false ∧ ¬ server.Rejects values ∧
        (server.node? address).isSome := by
  rw [← rejection?_eq_none_iff]
  unfold refusal?
  by_cases isUnavailable : server.unavailable
  · simp [isUnavailable, SessionError.isDuplicate]
  · cases server.rejection? values with
    | some name => simp [isUnavailable, SessionError.isDuplicate]
    | none =>
        by_cases isThere : (server.node? address).isSome
        · simp [isUnavailable, isThere, SessionError.isDuplicate]
        · simp [isUnavailable, isThere]

/-! ## Operations -/

section Operations

variable (server : InMemory) (address : Address)

theorem runFrom_note (call : Call) :
    (note call).runFrom server =
      (if server.unavailable then .error (.transport .timeout) else .ok (),
        server.noted call) := by
  simp only [note, Attempt.runFrom_bind, Attempt.runFrom_get,
    Attempt.runFrom_set, noted]
  split <;> rfl

theorem runFrom_add (values : ValueSet) :
    (add address values).runFrom server =
      match server.refusal? address values with
      | some cause => (.error cause, server.noted (.add address))
      | none => (.ok (), (server.noted (.add address)).seed address values) := by
  simp only [add, Attempt.runFrom_bind, runFrom_note, refusal?]
  by_cases isUnavailable : server.unavailable
  · simp [isUnavailable]
  · simp only [isUnavailable, Bool.false_eq_true, if_false,
      Attempt.runFrom_get, rejection?_noted]
    cases server.rejection? values with
    | some name => rfl
    | none =>
        by_cases isThere : (server.node? address).isSome
        · simp [isThere]
        · simp [isThere]

theorem runFrom_removeIfPresent :
    (removeIfPresent address).runFrom server =
      if server.unavailable then
        (.error (.transport .timeout), server.noted (.remove address))
      else
        (.ok (server.node? address).isSome,
          (server.noted (.remove address)).without address) := by
  simp only [removeIfPresent, Attempt.runFrom_bind, runFrom_note]
  by_cases isUnavailable : server.unavailable
  · simp [isUnavailable]
  · simp only [isUnavailable, Bool.false_eq_true, if_false,
      Attempt.runFrom_get, node?_noted, without]
    by_cases isThere : (server.node? address).isSome
    · simp only [isThere, if_true, Attempt.runFrom_bind, Attempt.runFrom_set,
        Attempt.runFrom_pure, Bool.or_true]
    · have unbound : Members.get? address server.nodes = none := by
        simpa [node?] using isThere
      have unchanged := Members.erase_of_get?_eq_none unbound
      simp [isThere, noted, unchanged]

theorem runFrom_reload :
    reload.runFrom server =
      if server.unavailable then
        (.error (.transport .timeout), server.noted .reload)
      else
        (.ok (),
          { server.noted .reload with
            reloadPending := false
            reloads := server.reloads + 1 }) := by
  simp only [reload, Attempt.runFrom_bind, runFrom_note]
  by_cases isUnavailable : server.unavailable
  · simp [isUnavailable]
  · simp [isUnavailable, noted]

theorem runFrom_reloadIfRequired
    (answers : server.unavailable = false) :
    reloadIfRequired.runFrom server =
      (.ok server.reloadPending,
        (server.noted .reloadIfRequired).settled) := by
  simp only [reloadIfRequired, Attempt.runFrom_bind, runFrom_note, answers,
    Bool.false_eq_true, if_false, Attempt.runFrom_get, settled]
  by_cases isPending : server.reloadPending
  · simp only [noted, isPending, if_true, Attempt.runFrom_bind,
      Attempt.runFrom_set, Attempt.runFrom_pure, runFrom_reload, answers,
      Bool.false_eq_true, if_false]
  · simp [noted, isPending]

end Operations

end InMemory

/-! ## Commands -/

namespace Command

open InMemory (session)

/-- Clearing the place of a node fails only where nothing is answered, and
then at its first step. -/
theorem runFrom_clear_inMemory (address : Address) (server : InMemory) :
    (clear session address).runFrom server =
      if server.unavailable then
        (.error (.failed address .remove (.session (.transport .timeout))),
          server.noted (.remove address))
      else (.ok (), server.cleared address) := by
  simp only [clear, atStep, session, Attempt.runFrom_bind,
    Attempt.runFrom_adapt, InMemory.runFrom_removeIfPresent]
  by_cases isUnavailable : server.unavailable
  · simp [isUnavailable]
  · have answers : server.unavailable = false := by
      simpa using isUnavailable
    have reloads := InMemory.runFrom_reloadIfRequired
      ((server.noted (.remove address)).without address) answers
    simp [answers, reloads, InMemory.cleared]

/-- The outcome of the last step, the addition. -/
def added (command : Command) (server : InMemory) :
    Except CommandError Unit × InMemory :=
  match server.refusal? command.address command.values with
  | some cause =>
      (.error (.failed command.address .add (.session cause)),
        server.noted (.add command.address))
  | none =>
      (.ok (), (server.noted (.add command.address)).seed command.address
        command.values)

/-- A command that keeps what is there only adds. -/
theorem runFrom_applyLive_keeping (command : Command) (server : InMemory)
    (keeps : command.replaceExisting = false) :
    (command.applyLive session).runFrom server = command.added server := by
  simp only [applyLive, keeps, Bool.false_eq_true, if_false, atStep, session,
    Attempt.runFrom_adapt, InMemory.runFrom_add, added]
  cases server.refusal? command.address command.values <;> rfl

/-- A command that replaces clears the place first. -/
theorem runFrom_applyLive_replacing (command : Command) (server : InMemory)
    (replaces : command.replaceExisting = true) :
    (command.applyLive session).runFrom server =
      if server.unavailable then
        (.error (.failed command.address .remove
            (.session (.transport .timeout))),
          server.noted (.remove command.address))
      else command.added (server.cleared command.address) := by
  simp only [applyLive, replaces, if_true, Attempt.runFrom_bind,
    runFrom_clear_inMemory]
  by_cases isUnavailable : server.unavailable
  · simp [isUnavailable]
  · simp only [isUnavailable, Bool.false_eq_true, if_false, atStep, session,
      Attempt.runFrom_adapt, InMemory.runFrom_add, added]
    cases (server.cleared command.address).refusal? command.address
      command.values <;> rfl

section Added

variable (command : Command) (server : InMemory)

theorem added_eq_ok_iff :
    (command.added server).1 = .ok () ↔
      server.unavailable = false ∧ ¬ server.Rejects command.values ∧
        server.node? command.address = none := by
  rw [← InMemory.refusal?_eq_none_iff]
  unfold added
  cases server.refusal? command.address command.values <;> simp

theorem node?_added_of_ok (isOk : (command.added server).1 = .ok ())
    (address : Address) :
    (command.added server).2.node? address =
      if address = command.address then some command.values
      else server.node? address := by
  unfold added at isOk ⊢
  cases refused : server.refusal? command.address command.values with
  | some cause => simp [refused] at isOk
  | none => simp

theorem step?_added_of_error {error : CommandError}
    (failed : (command.added server).1 = .error error) :
    error.step? = some .add ∧
      (command.added server).2.nodes = server.nodes := by
  unfold added at failed ⊢
  cases refused : server.refusal? command.address command.values with
  | some cause =>
      simp only [refused, Except.error.injEq] at failed
      subst failed
      exact ⟨rfl, rfl⟩
  | none => simp [refused] at failed

theorem added_isDuplicate_iff :
    (∃ error, (command.added server).1 = .error error ∧
        error.isDuplicate = true) ↔
      server.unavailable = false ∧ ¬ server.Rejects command.values ∧
        (server.node? command.address).isSome := by
  rw [← InMemory.refusal?_isDuplicate_iff]
  unfold added
  cases server.refusal? command.address command.values with
  | some cause => simp [CommandError.isDuplicate, BackendError.isDuplicate]
  | none => simp

theorem added_of_ok (isOk : (command.added server).1 = .ok ()) :
    (command.added server).2 =
      (server.noted (.add command.address)).seed command.address
        command.values := by
  unfold added at isOk ⊢
  cases refused : server.refusal? command.address command.values with
  | some cause => simp [refused] at isOk
  | none => rfl

end Added

/-- The whole contract of a command on a server in memory, whatever state it
is in: when it succeeds, which nodes there are afterwards, when the failure is
that of a duplicate, and which calls a replacement makes. -/
theorem applyLive_inMemory_contract (command : Command) (server : InMemory) :
    let ran := (command.applyLive session).runFrom server
    let wasThere := (server.node? command.address).isSome
    let reloads := server.reloadPending || wasThere
    (ran.1 = .ok () ↔
      server.unavailable = false ∧ ¬ server.Rejects command.values ∧
        (command.replaceExisting = true ∨ wasThere = false)) ∧
    (ran.1 = .ok () → ∀ address, ran.2.node? address =
      if address = command.address then some command.values
      else server.node? address) ∧
    (∀ error, ran.1 = .error error → command.replaceExisting = false →
      ∀ address, ran.2.node? address = server.node? address) ∧
    (∀ error, ran.1 = .error error → command.replaceExisting = true →
      (error.step? = some .remove ∧
        ∀ address, ran.2.node? address = server.node? address) ∨
      (error.step? = some .add ∧
        ∀ address, ran.2.node? address =
          if address = command.address then none
          else server.node? address)) ∧
    ((∃ error, ran.1 = .error error ∧ error.isDuplicate = true) ↔
      server.unavailable = false ∧ ¬ server.Rejects command.values ∧
        command.replaceExisting = false ∧ wasThere = true) ∧
    (ran.1 = .ok () → command.replaceExisting = true →
      ran.2.reloads = server.reloads + (if reloads then 1 else 0) ∧
      ran.2.reloadPending = false ∧
      ran.2.calls = server.calls ++
        [.remove command.address, .reloadIfRequired] ++
        (if reloads then [.reload] else []) ++ [.add command.address]) := by
  dsimp only
  cases mode : command.replaceExisting with
  | false =>
      rw [runFrom_applyLive_keeping command server mode]
      refine ⟨?_, node?_added_of_ok command server, ?_, by simp, ?_, by simp⟩
      · rw [added_eq_ok_iff]
        simp
      · intro error failed _ address
        rw [InMemory.node?, (step?_added_of_error command server failed).2]
        rfl
      · rw [added_isDuplicate_iff]
        simp
  | true =>
      rw [runFrom_applyLive_replacing command server mode]
      by_cases isUnavailable : server.unavailable
      · simp [isUnavailable, CommandError.step?, CommandError.isDuplicate,
          BackendError.isDuplicate, SessionError.isDuplicate]
      · have answers : server.unavailable = false := by
          simpa using isUnavailable
        simp only [answers, Bool.false_eq_true, if_false]
        refine ⟨?_, ?_, by simp, ?_, ?_, ?_⟩
        · rw [added_eq_ok_iff]
          simp [answers]
        · intro isOk address
          rw [node?_added_of_ok command _ isOk address]
          by_cases isHere : address = command.address <;> simp [isHere]
        · intro error failed _
          have unchanged := step?_added_of_error command _ failed
          refine Or.inr ⟨unchanged.1, fun address => ?_⟩
          rw [InMemory.node?, unchanged.2, ← InMemory.node?]
          simp
        · rw [added_isDuplicate_iff]
          simp
        · intro isOk _
          rw [added_of_ok command _ isOk]
          refine ⟨InMemory.reloads_cleared server command.address,
            InMemory.reloadPending_cleared server command.address, ?_⟩
          change (server.cleared command.address).calls ++ _ = _
          rw [InMemory.calls_cleared]

end Command

end Provision
