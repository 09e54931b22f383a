import Provision.Command.Upsert

/-!
Contract: batches, which run strictly in order.

The first failure ends a batch; what was done before it stays done.  For a
document the transforms of all commands are looked up before the first is
applied, so that a command without one fails the batch up front.

Owns:
- the run of a list of actions with the position of the one that failed;
- `Batch.runLive`, `Batch.transforms` and `Batch.runOffline`;
- the equations of a run for its first item.

Does not own: the carrying out of a single command.
-/

namespace Provision

/-- Commands in the order in which they are carried out. -/
abbrev Batch := List Command

namespace Batch

variable {σ α : Type}

/-- Runs an action for each item from the left.  Positions are counted from
an index, and the index after the last item is the result. -/
def runInOrder (kind : α → String) (act : α → Attempt σ CommandError Unit) :
    Nat → List α → Attempt σ BatchError Nat
  | index, [] => return index
  | index, item :: rest => do
      ExceptT.adapt (fun cause => ⟨index, kind item, cause⟩) (act item)
      runInOrder kind act (index + 1) rest

@[simp]
theorem runFrom_runInOrder_nil (kind : α → String)
    (act : α → Attempt σ CommandError Unit) (index : Nat) (state : σ) :
    (runInOrder kind act index []).runFrom state = (.ok index, state) := rfl

/-- The first item decides whether the run goes on. -/
theorem runFrom_runInOrder_cons (kind : α → String)
    (act : α → Attempt σ CommandError Unit) (index : Nat) (item : α)
    (rest : List α) (state : σ) :
    (runInOrder kind act index (item :: rest)).runFrom state =
      match (act item).runFrom state with
      | (.ok (), after) => (runInOrder kind act (index + 1) rest).runFrom after
      | (.error cause, after) => (.error ⟨index, kind item, cause⟩, after) := by
  rw [runInOrder, Attempt.runFrom_bind, Attempt.runFrom_adapt]
  cases (act item).runFrom state with
  | mk outcome after => cases outcome <;> rfl

/-- Runs a batch on a server; the result is the number of commands. -/
def runLive (session : LiveSession σ) (batch : Batch) :
    Attempt σ BatchError Nat :=
  runInOrder Command.kind (Command.applyLive session) 0 batch

/-- The transforms of commands, counted from an index. -/
def transformsFrom : Nat → Batch →
    Except BatchError (List (Command × Document.Transform))
  | _, [] => .ok []
  | index, command :: rest =>
      match command.transform with
      | .error cause => .error ⟨index, command.kind, cause⟩
      | .ok transform =>
          (transformsFrom (index + 1) rest).map fun others =>
            (command, transform) :: others

/-- The transforms of all commands; the first command without one fails. -/
def transforms (batch : Batch) :
    Except BatchError (List (Command × Document.Transform)) :=
  transformsFrom 0 batch

/-- Runs a batch on a document; the result is the number of commands. -/
def runOffline (document : OfflineDocument σ) (batch : Batch) :
    Attempt σ BatchError Nat :=
  match batch.transforms with
  | .error error => throw error
  | .ok resolved =>
      runInOrder (fun item => item.1.kind)
        (fun item => Command.applyTransform document item.1 item.2) 0 resolved

end Batch

end Provision
