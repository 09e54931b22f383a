import Provision.Command
import Provision.Command.Error
import Provision.Document.Memory
import Provision.Session.Live

/-!
Contract: how one command is carried out.

On a server, a command that replaces first removes the node and lets the
server reload if it must; then the node is added.  On a document, the
transform of the command is applied.

Owns:
- `Command.applyLive` and `Command.applyOffline`;
- the step that each failure is reported for.

Does not own: batches, and what sessions and documents do.
-/

namespace Provision.Command

variable {σ : Type}

/-- Reports the failure of an attempt for a step. -/
def atStep {ε α : Type} (address : Address) (step : CommandStep)
    (cause : ε → BackendError) (attempt : Attempt σ ε α) :
    Attempt σ CommandError α :=
  ExceptT.adapt (fun error => .failed address step (cause error)) attempt

/-- Takes a node away, and lets the server reload if it must. -/
def clear (session : LiveSession σ) (address : Address) :
    Attempt σ CommandError Unit := do
  let _ ← atStep address .remove .session (session.removeIfPresent address)
  let _ ← atStep address .reload .session session.reloadIfRequired
  return ()

/-- Carries a command out on a server. -/
def applyLive (session : LiveSession σ) (command : Command) :
    Attempt σ CommandError Unit := do
  if command.replaceExisting then clear session command.address
  atStep command.address .add .session
    (session.add command.address command.values)

/-- Applies the transform of a command to a document. -/
def applyTransform (document : OfflineDocument σ) (command : Command)
    (transform : Document.Transform) : Attempt σ CommandError Unit :=
  atStep command.address .add .document (document.apply transform)

/-- The transform of a command, which not every command has. -/
def transform (command : Command) :
    Except CommandError Document.Transform :=
  match command.offline with
  | some transform => .ok transform
  | none => .error (.unsupported command.kind command.address)

/-- Carries a command out on a document. -/
def applyOffline (document : OfflineDocument σ) (command : Command) :
    Attempt σ CommandError Unit := do
  match command.transform with
  | .ok transform => applyTransform document command transform
  | .error cause => throw cause

end Provision.Command
