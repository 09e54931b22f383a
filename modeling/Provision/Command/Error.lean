import Provision.Document.Error
import Provision.Session.Error

/-!
Contract: why a command or a batch fails.

Owns:
- the steps of a command and the error in one of them;
- the error of a batch, which tells the position of the command;
- the wording of both.

Does not own: the errors of sessions and documents.
-/

namespace Provision

/-- The steps in which a command is carried out. -/
inductive CommandStep where
  | remove
  | reload
  | add
deriving DecidableEq, Repr

def CommandStep.text : CommandStep → String
  | .remove => "remove"
  | .reload => "reload"
  | .add => "add"

/-- Why a step failed. -/
inductive BackendError where
  | session (cause : SessionError)
  | document (cause : DocumentError)
deriving DecidableEq, Repr

namespace BackendError

def message : BackendError → String
  | .session cause => cause.message
  | .document cause => cause.message

def isDuplicate : BackendError → Bool
  | .session cause => cause.isDuplicate
  | .document cause => cause.isDuplicate

end BackendError

/-- Why a command was not carried out: it has no offline form, or a step
failed. -/
inductive CommandError where
  | unsupported (kind : String) (address : Address)
  | failed (address : Address) (step : CommandStep) (cause : BackendError)
deriving DecidableEq, Repr

namespace CommandError

def message : CommandError → String
  | .unsupported kind address =>
      "Command '" ++ kind ++ "' for " ++ address.text ++
        " cannot be applied to an offline document"
  | .failed address step cause =>
      "Step '" ++ step.text ++ "' failed for " ++ address.text ++ ": " ++
        cause.message

def isDuplicate : CommandError → Bool
  | .unsupported _ _ => false
  | .failed _ _ cause => cause.isDuplicate

/-- The step that failed, if one was begun. -/
def step? : CommandError → Option CommandStep
  | .unsupported _ _ => none
  | .failed _ step _ => some step

end CommandError

/-- The failure of a command in a batch. -/
structure BatchError where
  index : Nat
  kind : String
  cause : CommandError
deriving DecidableEq, Repr

def BatchError.message (error : BatchError) : String :=
  "Command #" ++ String.ofList (Text.decimal error.index) ++ " (" ++
    error.kind ++ ") failed: " ++ error.cause.message

end Provision
