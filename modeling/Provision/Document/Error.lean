import Provision.Document.Registry

/-!
Contract: why a change to a kept document fails.

Owns:
- the refusals of the registry and the failures of files, in one type;
- the wording, and the one error that means "it is there already".

Does not own: when a file cannot be read or written.

Two failures have no counterpart here.
- A document that cannot be serialized: members are named by texts and all
  numbers are finite, so that every tree has a text (`Json.prettyText`).
- A task that is aborted: a change runs in a task of its own, which is lost only
  when a body panics or the program is shut down.  Bodies are total functions,
  and a program that is stopped answers nothing.
-/

namespace Provision

/-- Why a change to a kept document fails. -/
inductive DocumentError where
  | refused (cause : Document.Refusal)
  | read (path detail : String)
  | parse (path : String)
  | write (path detail : String)
deriving DecidableEq, Repr

namespace DocumentError

def message : DocumentError → String
  | .refused cause => cause.message
  | .read path detail =>
      "Failed to read document '" ++ path ++ "': " ++ detail
  | .parse path => "Failed to parse document '" ++ path ++ "'"
  | .write path detail =>
      "Failed to write document '" ++ path ++ "': " ++ detail

def isDuplicate : DocumentError → Bool
  | .refused cause => cause.isDuplicate
  | _ => false

end DocumentError

end Provision
