import Provision.Resource.CredentialReference
import Provision.Resource.Kind

/-!
Contract: the faults that keep settings from making a resource.

Owns:
- the causes and their wording;
- the three checks that the resources share: a name, a required text, and two
  settings that exclude each other.

Does not own: which checks a kind of resource makes, and in which order.
-/

namespace Provision

/-- Why settings make no resource. -/
inductive BuildError where
  | missingName (kind : ResourceKind)
  | missing (field : String)
  | empty (field : String)
  | missingStart (field start : String)
  | conflict (first second : String)
  | credential (cause : CredentialReference.Fault)
deriving DecidableEq, Repr

namespace BuildError

def message : BuildError → String
  | .missingName kind => "Name of the " ++ kind.text ++ " must be specified"
  | .missing field => "'" ++ field ++ "' must be specified"
  | .empty field => "'" ++ field ++ "' must not be empty"
  | .missingStart field start =>
      "'" ++ field ++ "' must start with '" ++ start ++ "'"
  | .conflict first second =>
      "'" ++ first ++ "' cannot be combined with '" ++ second ++ "'"
  | .credential cause => "Invalid credential reference: " ++ cause.reason

end BuildError

/-- The name of a resource, which must be given. -/
def requireName (kind : ResourceKind) (name : String) :
    Except BuildError ResourceName :=
  match ResourceName.ofText? name with
  | some given => .ok given
  | none => .error (.missingName kind)

/-- A text that must be given and must not be empty. -/
def requireText (field : String) : Option String → Except BuildError String
  | none => .error (.missing field)
  | some text => if text = "" then .error (.empty field) else .ok text

def require {α : Type} (field : String) : Option α → Except BuildError α
  | none => .error (.missing field)
  | some setting => .ok setting

/-- Two settings of which at most one may be selected. -/
def exclude (first : String) (firstSelected : Bool) (second : String)
    (secondSelected : Bool) : Except BuildError Unit :=
  if firstSelected && secondSelected then .error (.conflict first second)
  else .ok ()

end Provision
