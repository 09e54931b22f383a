import Provision.Value

/-!
Contract: the flat parameters of a document transform.

Parameters are texts.  A value set becomes parameters by writing each value in
its parameter form, so that a transform never sees a list or a nested set.

Owns:
- `set`, which ignores an absent value and keeps the place of a known name;
- `setValues`, one parameter for each attribute of a set;
- the reading of a parameter as a flag.

Does not own: which parameters a transform understands.
-/

namespace Provision

/-- Named texts in the order in which they were first set. -/
abbrev Parameters := Members String

namespace Parameters

def empty : Parameters := []

/-- Sets a parameter, unless there is no value. -/
def set (parameters : Parameters) (name : String) (value : Option String) :
    Parameters :=
  match value with
  | some text => Members.put name text parameters
  | none => parameters

/-- Sets one parameter for each attribute, in order. -/
def setValues (parameters : Parameters) (values : ValueSet) : Parameters :=
  values.foldl (fun known entry =>
    set known entry.1 (some entry.2.parameter)) parameters

/-- Whether a parameter is exactly the text for "yes". -/
def flag (parameters : Parameters) (name : String) : Bool :=
  Members.get? name parameters = some "true"

/-- One step in the making of parameters. -/
inductive Step where
  | set (name : String) (value : Option Scalar)
  | setValues (values : ValueSet)

def apply (parameters : Parameters) : Step → Parameters
  | .set name value => parameters.set name (value.map Scalar.shown)
  | .setValues values => parameters.setValues values

end Parameters

end Provision
