import Provision.Value

/-!
Contract: free properties, which a resource passes on as a nested set.

Owns:
- the property with its name and its text;
- the nested set of a list of properties, each name once with its last text.

Does not own: which properties mean something.
-/

namespace Provision

/-- A named text. -/
structure Property where
  name : String
  value : String
deriving DecidableEq, Repr

/-- The nested set of a list of properties. -/
def Property.collect (properties : List Property) : ValueSet :=
  Members.ofPairs
    (properties.map fun property => (property.name, .text property.value))

end Provision
