import Provision.Address
import Provision.Document.Parameters
import Provision.Json.Pointer

/-!
Contract: the transforms that add a resource to a configuration document.

A document holds a resource at `doc[kind][name]…`, so the address of the node
above the resource gives the path of the subtree in which it is added.

Owns:
- the pointer of an address, and the address as a data document;
- the description of a transform, and the errors of one;
- the body of a transform, which changes the members of one subtree;
- `addResource`, the body that adds a resource.

Does not own: which transforms are known, or where a document is kept.
-/

namespace Provision

/-- The pointer to the node of an address. -/
def Address.pointer (address : Address) : String :=
  Json.Pointer.text address.tokens

/-- The address as a data document: one object for each segment. -/
def Address.toJson (address : Address) : Json :=
  .array (address.segments.map fun segment =>
    .object [(segment.kind, .string segment.name)])

namespace Document

/-- A change that is described but not made yet: which transform, under which
node, and with which parameters. -/
structure Transform where
  id : String
  locator : Address
  parameters : Parameters
deriving DecidableEq, Repr

/-- The parameter that names the new resource. -/
def nameParameter : String := "name"

/-- The parameter that allows an existing resource to be replaced. -/
def replaceParameter : String := "replace-existing"

/-- Why a transform cannot be applied. -/
inductive TransformError where
  | subtreeNotFound (locator : String)
  | alreadyExists (locator kind name : String)
  | missingParameter (name : String)
  | malformed (locator reason : String)
deriving DecidableEq, Repr

def TransformError.message : TransformError → String
  | .subtreeNotFound locator =>
      "Subtree '" ++ locator ++ "' not found in document"
  | .alreadyExists locator kind name =>
      "Resource '" ++ kind ++ "=" ++ name ++ "' already exists under '" ++
        locator ++ "'"
  | .missingParameter name => "Missing transform parameter '" ++ name ++ "'"
  | .malformed locator reason =>
      "Unexpected document structure at '" ++ locator ++ "': " ++ reason

/-- The attributes of the new resource: all parameters but the two that
direct the transform. -/
def attributes (parameters : Parameters) : List (String × Json) :=
  (parameters.filter fun parameter =>
      parameter.1 ≠ nameParameter && parameter.1 ≠ replaceParameter).map
    fun parameter => (parameter.1, .string parameter.2)

/-- A body does not know where its subtree stands, so that a resource is there
already is told with the locator by whoever applies the body. -/
def TransformError.locatedAt (locator : String) :
    TransformError → TransformError
  | .alreadyExists _ kind name => .alreadyExists locator kind name
  | cause => cause

/-- What a transform does with its parameters to the members of a subtree. -/
abbrev Body :=
  Members Json → Parameters → Except TransformError (Members Json)

/-- Adds a resource of a kind.  A container that is missing is made; one that
is there must be an object. -/
def addResource (kind : String) : Body := fun subtree parameters =>
  match Members.get? nameParameter parameters with
  | none => .error (.missingParameter nameParameter)
  | some name =>
      match (Members.get? kind subtree).getD (.object []) with
      | .object container =>
          if Members.contains name container &&
              !parameters.flag replaceParameter then
            .error (.alreadyExists "" kind name)
          else
            let resource := Json.object (attributes parameters)
            .ok (Members.put kind
              (.object (Members.put name resource container)) subtree)
      | _ => .error (.malformed kind "resource container is not an object")

end Document

end Provision
