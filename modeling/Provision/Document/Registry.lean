import Provision.Document.Transform
import Provision.Text.Quoted

/-!
Contract: the registry of known transforms.

Owns:
- the bindings of transform names to bodies;
- `apply`, which gives the whole new document or leaves no trace;
- the registries whose transforms add resources;
- the text that lists the known names.

Does not own: what a body does to its subtree.
-/

namespace Provision.Document

/-- Why a transform of a registry is refused. -/
inductive Refusal where
  | unknownTransform (id : String)
  | transform (id : String) (cause : TransformError)
deriving DecidableEq, Repr

namespace Refusal

def message : Refusal → String
  | .unknownTransform id => "Transform '" ++ id ++ "' not found"
  | .transform id cause =>
      "Transform '" ++ id ++ "' failed: " ++ cause.message

def isDuplicate : Refusal → Bool
  | .transform _ (.alreadyExists _ _ _) => true
  | _ => false

end Refusal

/-- The known transforms: each name with the body that is run for it. -/
abbrev Registry := Members Body

namespace Registry

/-- Binds a transform name to a body.  A name that is bound already gets the
new body. -/
def register (registry : Registry) (id : String) (body : Body) : Registry :=
  Members.put id body registry

/-- The registry in which each name is bound to the addition of resources of
its kind; a later binding of a name wins. -/
def ofBindings (bindings : List (String × String)) : Registry :=
  bindings.foldl
    (fun registry binding =>
      registry.register binding.1 (addResource binding.2)) []

/-- Applies a transform.  The name of the transform is looked up first, then
its subtree. -/
def apply (registry : Registry) (document : Json) (transform : Transform) :
    Except Refusal Json :=
  match Members.get? transform.id registry with
  | none => .error (.unknownTransform transform.id)
  | some body =>
      let locator := transform.locator.pointer
      let fail := fun cause => Except.error (.transform transform.id cause)
      match (Json.Pointer.tokens? locator).bind fun path =>
          (document.at? path).map fun part => (path, part) with
      | none => fail (.subtreeNotFound locator)
      | some (path, .object subtree) =>
          match body subtree transform.parameters with
          | .error cause => fail (cause.locatedAt locator)
          | .ok changed => .ok (document.replaceAt path (.object changed))
      | some _ => fail (.malformed locator "subtree is not an object")

/-- The sorted names of the known transforms. -/
def shown (registry : Registry) : String :=
  let ids := (Members.names registry).mergeSort fun left right => left ≤ right
  "TransformRegistry \x7b ids: [" ++ Text.glue ", " (ids.map Text.quoted) ++
    "] \x7d"

end Registry

end Provision.Document
