import Provision.Document.Registry

/-!
Contract: what a registry makes of a transform, one case at a time.

A transform is looked up by its name, and the part of the document that its
locator leads to is looked up next.  Whatever the body is, it is given the
members of that part, and nothing else of the document.

Owns:
- the part of a document that a transform works on;
- the outcome for an unknown transform, for a locator that leads nowhere or to
  no object, and for a body that is run;
- what a transform that succeeds has done;
- what a registry of additions binds.

Does not own: what a body makes of the members.
-/

namespace Provision

theorem Json.eq_object_of_members?
    {part : Json}
    {members : Members Json}
    (isObject : part.members? = some members) :
    part = .object members := by
  cases part with
  | object others => rw [← Option.some.inj isObject]
  | _ => cases isObject

namespace Document

/-- The part of a document that the locator of a transform leads to. -/
def Transform.part? (transform : Transform) (document : Json) : Option Json :=
  (Json.Pointer.tokens? transform.locator.pointer).bind fun path =>
    document.at? path

namespace Registry

/-- In a registry of additions, a name is bound to the addition of its kind. -/
theorem get?_ofBindings
    (bindings : List (String × String))
    (id : String) :
    Members.get? id (ofBindings bindings) =
      (Members.get? id (Members.ofPairs bindings)).map addResource := by
  have isBuilt : ofBindings bindings = Members.ofPairs
      (bindings.map fun binding => (binding.1, addResource binding.2)) := by
    rw [Members.ofPairs, List.foldl_map]
    rfl
  rw [isBuilt, ← Members.map_ofPairs addResource, Members.get?_map]

variable {registry : Registry} {document : Json} {transform : Transform}
  {body : Body}

theorem apply_of_unbound
    (isUnbound : Members.get? transform.id registry = none) :
    registry.apply document transform =
      .error (.unknownTransform transform.id) := by
  simp only [apply, isUnbound]

section Bound

variable (isBound : Members.get? transform.id registry = some body)
include isBound

theorem apply_of_nowhere
    (isNowhere : transform.part? document = none) :
    registry.apply document transform =
      .error (.transform transform.id
        (.subtreeNotFound transform.locator.pointer)) := by
  have isUnfound : ((Json.Pointer.tokens? transform.locator.pointer).bind
      fun path => (document.at? path).map fun part => (path, part)) =
        none := by
    simpa [Transform.part?, Option.bind_eq_none_iff] using isNowhere
  simp only [apply, isBound, isUnfound]

theorem apply_of_noObject
    {part : Json}
    (isPart : transform.part? document = some part)
    (isNoObject : part.members? = none) :
    registry.apply document transform =
      .error (.transform transform.id
        (.malformed transform.locator.pointer
          "subtree is not an object")) := by
  obtain ⟨path, isPath, located⟩ := Option.bind_eq_some_iff.mp isPart
  simp only [apply, isBound, isPath, located, Option.bind_some,
    Option.map_some]
  cases part with
  | object members => cases isNoObject
  | _ => rfl

/-- The body decides what becomes of the members at the end of the path. -/
theorem apply_of_located
    {path : List String}
    {subtree : Members Json}
    (isPath : Json.Pointer.tokens? transform.locator.pointer = some path)
    (located : document.at? path = some (.object subtree)) :
    registry.apply document transform =
      match body subtree transform.parameters with
      | .error cause =>
          .error (.transform transform.id
            (cause.locatedAt transform.locator.pointer))
      | .ok changed => .ok (document.replaceAt path (.object changed)) := by
  cases isDone : body subtree transform.parameters <;>
    simp only [apply, isBound, isPath, located, Option.bind_some,
      Option.map_some, isDone]

/-- A transform that succeeds has changed the members at the end of its
path. -/
theorem exists_of_apply_eq_ok
    {after : Json}
    (applied : registry.apply document transform = .ok after) :
    ∃ path subtree changed,
      Json.Pointer.tokens? transform.locator.pointer = some path ∧
      document.at? path = some (.object subtree) ∧
      body subtree transform.parameters = .ok changed ∧
      after = document.replaceAt path (.object changed) := by
  cases isPart : transform.part? document with
  | none =>
      rw [apply_of_nowhere isBound isPart] at applied
      cases applied
  | some part =>
      cases isObject : part.members? with
      | none =>
          rw [apply_of_noObject isBound isPart isObject] at applied
          cases applied
      | some subtree =>
          obtain rfl := Json.eq_object_of_members? isObject
          obtain ⟨path, isPath, located⟩ := Option.bind_eq_some_iff.mp isPart
          rw [apply_of_located isBound isPath located] at applied
          cases isDone : body subtree transform.parameters with
          | error cause =>
              rw [isDone] at applied
              cases applied
          | ok changed =>
              rw [isDone] at applied
              exact ⟨path, subtree, changed, isPath, located, isDone,
                (Except.ok.inj applied).symm⟩

end Bound

end Registry

end Document

end Provision
