import Provision.Proofs.Command.Agreement

/-!
Contract: the exact effect of one transform on a document.

The document and the transform are arbitrary: a locator may lead anywhere, and
any parameters may be given.  The registry may know whatever it likes, as long
as it does not bind the transform to anything but the addition of resources.

Owns:
- what can be wrong with the addition of a resource to a subtree, and with a
  transform, in the order in which it is found;
- the additions and the transforms that are admitted;
- the change that an admitted transform makes, as a change at one path.

Does not own: the transforms of resources, and documents in files.
-/

namespace Provision

namespace Document

/-! ## Adding to a subtree -/

/-- What can be wrong with an addition.  Each fault is found only where there
is none of those above it. -/
inductive AdditionFault
    (locator kind : String)
    (parameters : Parameters)
    (subtree : Members Json) :
    TransformError → Prop
  | nameless
      (isNameless : Members.get? nameParameter parameters = none) :
      AdditionFault locator kind parameters subtree
        (.missingParameter nameParameter)
  | noContainer {name : String} {part : Json}
      (isNamed : Members.get? nameParameter parameters = some name)
      (isThere : Members.get? kind subtree = some part)
      (isNoObject : part.members? = none) :
      AdditionFault locator kind parameters subtree
        (.malformed kind "resource container is not an object")
  | taken {name : String} {container : Members Json}
      (isNamed : Members.get? nameParameter parameters = some name)
      (isThere : Members.get? kind subtree = some (.object container))
      (isTaken : name ∈ Members.names container)
      (mayNotReplace :
        Members.get? replaceParameter parameters ≠ some "true") :
      AdditionFault locator kind parameters subtree
        (.alreadyExists locator kind name)

/-- An addition that nothing is wrong with: the new resource has a name, and
what is there under the kind is an object in which the name is free or may be
replaced. -/
structure MayAdd
    (kind name : String)
    (parameters : Parameters)
    (subtree : Members Json) :
    Prop where
  isNamed : Members.get? nameParameter parameters = some name
  hasRoom : ∀ part, Members.get? kind subtree = some part →
    ∃ container, part = .object container ∧
      (name ∈ Members.names container →
        Members.get? replaceParameter parameters = some "true")

section Addition

variable {locator kind name : String} {parameters : Parameters}
  {subtree : Members Json}

/-- A fault is told by the body, which leaves the locator open. -/
theorem AdditionFault.exists_addResource_eq
    {cause : TransformError}
    (fault : AdditionFault locator kind parameters subtree cause) :
    ∃ told,
      addResource kind subtree parameters = .error told ∧
      told.locatedAt locator = cause := by
  cases fault with
  | nameless isNameless =>
      exact ⟨.missingParameter nameParameter,
        by simp [addResource, isNameless], rfl⟩
  | @noContainer _ part isNamed isThere isNoObject =>
      refine ⟨.malformed kind "resource container is not an object", ?_, rfl⟩
      simp only [addResource, isNamed, isThere, Option.getD_some]
      cases part with
      | object members => cases isNoObject
      | _ => rfl
  | @taken name container isNamed isThere isTaken mayNotReplace =>
      have holds : container? kind subtree = some container := by
        rw [container?_eq_some_iff, isThere, Option.getD_some]
      have contains := (Members.contains_eq_true_iff name container).mpr isTaken
      refine ⟨.alreadyExists "" kind name, ?_, rfl⟩
      rw [Document.addResource_eq kind parameters isNamed holds, if_pos]
      simp [contains, Parameters.flag, mayNotReplace]

/-- A name that is taken may be replaced. -/
theorem MayAdd.flag_of_mem
    (mayAdd : MayAdd kind name parameters subtree)
    {container : Members Json}
    (holds : container? kind subtree = some container)
    (isTaken : name ∈ Members.names container) :
    parameters.flag replaceParameter = true := by
  obtain ⟨held, isHeld, mayReplace⟩ :=
    mayAdd.hasRoom _ (get?_of_mem_container holds isTaken)
  cases isHeld
  exact decide_eq_true (mayReplace isTaken)

/-- One more member in a container is a change at its place. -/
theorem changedAt_inserted
    {container : Members Json}
    (holds : container? kind subtree = some container)
    (name : String)
    (record : Json) :
    Json.ChangedAt record [kind, name] (.object subtree)
      (.object (inserted kind name record container subtree)) := by
  rw [container?_eq_some_iff] at holds
  refine Json.ChangedAt.object_iff.mpr ⟨_, rfl, ?_⟩
  rw [holds]
  exact Json.ChangedAt.object_iff.mpr ⟨record, rfl, .here _⟩

/-- An addition that is admitted is a change at the place of the new
resource. -/
theorem MayAdd.exists_addResource_eq
    (mayAdd : MayAdd kind name parameters subtree) :
    ∃ changed,
      addResource kind subtree parameters = .ok changed ∧
      Json.ChangedAt (.object (attributes parameters)) [kind, name]
        (.object subtree) (.object changed) := by
  cases holds : container? kind subtree with
  | none =>
      obtain ⟨part, isThere, isNoObject⟩ := container?_eq_none_iff.mp holds
      obtain ⟨container, rfl, -⟩ := mayAdd.hasRoom part isThere
      cases isNoObject
  | some container =>
      have isAllowed : ¬ (Members.contains name container &&
          !parameters.flag replaceParameter) = true := by
        intro isRefused
        rw [Bool.and_eq_true, Members.contains_eq_true_iff] at isRefused
        simp [mayAdd.flag_of_mem holds isRefused.1] at isRefused
      refine ⟨_, ?_, changedAt_inserted holds name _⟩
      rw [addResource_eq kind parameters mayAdd.isNamed holds,
        if_neg isAllowed]

/-- Every addition is faulty or admitted. -/
theorem fault_or_mayAdd
    (locator kind : String)
    (parameters : Parameters)
    (subtree : Members Json) :
    (∃ cause, AdditionFault locator kind parameters subtree cause) ∨
      ∃ name, MayAdd kind name parameters subtree := by
  cases isName : Members.get? nameParameter parameters with
  | none => exact .inl ⟨_, .nameless isName⟩
  | some name =>
      cases held : Members.get? kind subtree with
      | none => exact .inr ⟨name, isName, by simp [held]⟩
      | some part =>
          cases isObject : part.members? with
          | none => exact .inl ⟨_, .noContainer isName held isObject⟩
          | some container =>
              obtain rfl := Json.eq_object_of_members? isObject
              by_cases isTaken : name ∈ Members.names container ∧
                  Members.get? replaceParameter parameters ≠ some "true"
              · exact .inl ⟨_, .taken isName held isTaken.1 isTaken.2⟩
              · refine .inr ⟨name, isName, fun part isPart => ?_⟩
                obtain rfl := Option.some.inj (held.symm.trans isPart)
                refine ⟨container, rfl, fun isThere => ?_⟩
                exact not_not.mp fun mayNot => isTaken ⟨isThere, mayNot⟩

end Addition

/-! ## Transforms -/

/-- The transform adds resources of some kind, if it is known. -/
def AddsResources (registry : Registry) (transform : Transform) : Prop :=
  ∀ body, Members.get? transform.id registry = some body →
    ∃ kind, body = addResource kind

/-- In a registry of additions, every transform adds resources. -/
theorem addsResources_ofBindings
    (bindings : List (String × String))
    (transform : Transform) :
    AddsResources (Registry.ofBindings bindings) transform := by
  intro body isBound
  rw [Registry.get?_ofBindings, Option.map_eq_some_iff] at isBound
  obtain ⟨kind, -, isBody⟩ := isBound
  exact ⟨kind, isBody.symm⟩

/-- Why a transform is refused.  Each reason is given only where there is none
of those above it. -/
inductive Refuses
    (registry : Registry)
    (document : Json)
    (transform : Transform) :
    Refusal → Prop
  | unknown
      (isUnbound : Members.get? transform.id registry = none) :
      Refuses registry document transform (.unknownTransform transform.id)
  | nowhere {body : Body}
      (isBound : Members.get? transform.id registry = some body)
      (isNowhere : transform.part? document = none) :
      Refuses registry document transform
        (.transform transform.id
          (.subtreeNotFound transform.locator.pointer))
  | noObject {body : Body} {part : Json}
      (isBound : Members.get? transform.id registry = some body)
      (isPart : transform.part? document = some part)
      (isNoObject : part.members? = none) :
      Refuses registry document transform
        (.transform transform.id
          (.malformed transform.locator.pointer "subtree is not an object"))
  | addition {kind : String} {subtree : Members Json} {cause : TransformError}
      (isBound : Members.get? transform.id registry = some (addResource kind))
      (isPart : transform.part? document = some (.object subtree))
      (fault : AdditionFault transform.locator.pointer kind
        transform.parameters subtree cause) :
      Refuses registry document transform (.transform transform.id cause)

/-- A transform that nothing is wrong with: it is known, its locator leads
along the path to an object, and to that the resource may be added. -/
structure Admits
    (registry : Registry)
    (document : Json)
    (transform : Transform)
    (path : List String)
    (kind name : String) :
    Prop where
  isBound : Members.get? transform.id registry = some (addResource kind)
  isPath : Json.Pointer.tokens? transform.locator.pointer = some path
  located : ∃ subtree, document.at? path = some (.object subtree) ∧
    MayAdd kind name transform.parameters subtree

variable {registry : Registry} {document : Json} {transform : Transform}

theorem Refuses.apply_eq
    {refusal : Refusal}
    (refuses : Refuses registry document transform refusal) :
    registry.apply document transform = .error refusal := by
  cases refuses with
  | unknown isUnbound => exact Registry.apply_of_unbound isUnbound
  | nowhere isBound isNowhere =>
      exact Registry.apply_of_nowhere isBound isNowhere
  | noObject isBound isPart isNoObject =>
      exact Registry.apply_of_noObject isBound isPart isNoObject
  | addition isBound isPart fault =>
      obtain ⟨path, isPath, located⟩ := Option.bind_eq_some_iff.mp isPart
      obtain ⟨told, isTold, rfl⟩ := fault.exists_addResource_eq
      rw [Registry.apply_of_located isBound isPath located, isTold]

theorem Admits.exists_apply_eq
    {path : List String}
    {kind name : String}
    (admits : Admits registry document transform path kind name) :
    ∃ changed,
      registry.apply document transform = .ok changed ∧
      Json.ChangedAt (.object (attributes transform.parameters))
        (path ++ [kind, name]) document changed := by
  obtain ⟨subtree, located, mayAdd⟩ := admits.located
  obtain ⟨changed, isAdded, changes⟩ := mayAdd.exists_addResource_eq
  refine ⟨_, ?_, changes.replaceAt located⟩
  rw [Registry.apply_of_located admits.isBound admits.isPath located, isAdded]

theorem refuses_or_admits
    (document : Json)
    (adds : AddsResources registry transform) :
    (∃ refusal, Refuses registry document transform refusal) ∨
      ∃ path kind name, Admits registry document transform path kind name := by
  cases isBound : Members.get? transform.id registry with
  | none => exact .inl ⟨_, .unknown isBound⟩
  | some body =>
      obtain ⟨kind, rfl⟩ := adds body isBound
      cases isPart : transform.part? document with
      | none => exact .inl ⟨_, .nowhere isBound isPart⟩
      | some part =>
          cases isObject : part.members? with
          | none => exact .inl ⟨_, .noObject isBound isPart isObject⟩
          | some subtree =>
              obtain rfl := Json.eq_object_of_members? isObject
              rcases fault_or_mayAdd transform.locator.pointer kind
                  transform.parameters subtree with
                ⟨cause, fault⟩ | ⟨name, mayAdd⟩
              · exact .inl ⟨_, .addition isBound isPart fault⟩
              · obtain ⟨path, isPath, located⟩ :=
                  Option.bind_eq_some_iff.mp isPart
                exact .inr ⟨path, kind, name, isBound, isPath, subtree,
                  located, mayAdd⟩

theorem apply_eq_error_iff
    (adds : AddsResources registry transform)
    {refusal : Refusal} :
    registry.apply document transform = .error refusal ↔
      Refuses registry document transform refusal := by
  refine ⟨fun isRefused => ?_, Refuses.apply_eq⟩
  rcases refuses_or_admits document adds with
    ⟨other, refuses⟩ | ⟨path, kind, name, admits⟩
  · have same := refuses.apply_eq.symm.trans isRefused
    cases same
    exact refuses
  · obtain ⟨changed, isChanged, -⟩ := admits.exists_apply_eq
    cases isChanged.symm.trans isRefused

theorem apply_eq_ok_iff
    (adds : AddsResources registry transform)
    {changed : Json} :
    registry.apply document transform = .ok changed ↔
      ∃ path kind name,
        Admits registry document transform path kind name ∧
        Json.ChangedAt (.object (attributes transform.parameters))
          (path ++ [kind, name]) document changed := by
  constructor
  · intro isChanged
    rcases refuses_or_admits document adds with
      ⟨refusal, refuses⟩ | ⟨path, kind, name, admits⟩
    · cases refuses.apply_eq.symm.trans isChanged
    · obtain ⟨other, isOther, changes⟩ := admits.exists_apply_eq
      cases isChanged.symm.trans isOther
      exact ⟨path, kind, name, admits, changes⟩
  · rintro ⟨path, kind, name, admits, changes⟩
    obtain ⟨other, isOther, changesToo⟩ := admits.exists_apply_eq
    rw [isOther, changes.unique changesToo]

/-- **The exact effect of a transform.**

The transform adds resources of some kind, if it is known.  It is refused
exactly where it is unknown, its locator leads nowhere or to something that is
no object, it names no resource, the container is there and no object, or the
name is taken and may not be replaced; the first of these is the reason that is
given.  Otherwise the new document is the old one with the record of the
parameters at the place of the resource: there the record is found, beside it
everything that was there.  A document in memory becomes the new document, and
stays what it was where the transform is refused. -/
theorem effect_of_transform
    (registry : Registry)
    (document : Json)
    (transform : Transform)
    (adds : AddsResources registry transform) :
    (∀ refusal,
      registry.apply document transform = .error refusal ↔
        Refuses registry document transform refusal) ∧
    (∀ changed,
      registry.apply document transform = .ok changed ↔
        ∃ path kind name,
          Admits registry document transform path kind name ∧
          Json.ChangedAt (.object (attributes transform.parameters))
            (path ++ [kind, name]) document changed) ∧
    (∀ changed path kind name,
      registry.apply document transform = .ok changed →
      Admits registry document transform path kind name →
        changed.at? (path ++ [kind, name]) =
          some (.object (attributes transform.parameters)) ∧
        ∀ other, ¬ other <+: path ++ [kind, name] →
          ¬ path ++ [kind, name] <+: other →
          changed.at? other = document.at? other) ∧
    ∀ tried,
      (MemoryDocument.apply registry transform).runFrom
          { document, tried } =
        match registry.apply document transform with
        | .ok changed =>
            (.ok (), { document := changed, tried := tried ++ [transform] })
        | .error refusal =>
            (.error (.refused refusal),
              { document, tried := tried ++ [transform] }) := by
  refine ⟨fun refusal => apply_eq_error_iff adds,
    fun changed => apply_eq_ok_iff adds,
    ?_, fun tried => MemoryDocument.runFrom_apply registry transform _⟩
  intro changed path kind name isChanged admits
  obtain ⟨other, isOther, changes⟩ := admits.exists_apply_eq
  cases isChanged.symm.trans isOther
  exact ⟨changes.at?_eq, fun beside isAbove isBelow =>
    changes.at?_eq_of_beside isAbove isBelow⟩

/-- A document with a subsystem that has nothing but a version. -/
def versionedDocument : Json :=
  .object [("subsystem", .object [("elytron", .object [("version", .null)])])]

/-- The addition of a realm under the subsystem. -/
def realmTransform : Transform where
  id := "add-realm"
  locator := ⟨[], ⟨"subsystem", "elytron"⟩⟩
  parameters :=
    [("name", "ldap"), ("path", "users"), ("replace-existing", "no")]

/-- A registry that knows how to add realms. -/
def realmRegistry : Registry :=
  Registry.ofBindings [("add-realm", "realm")]

theorem effect_of_transform_sample :
    ∃ changed,
      realmRegistry.apply versionedDocument realmTransform = .ok changed ∧
      changed.at? ["subsystem", "elytron", "realm", "ldap"] =
        some (.object [("path", .string "users")]) ∧
      changed.at? ["subsystem", "elytron", "version"] = some .null := by
  have admits : Admits realmRegistry versionedDocument realmTransform
      ["subsystem", "elytron"] "realm" "ldap" :=
    ⟨rfl, by decide, [("version", .null)], by decide, by decide,
      fun part isPart => by cases isPart⟩
  have effect := effect_of_transform realmRegistry versionedDocument
    realmTransform (addsResources_ofBindings _ _)
  obtain ⟨changed, isChanged, -⟩ := admits.exists_apply_eq
  obtain ⟨isThere, isKept⟩ := effect.2.2.1 changed _ _ _ isChanged admits
  refine ⟨changed, isChanged, isThere, ?_⟩
  rw [isKept ["subsystem", "elytron", "version"] (by decide) (by decide)]
  decide

end Document

end Provision
