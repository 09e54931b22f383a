import Provision.Command
import Provision.Proofs.Document.Registry
import Provision.Proofs.Json.Change

/-!
Contract: what the offline form of a resource does to a document.

Owns:
- the law of look-up and update along one path;
- the value sets that a transform can carry without loss;
- the transform of a resource, and the member that it puts in place;
- the containers of a subtree.

Does not own: transforms of other origin, and documents in files.
-/

namespace Provision

/-! ## Look-up and update along a path -/

namespace Json

/-- An update one token further is seen there. -/
theorem child?_replaceChild {token : String} {document below : Json}
    (found : document.child? token = some below) (part : Json) :
    (document.replaceChild token part).child? token = some part := by
  cases document with
  | object members =>
      have isThere : Members.contains token members = true := by
        simp only [child?] at found
        simp [Members.contains, found]
      simp [replaceChild, isThere, child?, Members.get?_put]
  | array items =>
      simp only [child?, Option.bind_eq_some_iff] at found
      obtain ⟨place, isPlace, found⟩ := found
      have isInside : place < items.length :=
        (List.getElem?_eq_some_iff.mp found).1
      simp [replaceChild, child?, isPlace, isInside]
  | _ => simp [child?] at found

/-- An update along a path is seen at its end. -/
theorem at?_replaceAt {path : List String} {document old : Json}
    (found : document.at? path = some old) (part : Json) :
    (document.replaceAt path part).at? path = some part := by
  have changes :
      ChangedAt part (path ++ []) document (document.replaceAt path part) :=
    .replaceAt found (.here old)
  rw [List.append_nil] at changes
  exact changes.at?_eq

end Json

/-! ## Value sets as parameters -/

namespace ValueSet

/-- A transform can carry the values: their names are distinct, and none is
one of the two that direct a transform. -/
structure Carried (values : ValueSet) : Prop where
  distinct : Members.Distinct values
  free : ∀ name ∈ Members.names values,
    name ≠ Document.nameParameter ∧ name ≠ Document.replaceParameter

namespace Carried

variable {values : ValueSet} {name : String}

theorem empty : Carried ValueSet.empty :=
  ⟨List.nodup_nil, by simp [ValueSet.empty, Members.names]⟩

theorem set (carried : Carried values)
    (isFree : name ≠ Document.nameParameter ∧
      name ≠ Document.replaceParameter) (value : Value) :
    Carried (values.set name value) := by
  refine ⟨carried.distinct.put name value, fun other isName => ?_⟩
  rw [ValueSet.set, Members.names_put] at isName
  split at isName
  · exact carried.free other isName
  · rcases List.mem_append.mp isName with isOld | isNew
    · exact carried.free other isOld
    · rw [List.mem_singleton.mp isNew]
      exact isFree

theorem setScalar (carried : Carried values)
    (isFree : name ≠ Document.nameParameter ∧
      name ≠ Document.replaceParameter) (value : Option Scalar) :
    Carried (values.setScalar name value) := by
  unfold ValueSet.setScalar
  cases value with
  | none => exact carried
  | some scalar =>
      dsimp only
      split
      · exact carried
      · exact carried.set isFree _

theorem setList (carried : Carried values)
    (isFree : name ≠ Document.nameParameter ∧
      name ≠ Document.replaceParameter) (items : List Value) :
    Carried (values.setList name items) := by
  unfold ValueSet.setList
  split
  · exact carried
  · exact carried.set isFree _

end Carried

end ValueSet

/-- What a document keeps of a node: its attributes in order, each as the text
of its parameter. -/
def ValueSet.record (values : ValueSet) : Json :=
  .object (values.map fun member =>
    (member.1, Json.string member.2.parameter))

/-! ## The transform of a resource -/

namespace Document

/-- The parameters that the addition of a node is described with. -/
def additionParameters (name : String) (values : ValueSet) (replaces : Bool) :
    Parameters :=
  ((Parameters.empty.set nameParameter (some name)).setValues values).set
    replaceParameter (some (Scalar.boolean replaces).shown)

/-- The name comes first, then each attribute, and the flag comes last. -/
theorem additionParameters_eq {values : ValueSet} (carried : values.Carried)
    (name : String) (replaces : Bool) :
    additionParameters name values replaces =
      (nameParameter, name) ::
        (values.map fun member =>
          (member.1, member.2.parameter)) ++
        [(replaceParameter, (Scalar.boolean replaces).shown)] := by
  let pairs := values.map fun member =>
    (member.1, member.2.parameter)
  have names : Members.names pairs = Members.names values := by
    simp [pairs, Members.names]
  have isFresh : Members.Distinct ([(nameParameter, name)] ++ pairs) := by
    rw [Members.Distinct, Members.names, List.map_append, ← Members.names,
      ← Members.names, names]
    refine List.nodup_cons.mpr ⟨fun isName => ?_, carried.distinct⟩
    exact (carried.free _ isName).1 rfl
  have folded :
      Parameters.setValues (Parameters.empty.set nameParameter (some name))
        values = [(nameParameter, name)] ++ pairs := by
    rw [← Members.foldl_put_of_distinct isFresh, List.foldl_map]
    rfl
  rw [additionParameters, folded, Parameters.set]
  refine Members.put_of_not_mem _ fun isName => ?_
  rw [Members.names, List.map_append, ← Members.names, ← Members.names, names]
    at isName
  rcases List.mem_append.mp isName with isFirst | isName
  · simp [Members.names, nameParameter, replaceParameter] at isFirst
  · exact (carried.free _ isName).2 rfl

theorem get?_additionParameters {values : ValueSet}
    (carried : values.Carried) (name : String) (replaces : Bool) :
    Members.get? nameParameter (additionParameters name values replaces) =
      some name := by
  simp [additionParameters_eq carried, Members.get?]

theorem flag_additionParameters (name : String) (values : ValueSet)
    (replaces : Bool) :
    (additionParameters name values replaces).flag replaceParameter =
      replaces := by
  cases replaces <;>
    simp [additionParameters, Parameters.set, Parameters.flag,
      Members.get?_put, Scalar.shown]

/-- The attributes that a transform puts in place are those of the node. -/
theorem attributes_additionParameters {values : ValueSet}
    (carried : values.Carried) (name : String) (replaces : Bool) :
    Json.object (attributes (additionParameters name values replaces)) =
      values.record := by
  have allKept : ∀ member ∈ values,
      member.1 ≠ nameParameter ∧ member.1 ≠ replaceParameter :=
    fun member isMember =>
      carried.free _ (List.mem_map_of_mem (f := Prod.fst) isMember)
  have isKept : ∀ parameter ∈ values.map fun member =>
        (member.1, member.2.parameter),
      (parameter.1 ≠ nameParameter && parameter.1 ≠ replaceParameter) =
        true := by
    intro parameter isParameter
    obtain ⟨member, isMember, rfl⟩ := List.mem_map.mp isParameter
    simpa using allKept member isMember
  rw [additionParameters_eq carried, attributes, ValueSet.record,
    List.cons_append, List.filter_cons_of_neg (by simp), List.filter_append,
    List.filter_eq_self.mpr isKept]
  simp

end Document

/-- The transform that adds a resource under its subsystem. -/
def Resource.transform (resource : Resource) (id : String) :
    Document.Transform where
  id
  locator := ⟨[], subsystemSegment⟩
  parameters := Document.additionParameters resource.name.text
    resource.values resource.replaceExisting

/-- A resource has an offline form where its kind has a transform. -/
theorem Resource.offline_command (resource : Resource) :
    resource.command.offline =
      resource.kind.transformId?.map resource.transform := by
  cases isKind : resource.kind.transformId? with
  | none => simp [command, isKind]
  | some id =>
      simp only [command, isKind, Option.bind_some, Option.map_some]
      rfl

/-- The registry binds the transform of a kind to the addition of that
kind. -/
theorem get?_offlineTransforms {kind : ResourceKind} {id : String}
    (isId : kind.transformId? = some id) :
    Members.get? id offlineTransforms =
      some (Document.addResource kind.text) := by
  rw [offlineTransforms, Document.Registry.get?_ofBindings]
  cases kind <;> simp only [ResourceKind.transformId?, reduceCtorEq,
    Option.some.injEq] at isId <;> subst isId <;> rfl

/-- The attributes of a resource with an offline form can be carried. -/
theorem Resource.carried_values {resource : Resource} {id : String}
    (isId : resource.kind.transformId? = some id) :
    resource.values.Carried := by
  cases resource with
  | clientSslContext context =>
      exact ((((((((ValueSet.Carried.empty.setScalar (by decide) _).setScalar
        (by decide) _).setScalar (by decide) _).setScalar (by decide) _).setScalar
        (by decide) _).setList (by decide) _).setScalar (by decide) _).setScalar
        (by decide) _)
  | x500AttributePrincipalDecoder decoder =>
      exact ((((((ValueSet.Carried.empty.set (by decide) _).setScalar
        (by decide) _).setScalar (by decide) _).setScalar (by decide) _).setScalar
        (by decide) _).setList (by decide) _)
  | _ => simp [kind, ResourceKind.transformId?] at isId

namespace Document

/-- The tokens of the node under which all resources stand. -/
def subsystemPath : List String := ["subsystem", "elytron"]

theorem tokens?_subsystemPath :
    Json.Pointer.tokens? (Address.pointer ⟨[], subsystemSegment⟩) =
      some subsystemPath := by
  decide

/-- The members of the container of a kind; a container that is missing is
empty, and nothing but an object is one. -/
def container? (kind : String) (subtree : Members Json) :
    Option (Members Json) :=
  match (Members.get? kind subtree).getD (.object []) with
  | .object container => some container
  | _ => none

theorem container?_eq_none_iff
    {kind : String}
    {subtree : Members Json} :
    container? kind subtree = none ↔
      ∃ part, Members.get? kind subtree = some part ∧
        part.members? = none := by
  unfold container?
  cases Members.get? kind subtree with
  | none => simp
  | some part => cases part <;> simp [Json.members?]

theorem container?_eq_some_iff
    {kind : String}
    {subtree container : Members Json} :
    container? kind subtree = some container ↔
      (Members.get? kind subtree).getD (.object []) = .object container := by
  unfold container?
  cases (Members.get? kind subtree).getD (.object []) <;> simp

/-- A container with a member is there. -/
theorem get?_of_mem_container
    {kind name : String}
    {subtree container : Members Json}
    (holds : container? kind subtree = some container)
    (isMember : name ∈ Members.names container) :
    Members.get? kind subtree = some (.object container) := by
  rw [container?_eq_some_iff] at holds
  cases held : Members.get? kind subtree with
  | none =>
      rw [held] at holds
      cases holds
      cases isMember
  | some part =>
      rw [held] at holds
      exact congrArg some holds

/-- The subtree with one more member in the container of a kind. -/
def inserted (kind name : String) (record : Json)
    (container subtree : Members Json) : Members Json :=
  Members.put kind (.object (Members.put name record container)) subtree

theorem addResource_eq (kind : String) (parameters : Parameters)
    {name : String} (isName : Members.get? nameParameter parameters = some name)
    {container subtree : Members Json}
    (holds : container? kind subtree = some container) :
    addResource kind subtree parameters =
      if Members.contains name container &&
          !parameters.flag replaceParameter then
        .error (.alreadyExists "" kind name)
      else
        .ok (inserted kind name (.object (attributes parameters)) container
          subtree) := by
  rw [container?_eq_some_iff] at holds
  simp only [addResource, isName, holds]
  rfl

/-- A container that is no object is not added to. -/
theorem container?_of_addResource_eq_ok {kind : String}
    {parameters : Parameters} {subtree changed : Members Json}
    (added : addResource kind subtree parameters = .ok changed) :
    ∃ container, container? kind subtree = some container := by
  unfold addResource at added
  unfold container?
  cases isName : Members.get? nameParameter parameters with
  | none => simp [isName] at added
  | some name =>
      simp only [isName] at added
      generalize (Members.get? kind subtree).getD (.object []) = part at added ⊢
      cases part with
      | object container => exact ⟨container, rfl⟩
      | _ => cases added

end Document

namespace Resource

variable {resource : Resource} {id : String} {document : Json}

/-- Adding a resource to a document: it is refused where a member of its name
is there and stays, and put into the container of its kind otherwise. -/
theorem apply_transform (isId : resource.kind.transformId? = some id)
    {container subtree : Members Json}
    (located : document.at? Document.subsystemPath = some (.object subtree))
    (holds : Document.container? resource.kind.text subtree = some container) :
    offlineTransforms.apply document (resource.transform id) =
      if Members.contains resource.name.text container &&
          !resource.replaceExisting then
        .error (.transform id (.alreadyExists
          (Address.pointer ⟨[], subsystemSegment⟩) resource.kind.text
          resource.name.text))
      else
        .ok (document.replaceAt Document.subsystemPath
          (.object (Document.inserted resource.kind.text resource.name.text
            resource.values.record container subtree))) := by
  have carried := carried_values isId
  have isAttributes := Document.attributes_additionParameters carried
    resource.name.text resource.replaceExisting
  rw [Document.Registry.apply_of_located (get?_offlineTransforms isId)
      Document.tokens?_subsystemPath located]
  simp only [transform,
    Document.addResource_eq _ _ (Document.get?_additionParameters carried _ _)
      holds, Document.flag_additionParameters, isAttributes]
  cases Members.contains resource.name.text container &&
    !resource.replaceExisting <;> rfl

/-- A document to which a resource is added has the subtree and the container
that it is added to. -/
theorem located_of_apply_transform_eq_ok
    (isId : resource.kind.transformId? = some id) {changed : Json}
    (applied : offlineTransforms.apply document (resource.transform id) =
      .ok changed) :
    ∃ container subtree,
      document.at? Document.subsystemPath = some (.object subtree) ∧
      Document.container? resource.kind.text subtree = some container ∧
      changed = document.replaceAt Document.subsystemPath
        (.object (Document.inserted resource.kind.text resource.name.text
          resource.values.record container subtree)) := by
  obtain ⟨path, subtree, added, isPath, located, isAdded, -⟩ :=
    Document.Registry.exists_of_apply_eq_ok (get?_offlineTransforms isId)
      applied
  cases Document.tokens?_subsystemPath.symm.trans isPath
  obtain ⟨container, holds⟩ := Document.container?_of_addResource_eq_ok isAdded
  rw [apply_transform isId located holds] at applied
  split at applied
  · cases applied
  · exact ⟨container, subtree, located, holds, (Except.ok.inj applied).symm⟩

end Resource

end Provision
