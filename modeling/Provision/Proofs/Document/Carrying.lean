import Provision.Proofs.Document.Location
import Provision.Proofs.Value.Lookups

/-!
Contract: which attributes of a node a transform carries into a document.

The name of a node, its attributes and the replace flag share one list of
parameters, in which a later text takes the place of an earlier one.  Two names
in that list direct the transform.  An attribute of one of these names is lost
as an attribute, and one called like the name parameter renames the node.

Owns:
- dictionaries that are built of the members of some names only;
- the name and the record that the parameters of an addition stand for;
- what comes of an addition below a node, whatever its attributes are called;
- that all attributes arrive exactly where none has a directing name.

Does not own: the attributes of the known kinds of resources, which are never
called so.
-/

namespace Provision

/-! ## Members of some names -/

namespace Members

variable {κ α : Type} [DecidableEq κ] (keep : κ → Bool)

/-- A put is seen among the members of some names if its name is one of
them. -/
theorem filter_put (name : κ) (value : α) (members : List (κ × α)) :
    (put name value members).filter (fun member => keep member.1) =
      if keep name then
        put name value (members.filter fun member => keep member.1)
      else members.filter fun member => keep member.1 := by
  induction members with
  | nil => by_cases isKept : keep name <;> simp [put, isKept]
  | cons member rest inductionHypothesis =>
      by_cases isHere : member.1 = name
      · subst isHere
        by_cases isKept : keep member.1 <;> simp [put, isKept]
      · simp only [put, if_neg isHere, List.filter_cons, inductionHypothesis]
        by_cases isKept : keep name <;> by_cases isOld : keep member.1 <;>
          simp [isKept, isOld, put, isHere]

/-- The members of some names are those that the pairs of these names
build. -/
theorem filter_ofPairs (pairs : List (κ × α)) :
    (ofPairs pairs).filter (fun member => keep member.1) =
      ofPairs (pairs.filter fun pair => keep pair.1) := by
  suffices ∀ members : List (κ × α),
      (pairs.foldl (fun members pair => put pair.1 pair.2 members)
          members).filter (fun member => keep member.1) =
        (pairs.filter fun pair => keep pair.1).foldl
          (fun members pair => put pair.1 pair.2 members)
          (members.filter fun member => keep member.1) from this []
  induction pairs with
  | nil => exact fun _ => rfl
  | cons pair rest inductionHypothesis =>
      intro members
      rw [List.foldl_cons, inductionHypothesis, filter_put]
      by_cases isKept : keep pair.1 <;> simp [isKept]

end Members

/-! ## The parameters of an addition -/

namespace Document

/-- Whether a parameter of the name is an attribute, and directs nothing. -/
def isAttribute (name : String) : Bool :=
  name ≠ nameParameter && name ≠ replaceParameter

/-- The attributes that a transform keeps as attributes. -/
def keptValues (values : ValueSet) : ValueSet :=
  values.filter fun member => isAttribute member.1

/-- The name that a node gets: its own, unless an attribute is called like the
parameter for it. -/
def keptName (name : String) (values : ValueSet) : String :=
  ((Members.get? nameParameter values).map Value.parameter).getD name

theorem isAttribute_iff {name : String} :
    isAttribute name = true ↔
      name ≠ nameParameter ∧ name ≠ replaceParameter := by
  simp [isAttribute]

/-- The parameters are built of the name, the attributes and the flag, in this
order. -/
theorem additionParameters_eq_ofPairs
    (name : String)
    (values : ValueSet)
    (replaces : Bool) :
    additionParameters name values replaces =
      Members.ofPairs ((nameParameter, name) ::
        (values.map fun member => (member.1, member.2.parameter)) ++
        [(replaceParameter, (Scalar.boolean replaces).shown)]) := by
  rw [Members.ofPairs, List.foldl_append, List.foldl_cons, List.foldl_nil,
    List.foldl_cons, List.foldl_map]
  rfl

theorem get?_name_additionParameters
    {values : ValueSet}
    (distinct : Members.Distinct values)
    (name : String)
    (replaces : Bool) :
    Members.get? nameParameter (additionParameters name values replaces) =
      some (keptName name values) := by
  let pairs := values.map fun member => (member.1, member.2.parameter)
  have pairsDistinct : Members.Distinct pairs := by
    rw [Members.Distinct, Members.names_map]
    exact distinct
  have given : Members.valuesOf nameParameter ((nameParameter, name) ::
        pairs ++ [(replaceParameter, (Scalar.boolean replaces).shown)]) =
      name :: ((Members.get? nameParameter values).map
        Value.parameter).toList := by
    rw [← Members.get?_map Value.parameter, ← Members.valuesOf_of_distinct
      pairsDistinct]
    simp [Members.valuesOf, nameParameter, replaceParameter]
  rw [additionParameters_eq_ofPairs, Members.get?_ofPairs, given, keptName]
  cases Members.get? nameParameter values <;> rfl

/-- The record of an addition holds the attributes that are kept, in order. -/
theorem attributes_eq_keptValues
    {values : ValueSet}
    (distinct : Members.Distinct values)
    (name : String)
    (replaces : Bool) :
    Json.object (attributes (additionParameters name values replaces)) =
      (keptValues values).record := by
  have kept : (additionParameters name values replaces).filter
        (fun parameter => isAttribute parameter.1) =
      (keptValues values).map fun member =>
        (member.1, member.2.parameter) := by
    rw [additionParameters_eq_ofPairs, Members.filter_ofPairs,
      List.filter_append, List.filter_cons_of_neg (by simp [isAttribute]),
      List.filter_cons_of_neg (by simp [isAttribute]), List.filter_nil,
      List.append_nil, List.filter_map]
    refine Members.ofPairs_of_distinct ?_
    rw [Members.Distinct, Members.names_map]
    exact distinct.filter _
  rw [ValueSet.record, attributes]
  change Json.object (List.map _ ((additionParameters name values replaces).filter
    fun parameter => isAttribute parameter.1)) = _
  rw [kept, List.map_map]
  rfl

/-- Nothing is lost and nothing renamed where no attribute directs the
transform. -/
theorem keptValues_eq_self_iff
    {values : ValueSet}
    (distinct : Members.Distinct values) :
    keptValues values = values ↔ values.Carried := by
  rw [keptValues, List.filter_eq_self]
  constructor
  · intro allKept
    refine ⟨distinct, fun name isName => ?_⟩
    obtain ⟨member, isMember, rfl⟩ := List.mem_map.mp isName
    exact isAttribute_iff.mp (allKept member isMember)
  · intro carried member isMember
    exact isAttribute_iff.mpr
      (carried.free _ (List.mem_map_of_mem (f := Prod.fst) isMember))

theorem keptName_of_carried
    {values : ValueSet}
    (carried : values.Carried)
    (name : String) :
    keptName name values = name := by
  have isUnbound : Members.get? nameParameter values = none := by
    rw [Members.get?_eq_none_iff]
    exact fun isName => (carried.free _ isName).1 rfl
  rw [keptName, isUnbound]
  rfl

/-! ## Additions below a node -/

/-- Putting a container below a node is a change at the place of the
container. -/
theorem changedAt_container
    {parent : Address}
    {document : Json}
    {subtree : Members Json}
    (walk : Json.Walk parent.tokens document (.object subtree))
    (kind : String)
    (container : Members Json) :
    Json.ChangedAt (.object container) (parent.tokens ++ [kind]) document
      (document.replaceAt parent.tokens
        (.object (Members.put kind (.object container) subtree))) :=
  .replaceAt (Json.at?_eq_some_iff.mpr walk)
    (Json.ChangedAt.object_iff.mpr ⟨_, rfl, .here _⟩)

section Addition

variable {id kind : String} {parent : Address} {values : ValueSet}
  {registry : Registry} {document : Json} {subtree container : Members Json}
  (distinct : Members.Distinct values)
  (isBound : Members.get? id registry = some (addResource kind))
  (walk : Json.Walk parent.tokens document (.object subtree))
  (holds : container? kind subtree = some container)
include distinct isBound walk holds

/-- The addition puts the kept record under the kept name, unless that name is
taken and nothing may be replaced. -/
theorem apply_addition
    (name : String)
    (replaces : Bool) :
    registry.apply document
        ⟨id, parent, additionParameters name values replaces⟩ =
      if Members.contains (keptName name values) container && !replaces then
        .error (.transform id
          (.alreadyExists parent.pointer kind (keptName name values)))
      else
        .ok (document.replaceAt parent.tokens
          (.object (inserted kind (keptName name values)
            (keptValues values).record container subtree))) := by
  let addition : Transform :=
    ⟨id, parent, additionParameters name values replaces⟩
  have isPath : Json.Pointer.tokens? addition.locator.pointer =
      some parent.tokens :=
    Json.Pointer.tokens?_text parent.tokens
  have located := Json.at?_eq_some_iff.mpr walk
  refine (Registry.apply_of_located isBound isPath located).trans ?_
  simp only [addition,
    addResource_eq _ _ (get?_name_additionParameters distinct name replaces)
      holds, flag_additionParameters, attributes_eq_keptValues distinct]
  cases Members.contains (keptName name values) container && !replaces <;> rfl

/-- The addition changes the document in one place, the container of the
kind. -/
theorem apply_addition_eq_ok_iff
    (name : String)
    (replaces : Bool)
    (changed : Json) :
    registry.apply document
          ⟨id, parent, additionParameters name values replaces⟩ =
        .ok changed ↔
      (keptName name values ∈ Members.names container → replaces = true) ∧
      Json.ChangedAt
        (.object (Members.put (keptName name values)
          (keptValues values).record container))
        (parent.tokens ++ [kind]) document changed := by
  have isChange : Json.ChangedAt
      (.object (Members.put (keptName name values)
        (keptValues values).record container))
      (parent.tokens ++ [kind]) document
      (document.replaceAt parent.tokens
        (.object (inserted kind (keptName name values)
          (keptValues values).record container subtree))) :=
    changedAt_container walk kind _
  have refused_iff : (Members.contains (keptName name values) container &&
      !replaces) = true ↔
        ¬(keptName name values ∈ Members.names container →
          replaces = true) := by
    rw [Bool.and_eq_true, Members.contains_eq_true_iff]
    simp
  rw [apply_addition distinct isBound walk holds]
  split
  · next isRefused =>
      refine iff_of_false (fun isOk => by cases isOk) fun accepted => ?_
      exact refused_iff.mp isRefused accepted.1
  · next isAdmitted =>
      rw [refused_iff, not_not] at isAdmitted
      rw [Except.ok.injEq]
      constructor
      · rintro rfl
        exact ⟨isAdmitted, isChange⟩
      · exact fun accepted => isChange.unique accepted.2

/-- Where the name of the node is new, the container gets the node with all of
its attributes exactly where a transform can carry them. -/
theorem exists_apply_addition_iff_carried
    {name : String}
    (isNew : name ∉ Members.names container)
    (replaces : Bool) :
    (∃ changed,
        registry.apply document
            ⟨id, parent, additionParameters name values replaces⟩ =
          .ok changed ∧
        Json.ChangedAt (.object (container ++ [(name, values.record)]))
          (parent.tokens ++ [kind]) document changed) ↔
      values.Carried := by
  constructor
  · rintro ⟨changed, isChanged, changes⟩
    obtain ⟨-, changesToo⟩ :=
      (apply_addition_eq_ok_iff distinct isBound walk holds name replaces
        changed).mp isChanged
    have sameContainer : container ++ [(name, values.record)] =
        Members.put (keptName name values) (keptValues values).record
          container :=
      Json.object.inj (Option.some.inj
        (changes.at?_eq.symm.trans changesToo.at?_eq))
    -- A name that is taken would leave no room for one more member.
    have isFree : keptName name values ∉ Members.names container := by
      intro isTaken
      have sameNames := congrArg Members.names sameContainer
      rw [Members.names_put, if_pos isTaken, Members.names, List.map_append,
        ← Members.names] at sameNames
      simp at sameNames
    rw [Members.put_of_not_mem _ isFree, List.append_cancel_left_eq]
      at sameContainer
    obtain ⟨-, sameRecord⟩ := Prod.mk.inj (List.singleton_inj.mp sameContainer)
    have sameLength := congrArg List.length (Json.object.inj sameRecord)
    rw [List.length_map, List.length_map] at sameLength
    exact (keptValues_eq_self_iff distinct).mp
      (List.filter_sublist.eq_of_length sameLength.symm)
  · intro carried
    have isName := keptName_of_carried carried name
    have isPut : Members.put (keptName name values)
        (keptValues values).record container =
          container ++ [(name, values.record)] := by
      rw [isName, (keptValues_eq_self_iff distinct).mpr carried,
        Members.put_of_not_mem _ isNew]
    have decided := apply_addition_eq_ok_iff distinct isBound walk holds name
      replaces
    rw [isPut] at decided
    have isChange := changedAt_container walk kind
      (container ++ [(name, values.record)])
    refine ⟨_, (decided _).mpr ⟨?_, isChange⟩, isChange⟩
    rw [isName]
    exact fun isTaken => absurd isTaken isNew

end Addition

/-- **A node arrives with all of its attributes unless one of them directs the
transform.**

The node is new in the container of its kind, which is missing or an object.
Then the transform that adds it below its parent changes nothing but that
container.  The container gets one more member, called like the node, which
holds for every attribute in order the text of its parameter and nothing else,
exactly where no attribute is called like one of the two parameters that direct
a transform.  Otherwise such attributes are missing in the record, and an
attribute called like the name parameter is taken for the name of the node, so
that the record stands there under another name, takes the place of another
one, or is refused. -/
theorem addition_arrives_whole_iff
    (id : String)
    (address parent : Address)
    (values : ValueSet)
    (replaces : Bool)
    (registry : Registry)
    (document : Json)
    (subtree container : Members Json)
    (distinct : Members.Distinct values)
    (isBelow : address.parent = some parent)
    (isBound : Members.get? id registry =
      some (addResource address.leaf.kind))
    (walk : Json.Walk parent.tokens document (.object subtree))
    (holds : container? address.leaf.kind subtree = some container)
    (isNew : address.leaf.name ∉ Members.names container) :
    ∃ transform,
      addTransform id address values replaces = some transform ∧
      ((∃ changed,
          registry.apply document transform = .ok changed ∧
          Json.ChangedAt
            (.object (container ++ [(address.leaf.name, values.record)]))
            (parent.tokens ++ [address.leaf.kind]) document changed) ↔
        ∀ name ∈ Members.names values,
          name ≠ nameParameter ∧ name ≠ replaceParameter) ∧
      ∀ changed,
        registry.apply document transform = .ok changed ↔
          (keptName address.leaf.name values ∈ Members.names container →
            replaces = true) ∧
          Json.ChangedAt
            (.object (Members.put (keptName address.leaf.name values)
              (keptValues values).record container))
            (parent.tokens ++ [address.leaf.kind]) document changed := by
  refine ⟨⟨id, parent, additionParameters address.leaf.name values replaces⟩,
    ?_, ?_, apply_addition_eq_ok_iff distinct isBound walk holds _ replaces⟩
  · rw [addTransform, isBelow]
    rfl
  · rw [exists_apply_addition_iff_carried distinct isBound walk holds isNew]
    exact ⟨ValueSet.Carried.free, fun areFree => ⟨distinct, areFree⟩⟩

/-- A realm below the subsystem. -/
def realmNode : Address := ⟨[⟨"subsystem", "elytron"⟩], ⟨"realm", "ldap"⟩⟩

/-- Attributes of a realm, with a list among them. -/
def plainValues : ValueSet :=
  [("levels", .list [.integer 2, .boolean false])]

/-- The same attributes with one that is called like a parameter. -/
def renamingValues : ValueSet :=
  plainValues ++ [("name", .text "staff")]

theorem addition_arrives_whole_iff_sample :
    (∃ transform changed,
      addTransform "add-realm" realmNode plainValues true =
        some transform ∧
      realmRegistry.apply versionedDocument transform = .ok changed ∧
      changed.at? ["subsystem", "elytron", "realm"] =
        some (.object [("ldap", .object [("levels", .string "2 false")])])) ∧
    ∃ transform changed,
      addTransform "add-realm" realmNode renamingValues true =
        some transform ∧
      realmRegistry.apply versionedDocument transform = .ok changed ∧
      changed.at? ["subsystem", "elytron", "realm"] =
        some (.object [("staff", .object [("levels", .string "2 false")])]) := by
  have arrives := fun values distinct =>
    addition_arrives_whole_iff "add-realm" realmNode ⟨[], subsystemSegment⟩
      values true realmRegistry versionedDocument
      [("version", .null)] [] distinct rfl rfl
      (Json.at?_eq_some_iff.mp (by decide)) rfl (by decide)
  constructor
  · obtain ⟨transform, isTransform, whole_iff, -⟩ :=
      arrives plainValues (by decide)
    obtain ⟨changed, isChanged, changes⟩ := whole_iff.mpr (by decide)
    exact ⟨transform, changed, isTransform, isChanged, changes.at?_eq⟩
  · obtain ⟨transform, isTransform, -, changed_iff⟩ :=
      arrives renamingValues (by decide)
    cases isTransform
    obtain ⟨-, changes⟩ := (changed_iff _).mp rfl
    exact ⟨_, _, rfl, rfl, changes.at?_eq⟩

/-- An attribute that is called like the parameter for the name takes the name
of the node. -/
theorem not_every_addition_arrives_whole :
    ¬ ∀ (id : String) (address parent : Address) (values : ValueSet)
        (replaces : Bool) (registry : Registry) (document : Json)
        (subtree container : Members Json),
      Members.Distinct values →
      address.parent = some parent →
      Members.get? id registry = some (addResource address.leaf.kind) →
      Json.Walk parent.tokens document (.object subtree) →
      container? address.leaf.kind subtree = some container →
      address.leaf.name ∉ Members.names container →
      ∃ transform changed,
        addTransform id address values replaces = some transform ∧
        registry.apply document transform = .ok changed ∧
        Json.ChangedAt
          (.object (container ++ [(address.leaf.name, values.record)]))
          (parent.tokens ++ [address.leaf.kind]) document changed := by
  intro arriveWhole
  have distinct : Members.Distinct renamingValues := by decide
  have walk : Json.Walk (Address.tokens ⟨[], subsystemSegment⟩)
      versionedDocument (.object [("version", .null)]) :=
    Json.at?_eq_some_iff.mp (by decide)
  have isNew : "ldap" ∉ Members.names ([] : Members Json) := by decide
  obtain ⟨transform, changed, isTransform, isChanged, changes⟩ :=
    arriveWhole "add-realm" realmNode ⟨[], subsystemSegment⟩ renamingValues
      false realmRegistry versionedDocument [("version", .null)] []
      distinct rfl rfl walk rfl isNew
  cases isTransform
  have carried := (exists_apply_addition_iff_carried distinct rfl walk rfl
    isNew false).mp ⟨changed, isChanged, changes⟩
  exact (carried.free "name" (by decide)).1 rfl

end Document

end Provision
