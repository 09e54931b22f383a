import Provision.Proofs.Document.Effect
import Provision.Proofs.Json.Paths

/-!
Contract: the part of a document that the locator of a transform names.

A locator is an address, and its pointer is a text.  Between the two nothing is
lost, whatever characters the kinds and the names are made of, so a transform
works on the part that the kinds and the names of its locator lead to.

Owns:
- the pieces of the pointer of an address, and that no two addresses share one;
- what comes of a transform, whatever its body does, told by a walk along the
  segments of its locator;
- the documents in which the subtree of a transform is not found.

Does not own: what an addition does to a subtree.
-/

namespace Provision

namespace Address

/-! ## Pointers of addresses -/

theorem segments_injective : Function.Injective segments := by
  intro address other same
  obtain ⟨aboves, leaves⟩ := List.append_inj' same rfl
  cases address
  cases other
  cases aboves
  cases leaves
  rfl

/-- The tokens say where each segment ends, as every segment has two. -/
theorem tokens_injective : Function.Injective tokens := by
  intro address other same
  apply segments_injective
  unfold tokens at same
  generalize address.segments = segments at same ⊢
  generalize other.segments = others at same ⊢
  induction segments generalizing others with
  | nil =>
      cases others with
      | nil => rfl
      | cons => cases same
  | cons segment rest inductionHypothesis =>
      cases others with
      | nil => cases same
      | cons otherSegment otherRest =>
          injection same with sameKind same
          injection same with sameName same
          obtain rfl : segment = otherSegment := by
            cases segment
            cases sameKind
            cases sameName
            rfl
          rw [inductionHypothesis _ same]

/-- No two addresses have one pointer. -/
theorem pointer_injective : Function.Injective pointer :=
  Json.Pointer.text_injective.comp tokens_injective

/-- Behind an empty first piece, the pieces of a pointer decode to the tokens
of the address. -/
theorem exists_splitOn_pointer (address : Address) :
    ∃ escaped,
      address.pointer.toList.splitOn '/' = [] :: escaped ∧
      escaped.map (fun piece =>
        Json.Pointer.unescape (String.ofList piece)) = address.tokens := by
  refine ⟨_, (Text.pieces_eq_splitOn _ _).symm.trans
    (Json.Pointer.pieces_text address.tokens), ?_⟩
  simp [Json.Pointer.unescape_escape, Function.comp_def]

end Address

namespace Document

variable {registry : Registry} {body : Body} {document : Json}
  {transform : Transform}

/-! ## The part that a transform works on -/

/-- What comes of a transform with a body: the tokens of its locator lead
nowhere, or to something that is no object; or else they lead to an object,
which the body refuses, or which it changes in its place. -/
inductive Applies (body : Body) (document : Json) (transform : Transform) :
    Except Refusal Json → Prop
  | nowhere
      (isNowhere : Json.LeadsNowhere transform.locator.tokens document) :
      Applies body document transform
        (.error (.transform transform.id
          (.subtreeNotFound transform.locator.pointer)))
  | noObject {part : Json}
      (walk : Json.Walk transform.locator.tokens document part)
      (isNoObject : part.members? = none) :
      Applies body document transform
        (.error (.transform transform.id
          (.malformed transform.locator.pointer "subtree is not an object")))
  | refused {subtree : Members Json} {cause : TransformError}
      (walk : Json.Walk transform.locator.tokens document (.object subtree))
      (isRefused : body subtree transform.parameters = .error cause) :
      Applies body document transform
        (.error (.transform transform.id
          (cause.locatedAt transform.locator.pointer)))
  | changed {subtree changed : Members Json} {after : Json}
      (walk : Json.Walk transform.locator.tokens document (.object subtree))
      (isChanged : body subtree transform.parameters = .ok changed)
      (changes : Json.ChangedAt (.object changed) transform.locator.tokens
        document after) :
      Applies body document transform (.ok after)

/-- The part that a transform works on is the one at the end of the tokens. -/
theorem Transform.part?_eq
    (transform : Transform)
    (document : Json) :
    transform.part? document = document.at? transform.locator.tokens := by
  rw [Transform.part?, Address.pointer, Json.Pointer.tokens?_text,
    Option.bind_some]

theorem Applies.apply_eq
    {outcome : Except Refusal Json}
    (isBound : Members.get? transform.id registry = some body)
    (applies : Applies body document transform outcome) :
    registry.apply document transform = outcome := by
  have isPath := Json.Pointer.tokens?_text transform.locator.tokens
  cases applies with
  | nowhere isNowhere =>
      refine Registry.apply_of_nowhere isBound ?_
      rw [transform.part?_eq]
      exact Json.at?_eq_none_iff.mpr isNowhere
  | noObject walk isNoObject =>
      refine Registry.apply_of_noObject isBound ?_ isNoObject
      rw [transform.part?_eq]
      exact Json.at?_eq_some_iff.mpr walk
  | refused walk isRefused =>
      have located := Json.at?_eq_some_iff.mpr walk
      rw [Registry.apply_of_located isBound isPath located, isRefused]
  | changed walk isChanged changes =>
      have located := Json.at?_eq_some_iff.mpr walk
      rw [changes.unique (walk.changedAt_replaceAt _),
        Registry.apply_of_located isBound isPath located, isChanged]

theorem exists_applies
    (body : Body)
    (document : Json)
    (transform : Transform) :
    ∃ outcome, Applies body document transform outcome := by
  cases located : document.at? transform.locator.tokens with
  | none => exact ⟨_, .nowhere (Json.at?_eq_none_iff.mp located)⟩
  | some part =>
      have walk := Json.at?_eq_some_iff.mp located
      cases isObject : part.members? with
      | none => exact ⟨_, .noObject walk isObject⟩
      | some subtree =>
          obtain rfl := Json.eq_object_of_members? isObject
          cases isDone : body subtree transform.parameters with
          | error cause => exact ⟨_, .refused walk isDone⟩
          | ok changed =>
              exact ⟨_, .changed walk isDone (walk.changedAt_replaceAt _)⟩

/-- A known transform comes to exactly one of the described outcomes. -/
theorem apply_eq_iff
    {outcome : Except Refusal Json}
    (isBound : Members.get? transform.id registry = some body) :
    registry.apply document transform = outcome ↔
      Applies body document transform outcome := by
  refine ⟨?_, Applies.apply_eq isBound⟩
  rintro rfl
  obtain ⟨other, applies⟩ := exists_applies body document transform
  rwa [applies.apply_eq isBound]

/-- There is no subtree for a transform where its tokens lead nowhere, or
where its body says so. -/
theorem applies_subtreeNotFound_iff
    {locator : String} :
    Applies body document transform
        (.error (.transform transform.id (.subtreeNotFound locator))) ↔
      (locator = transform.locator.pointer ∧
          Json.LeadsNowhere transform.locator.tokens document) ∨
        ∃ subtree,
          Json.Walk transform.locator.tokens document (.object subtree) ∧
          body subtree transform.parameters =
            .error (.subtreeNotFound locator) := by
  constructor
  · intro applies
    generalize isOutcome : Except.error (Refusal.transform transform.id
      (TransformError.subtreeNotFound locator)) = outcome at applies
    cases applies with
    | nowhere isNowhere =>
        cases isOutcome
        exact .inl ⟨rfl, isNowhere⟩
    | noObject walk isNoObject => cases isOutcome
    | @refused subtree cause walk isRefused =>
        refine .inr ⟨subtree, walk, ?_⟩
        rw [isRefused]
        cases cause <;> cases isOutcome
        rfl
    | changed walk isChanged changes => cases isOutcome
  · rintro (⟨rfl, isNowhere⟩ | ⟨subtree, walk, isRefused⟩)
    · exact .nowhere isNowhere
    · exact .refused walk isRefused

/-- An addition never says that its subtree is not there. -/
theorem addResource_ne_subtreeNotFound
    (kind locator : String)
    (subtree : Members Json)
    (parameters : Parameters) :
    addResource kind subtree parameters ≠
      .error (.subtreeNotFound locator) := by
  unfold addResource
  split
  · simp
  · split
    · split <;> simp
    · simp

/-- **The pointer of a locator names the path of the subtree.**

Cut at its slashes and decoded piece by piece, a pointer gives the kinds and
the names of the segments, so no two addresses have one pointer.  These tokens
lead, one after the other, to one part of a document, unless some token leads
nowhere.  Whatever the body of a known transform does, it works on that part:
where there is none, or it is no object, the transform is refused, and
otherwise the body decides, and a part that it changes is put in its place.
Transforms that add resources report that there is no such part exactly where
some token leads nowhere. -/
theorem pointer_names_path :
    (∀ address : Address, ∃ escaped,
      address.pointer.toList.splitOn '/' = [] :: escaped ∧
      escaped.map (fun piece =>
          Json.Pointer.unescape (String.ofList piece)) =
        address.segments.flatMap fun segment =>
          [segment.kind, segment.name]) ∧
    Function.Injective Address.pointer ∧
    (∀ (path : List String) (document : Json),
      (Json.LeadsNowhere path document ↔
        ¬ ∃ part, Json.Walk path document part) ∧
      ∀ part other, Json.Walk path document part →
        Json.Walk path document other → part = other) ∧
    (∀ (registry : Registry) (document : Json) (transform : Transform)
        (body : Body),
      Members.get? transform.id registry = some body →
      ∀ outcome,
        registry.apply document transform = outcome ↔
          Applies body document transform outcome) ∧
    ∀ (registry : Registry) (document : Json) (transform : Transform)
        (kind : String),
      Members.get? transform.id registry = some (addResource kind) →
      (∀ outcome,
        registry.apply document transform = outcome ↔
          Applies (addResource kind) document transform outcome) ∧
      ∀ locator,
        registry.apply document transform =
            .error (.transform transform.id (.subtreeNotFound locator)) ↔
          locator = transform.locator.pointer ∧
            Json.LeadsNowhere transform.locator.tokens document := by
  refine ⟨Address.exists_splitOn_pointer, Address.pointer_injective,
    fun path document => ⟨Json.leadsNowhere_iff,
      fun part other walk walkToo => walk.unique walkToo⟩,
    fun registry document transform body isBound outcome =>
      apply_eq_iff isBound, ?_⟩
  intro registry document transform kind isBound
  refine ⟨fun outcome => apply_eq_iff isBound, fun locator => ?_⟩
  rw [apply_eq_iff isBound, applies_subtreeNotFound_iff]
  simp [addResource_ne_subtreeNotFound]

/-- A locator whose kinds and names hold the marks of a pointer, and lead
through an array. -/
def markedLocator : Address := ⟨[⟨"a/b", "~1~0"⟩], ⟨"1", "users=~"⟩⟩

/-- A document with an object at the end of the marked locator. -/
def markedDocument : Json :=
  .object [("a/b", .object
    [("~1~0", .array [.null, .object [("users=~", .object [])]])])]

/-- The addition of a realm at the marked locator. -/
def markedTransform : Transform :=
  ⟨"add-realm", markedLocator, [("name", "ldap")]⟩

theorem pointer_names_path_sample :
    markedLocator.pointer = "/a~1b/~01~00/1/users=~0" ∧
    Json.Walk markedLocator.tokens markedDocument (.object []) ∧
    (∃ after,
      realmRegistry.apply markedDocument markedTransform = .ok after ∧
      Json.ChangedAt (.object [("realm", .object [("ldap", .object [])])])
        markedLocator.tokens markedDocument after) ∧
    realmRegistry.apply (.object []) markedTransform =
      .error (.transform "add-realm"
        (.subtreeNotFound markedLocator.pointer)) := by
  have walk : Json.Walk markedLocator.tokens markedDocument (.object []) :=
    Json.at?_eq_some_iff.mp (by decide)
  have isNowhere : Json.LeadsNowhere markedLocator.tokens (.object []) :=
    Json.at?_eq_none_iff.mp (by decide)
  have isBound : Members.get? markedTransform.id realmRegistry =
      some (addResource "realm") := rfl
  have isAdded : addResource "realm" [] [("name", "ldap")] =
      .ok [("realm", .object [("ldap", .object [])])] := rfl
  obtain ⟨-, -, -, -, ofAddition⟩ := pointer_names_path
  obtain ⟨comesTo, -⟩ := ofAddition _ markedDocument markedTransform _ isBound
  obtain ⟨-, isUnfound⟩ := ofAddition _ (.object []) markedTransform _ isBound
  have changes := walk.changedAt_replaceAt
    (.object [("realm", .object [("ldap", .object [])])])
  exact ⟨by decide, walk,
    ⟨_, (comesTo _).mpr (.changed walk isAdded changes), changes⟩,
    (isUnfound _).mpr ⟨rfl, isNowhere⟩⟩

end Document

end Provision
