import Provision.Proofs.Document.Insertion
import Provision.Proofs.Json.Likeness

/-!
Contract: resources that are put into one document one after the other.

A resource stands in the container of its kind under its name.  So the later
of two resources with one kind and name is the one that stays, and resources
with different ones leave alike documents in either order.

Owns:
- the laws of two updates along one path, and of likeness under an update;
- `Document.placed`, the subtree with a record in its place;
- what a second record does to a subtree, in the same place and in another.

Does not own: whether a resource is refused, and batches.
-/

namespace Provision

/-! ## Updates along one path -/

namespace Json

/-- Updating with what is there changes nothing. -/
theorem replaceChild_self {token : String} {document below : Json}
    (found : document.child? token = some below) :
    document.replaceChild token below = document := by
  cases document with
  | object members =>
      simp [replaceChild, Members.put_of_get?_eq_some found]
  | array items =>
      simp only [child?, Option.bind_eq_some_iff] at found
      obtain ⟨place, isPlace, found⟩ := found
      obtain ⟨isInside, isBelow⟩ := List.getElem?_eq_some_iff.mp found
      subst isBelow
      simp [replaceChild, isPlace]
  | _ => simp [child?] at found

/-- The later of two updates counts. -/
theorem replaceChild_replaceChild {token : String} {document below : Json}
    (found : document.child? token = some below) (older newer : Json) :
    (document.replaceChild token older).replaceChild token newer =
      document.replaceChild token newer := by
  cases document with
  | object members =>
      have isThere : Members.contains token members = true := by
        simp only [child?] at found
        simp [Members.contains, found]
      have isStillThere :
          Members.contains token (Members.put token older members) = true := by
        simp [Members.contains, Members.get?_put]
      simp [replaceChild, isThere, isStillThere, Members.put_put]
  | array items =>
      simp only [child?, Option.bind_eq_some_iff] at found
      obtain ⟨place, isPlace, -⟩ := found
      simp [replaceChild, isPlace]
  | _ => rfl

theorem replaceAt_self {path : List String} {document part : Json}
    (found : document.at? path = some part) :
    document.replaceAt path part = document := by
  induction path generalizing document with
  | nil => exact (Option.some.inj found).symm
  | cons token rest inductionHypothesis =>
      simp only [at?, Option.bind_eq_some_iff] at found
      obtain ⟨below, isBelow, found⟩ := found
      simp only [replaceAt, isBelow, inductionHypothesis found,
        replaceChild_self isBelow]

theorem replaceAt_replaceAt {path : List String} {document part : Json}
    (found : document.at? path = some part) (older newer : Json) :
    (document.replaceAt path older).replaceAt path newer =
      document.replaceAt path newer := by
  induction path generalizing document with
  | nil => rfl
  | cons token rest inductionHypothesis =>
      simp only [at?, Option.bind_eq_some_iff] at found
      obtain ⟨below, isBelow, found⟩ := found
      simp only [replaceAt, isBelow, child?_replaceChild isBelow,
        replaceChild_replaceChild isBelow, inductionHypothesis found]

theorem Alike.set (items : List Json) (place : Nat) {part other : Json}
    (alike : Alike part other) :
    Alike (.array (items.set place part)) (.array (items.set place other)) := by
  refine .array (by simp) fun index left right isLeft isRight => ?_
  by_cases isHere : place = index
  · obtain ⟨isInside, -⟩ := List.getElem?_eq_some_iff.mp isLeft
    rw [List.length_set, ← isHere] at isInside
    rw [List.getElem?_set, if_pos isHere, if_pos isInside] at isLeft isRight
    exact Option.some.inj isLeft ▸ Option.some.inj isRight ▸ alike
  · rw [List.getElem?_set_ne isHere] at isLeft isRight
    rw [isLeft] at isRight
    exact Option.some.inj isRight ▸ .same left

theorem Alike.replaceChild (token : String) (document : Json)
    {part other : Json} (alike : Alike part other) :
    Alike (document.replaceChild token part)
      (document.replaceChild token other) := by
  cases document with
  | object members =>
      simp only [Json.replaceChild]
      split
      · exact Alike.put (.same _) token alike
      · exact .same _
  | array items =>
      simp only [Json.replaceChild]
      split
      · next place _ => exact Alike.set items place alike
      · exact .same _
  | _ => exact .same _

/-- Alike parts at the end of one path leave alike documents. -/
theorem Alike.replaceAt (path : List String) (document : Json)
    {part other : Json} (alike : Alike part other) :
    Alike (document.replaceAt path part) (document.replaceAt path other) := by
  induction path generalizing document with
  | nil => exact alike
  | cons token rest inductionHypothesis =>
      simp only [Json.replaceAt]
      split
      · next below _ =>
          exact Alike.replaceChild token document (inductionHypothesis below)
      · exact .same document

end Json

/-! ## Records in a subtree -/

namespace Document

/-- The subtree with a record in the container of a kind.  A container that is
missing is made. -/
def placed (kind name : String) (record : Json) (subtree : Members Json) :
    Members Json :=
  inserted kind name record ((container? kind subtree).getD []) subtree

/-- There is a record of the name in the container of the kind. -/
def Holds (kind name : String) (subtree : Members Json) : Prop :=
  ∃ container, container? kind subtree = some container ∧
    name ∈ Members.names container

/-- One more member in the container of a kind leaves the others alone. -/
theorem container?_inserted (other kind name : String) (record : Json)
    (container subtree : Members Json) :
    container? other (inserted kind name record container subtree) =
      if other = kind then some (Members.put name record container)
      else container? other subtree := by
  unfold container? inserted
  rw [Members.get?_put]
  by_cases isKind : other = kind
  · simp [isKind]
  · simp [isKind]

variable {kind other name otherName : String} {record otherRecord : Json}
  {subtree : Members Json}

theorem container?_placed (asked kind name : String) (record : Json)
    (subtree : Members Json) :
    container? asked (placed kind name record subtree) =
      if asked = kind then
        some (Members.put name record ((container? kind subtree).getD []))
      else container? asked subtree :=
  container?_inserted asked kind name record _ subtree

theorem holds_placed (kind name : String) (record : Json)
    (subtree : Members Json) :
    Holds kind name (placed kind name record subtree) := by
  refine ⟨_, by rw [container?_placed, if_pos rfl], ?_⟩
  rw [← Members.contains_eq_true_iff, Members.contains, Members.get?_put]
  simp

theorem Holds.placed (holds : Holds kind name subtree)
    (other otherName : String) (record : Json) :
    Holds kind name (Document.placed other otherName record subtree) := by
  obtain ⟨container, isContainer, isThere⟩ := holds
  by_cases isKind : kind = other
  · subst isKind
    refine ⟨_, by rw [container?_placed, if_pos rfl], ?_⟩
    rw [isContainer, Option.getD_some, Members.names_put]
    split
    · exact isThere
    · exact List.mem_append_left _ isThere
  · exact ⟨container, by rw [container?_placed, if_neg isKind, isContainer],
      isThere⟩

/-- Two records in one container are put into it one after the other. -/
theorem placed_placed_sameKind (kind name otherName : String)
    (record otherRecord : Json) (subtree : Members Json) :
    placed kind name record (placed kind otherName otherRecord subtree) =
      Members.put kind
        (.object (Members.put name record (Members.put otherName otherRecord
          ((container? kind subtree).getD [])))) subtree := by
  rw [placed, container?_placed, if_pos rfl, Option.getD_some, placed]
  simp only [inserted, Members.put_put]

/-- A record in another container leaves this one alone. -/
theorem placed_placed_otherKind (isOther : kind ≠ other)
    (name otherName : String) (record otherRecord : Json)
    (subtree : Members Json) :
    placed kind name record (placed other otherName otherRecord subtree) =
      Members.put kind
        (.object
          (Members.put name record ((container? kind subtree).getD [])))
        (placed other otherName otherRecord subtree) := by
  rw [placed, container?_placed, if_neg isOther]
  rfl

/-- The later of two records in one place counts. -/
theorem placed_placed (kind name : String) (newer older : Json)
    (subtree : Members Json) :
    placed kind name newer (placed kind name older subtree) =
      placed kind name newer subtree := by
  rw [placed_placed_sameKind, Members.put_put]
  rfl

theorem mem_names_of_holds (holds : Holds kind name subtree) :
    kind ∈ Members.names subtree := by
  obtain ⟨container, isContainer, isThere⟩ := holds
  have held := get?_of_mem_container isContainer isThere
  exact List.mem_map_of_mem (Members.mem_of_get?_eq_some held)

/-- A record whose place is held and one in another place may be put in either
order, and all members stay where they are. -/
theorem placed_comm_of_holds (isOther : ¬ (kind = other ∧ name = otherName))
    (holds : Holds kind name subtree) :
    placed kind name record (placed other otherName otherRecord subtree) =
      placed other otherName otherRecord (placed kind name record subtree) := by
  by_cases sameKind : kind = other
  · subst sameKind
    have otherwise : name ≠ otherName := fun same => isOther ⟨rfl, same⟩
    obtain ⟨container, isContainer, isThere⟩ := holds
    rw [placed_placed_sameKind, placed_placed_sameKind, isContainer,
      Option.getD_some,
      Members.put_comm_of_mem otherwise record otherRecord isThere]
  · rw [placed_placed_otherKind sameKind,
      placed_placed_otherKind (Ne.symm sameKind)]
    exact Members.put_comm_of_mem sameKind _ _ (mem_names_of_holds holds)

/-- Records in different places may be put in either order, up to the order of
members. -/
theorem alike_placed_comm (isOther : ¬ (kind = other ∧ name = otherName))
    (record otherRecord : Json) (subtree : Members Json) :
    Json.Alike
      (.object (placed kind name record
        (placed other otherName otherRecord subtree)))
      (.object (placed other otherName otherRecord
        (placed kind name record subtree))) := by
  by_cases sameKind : kind = other
  · subst sameKind
    have otherwise : name ≠ otherName := fun same => isOther ⟨rfl, same⟩
    rw [placed_placed_sameKind, placed_placed_sameKind]
    exact Json.Alike.put (.same _) kind (Json.Alike.put_comm otherwise _ _ _)
  · rw [placed_placed_otherKind sameKind,
      placed_placed_otherKind (Ne.symm sameKind)]
    exact Json.Alike.put_comm sameKind _ _ _

/-- Alike subtrees have alike containers. -/
theorem alike_container {subtree others : Members Json}
    (alike : Json.Alike (.object subtree) (.object others)) (kind : String) :
    Json.Alike (.object ((container? kind subtree).getD []))
      (.object ((container? kind others).getD [])) := by
  obtain ⟨sameNames, each⟩ := Json.Alike.object_iff.mp alike
  cases held : Members.get? kind subtree with
  | none =>
      have otherHeld : Members.get? kind others = none := by
        rw [Members.get?_eq_none_iff] at held ⊢
        exact held ∘ sameNames.mem_iff.mpr
      simp only [container?, held, otherHeld]
      exact .same _
  | some part =>
      obtain ⟨otherPart, otherHeld⟩ :=
        Members.exists_get?_of_perm sameNames held
      have alikeParts := each kind part otherPart held otherHeld
      simp only [container?, held, otherHeld, Option.getD_some]
      cases alikeParts with
      | object sameMembers eachMember => exact .object sameMembers eachMember
      | same => exact .same _
      | array => exact .same _

theorem alike_placed {subtree others : Members Json}
    (alike : Json.Alike (.object subtree) (.object others))
    (kind name : String) (record : Json) :
    Json.Alike (.object (placed kind name record subtree))
      (.object (placed kind name record others)) :=
  alike.put kind ((alike_container alike kind).put name (.same record))

end Document

end Provision
