import Mathlib.Data.List.Forall2
import Provision.Json.Basic

/-!
Contract: documents that are equal up to the order of object members.

Two objects are alike where they have the same names and hold alike values
under each of them; two arrays are alike item by item; anything else is alike
only to itself.

Owns:
- `Json.Alike`, which is an equivalence;
- the likeness of objects after one put, and after two puts in either order;
- the likeness of objects by look-ups and of arrays item by item.

Does not own: which documents a program makes alike.
-/

namespace Provision.Json

/-- Equality up to the order of object members, at every depth. -/
inductive Alike : Json → Json → Prop
  | same (document : Json) : Alike document document
  | array {items others : List Json}
      (sameLength : items.length = others.length)
      (each : ∀ (place : Nat) (item other : Json), items[place]? = some item →
        others[place]? = some other → Alike item other) :
      Alike (.array items) (.array others)
  | object {members others : List (String × Json)}
      (sameNames : (Members.names members).Perm (Members.names others))
      (each : ∀ (name : String) (value other : Json),
        Members.get? name members = some value →
        Members.get? name others = some other → Alike value other) :
      Alike (.object members) (.object others)

namespace Alike

/-! ## An equivalence -/

theorem symm {left right : Json} (alike : Alike left right) :
    Alike right left := by
  induction alike with
  | same document => exact .same document
  | array sameLength _ inductionHypothesis =>
      refine .array sameLength.symm fun place item other isItem isOther => ?_
      exact inductionHypothesis place other item isOther isItem
  | object sameNames _ inductionHypothesis =>
      refine .object sameNames.symm fun name value other held otherHeld => ?_
      exact inductionHypothesis name other value otherHeld held

theorem trans {left middle right : Json} (before : Alike left middle)
    (after : Alike middle right) : Alike left right := by
  induction before generalizing right with
  | same document => exact after
  | @array items between sameLength each inductionHypothesis =>
      cases after with
      | same => exact .array sameLength each
      | @array _ others sameLengthAfter eachAfter =>
          refine .array (sameLength.trans sameLengthAfter) ?_
          intro place item other isItem isOther
          have isInside : place < between.length := by
            rw [← sameLength]
            exact (List.getElem?_eq_some_iff.mp isItem).1
          have isBetween := List.getElem?_eq_getElem isInside
          exact inductionHypothesis place item _ isItem isBetween
            (eachAfter place _ other isBetween isOther)
  | @object members between sameNames each inductionHypothesis =>
      cases after with
      | same => exact .object sameNames each
      | @object _ others sameNamesAfter eachAfter =>
          refine .object (sameNames.trans sameNamesAfter) ?_
          intro name value other held otherHeld
          obtain ⟨part, isBetween⟩ := Members.exists_get?_of_perm sameNames held
          exact inductionHypothesis name value part held isBetween
            (eachAfter name part other isBetween otherHeld)

/-! ## Objects -/

variable {members others : List (String × Json)}

theorem object_iff :
    Alike (.object members) (.object others) ↔
      (Members.names members).Perm (Members.names others) ∧
        ∀ name value other, Members.get? name members = some value →
          Members.get? name others = some other → Alike value other := by
  constructor
  · intro alike
    cases alike with
    | same =>
        refine ⟨.refl _, fun name value other held otherHeld => ?_⟩
        rw [held] at otherHeld
        exact Option.some.inj otherHeld ▸ .same value
    | object sameNames each => exact ⟨sameNames, each⟩
  · rintro ⟨sameNames, each⟩
    exact .object sameNames each

/-- Objects with distinct names are alike where both hold nothing or alike
values under every name. -/
theorem of_lookups (distinct : Members.Distinct members)
    (otherDistinct : Members.Distinct others)
    (each : ∀ name, Option.Rel Alike (Members.get? name members)
      (Members.get? name others)) :
    Alike (.object members) (.object others) := by
  refine .object ?_ fun name value other held otherHeld => ?_
  · refine (List.perm_ext_iff_of_nodup distinct otherDistinct).mpr
      fun name => ?_
    rw [← Members.contains_eq_true_iff, ← Members.contains_eq_true_iff,
      Members.contains, Members.contains, Members.isSome_eq_of_rel (each name)]
  · have ofName := each name
    rw [held, otherHeld] at ofName
    cases ofName with
    | some alike => exact alike

/-- Putting alike values under one name keeps objects alike. -/
theorem put (alike : Alike (.object members) (.object others)) (name : String)
    {value other : Json} (alikeValues : Alike value other) :
    Alike (.object (Members.put name value members))
      (.object (Members.put name other others)) := by
  obtain ⟨sameNames, each⟩ := object_iff.mp alike
  refine .object ?_ fun asked held otherHeld isHeld isOtherHeld => ?_
  · rw [Members.names_put, Members.names_put]
    by_cases isBound : name ∈ Members.names members
    · rw [if_pos isBound, if_pos (sameNames.mem_iff.mp isBound)]
      exact sameNames
    · rw [if_neg isBound, if_neg (isBound ∘ sameNames.mem_iff.mpr)]
      exact sameNames.append_right _
  · rw [Members.get?_put] at isHeld isOtherHeld
    by_cases isAsked : asked = name
    · rw [if_pos isAsked, Option.some.injEq] at isHeld isOtherHeld
      exact isHeld ▸ isOtherHeld ▸ alikeValues
    · rw [if_neg isAsked] at isHeld isOtherHeld
      exact each asked held otherHeld isHeld isOtherHeld

/-- Two puts under different names may change places. -/
theorem put_comm {name other : String} (isOther : name ≠ other)
    (value otherValue : Json) (members : List (String × Json)) :
    Alike
      (.object (Members.put name value (Members.put other otherValue members)))
      (.object
        (Members.put other otherValue (Members.put name value members))) := by
  refine .object ?_ fun asked left right isLeft isRight => ?_
  · simp only [Members.names_put]
    by_cases isBound : name ∈ Members.names members <;>
      by_cases isOtherBound : other ∈ Members.names members <;>
      simp [isBound, isOtherBound, isOther, Ne.symm isOther]
    exact (List.Perm.swap name other []).append_left _
  · have isSame : left = right := by
      simp only [Members.get?_put] at isLeft isRight
      by_cases isAsked : asked = name
      · simp_all
      · simp_all
    exact isSame ▸ .same left

/-! ## Arrays -/

theorem of_forall₂ {items others : List Json}
    (all : List.Forall₂ Alike items others) :
    Alike (.array items) (.array others) := by
  refine .array all.length_eq fun place item other isItem isOther => ?_
  obtain ⟨isInside, rfl⟩ := List.getElem?_eq_some_iff.mp isItem
  obtain ⟨isInsideOther, rfl⟩ := List.getElem?_eq_some_iff.mp isOther
  exact all.get isInside isInsideOther

end Alike

end Provision.Json
