import Mathlib.Data.List.Perm.Basic
import Mathlib.Data.List.Nodup
import Provision.Members

/-!
Contract: what is bound in dictionaries, name by name.

Owns:
- the values that a list of pairs gives to one name, the last of which is
  bound in the dictionary that they build;
- that some members of a dictionary have distinct names, too;
- dictionaries that are the same but for the order of their members.

Does not own: the place that a name takes.
-/

namespace Provision.Members

variable {κ α : Type} [DecidableEq κ]

/-- All values that pairs give to a name, in order. -/
def valuesOf (name : κ) (pairs : List (κ × α)) : List α :=
  pairs.filterMap fun pair => if pair.1 = name then some pair.2 else none

/-- Of all values that are given to a name, the last one is bound. -/
theorem get?_ofPairs
    (name : κ)
    (pairs : List (κ × α)) :
    get? name (ofPairs pairs) = (valuesOf name pairs).getLast? := by
  suffices ∀ members : List (κ × α),
      get? name (pairs.foldl
        (fun members pair => put pair.1 pair.2 members) members) =
      (valuesOf name pairs).getLast?.or (get? name members) by
    simpa [ofPairs, get?] using this []
  induction pairs with
  | nil => intro members; rfl
  | cons pair rest inductionHypothesis =>
      intro members
      rw [List.foldl_cons, inductionHypothesis, get?_put]
      by_cases isHere : pair.1 = name
      · cases isLast : (valuesOf name rest).getLast? with
        | none =>
            rw [List.getLast?_eq_none_iff] at isLast
            simp only [valuesOf] at isLast
            simp [valuesOf, isHere, isLast]
        | some last =>
            simp only [valuesOf] at isLast
            simp [valuesOf, isHere, List.getLast?_cons, isLast]
      · simp [valuesOf, isHere, Ne.symm isHere]

/-- Under distinct names, a name has the one value that is bound to it. -/
theorem valuesOf_of_distinct
    {members : List (κ × α)}
    (distinct : Distinct members)
    (name : κ) :
    valuesOf name members = (get? name members).toList := by
  induction members with
  | nil => rfl
  | cons member rest inductionHypothesis =>
      obtain ⟨isNew, restDistinct⟩ := List.nodup_cons.mp distinct
      have ofRest := inductionHypothesis restDistinct
      simp only [valuesOf] at ofRest
      by_cases isHere : member.1 = name
      · have isUnbound : get? name rest = none := by
          rw [get?_eq_none_iff, ← isHere]
          exact isNew
        simp [valuesOf, get?, isHere, ofRest, isUnbound]
      · simp [valuesOf, get?, isHere, ofRest]

/-- Under distinct names, a pair is a member where its value is bound. -/
theorem mem_iff_get?_eq_some
    {members : List (κ × α)}
    (distinct : Distinct members)
    {name : κ}
    {value : α} :
    (name, value) ∈ members ↔ get? name members = some value :=
  ⟨get?_eq_some_of_mem distinct, mem_of_get?_eq_some⟩

omit [DecidableEq κ] in
/-- Some members of a dictionary have distinct names, too. -/
theorem Distinct.filter
    {members : List (κ × α)}
    (distinct : Distinct members)
    (kept : κ × α → Bool) :
    Distinct (members.filter kept) :=
  (List.filter_sublist.map Prod.fst).nodup distinct

/-- Two dictionaries have the same members where they bind the same. -/
theorem perm_iff_get?_eq
    {members others : List (κ × α)}
    (distinct : Distinct members)
    (otherDistinct : Distinct others) :
    members.Perm others ↔ ∀ name, get? name members = get? name others := by
  rw [List.perm_ext_iff_of_nodup distinct.of_map otherDistinct.of_map]
  simp only [Prod.forall, mem_iff_get?_eq_some distinct,
    mem_iff_get?_eq_some otherDistinct]
  exact forall_congr' fun name => Option.ext_iff.symm

end Provision.Members
