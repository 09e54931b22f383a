/-!
Contract: ordered dictionaries.

A dictionary is the list of its members in the order in which their names
were first put.  Value sets, transform parameters and data documents all keep
their members this way, with texts as names; a session keeps its nodes under
their addresses.

Owns:
- `put`, which keeps the place of a name that is already there;
- `get?`, `contains`, `erase` and `names`;
- `ofPairs`, the dictionary that a list of pairs builds from left to right;
- the equations of `get?` and `names` for each operation;
- what is left of a dictionary by a put, an erasure or a list of pairs;
- where the member of a name stands;
- look-ups in two dictionaries that are related.

Does not own: what the values are, or which names are meaningful.
-/

namespace Provision

/-- The members of an ordered dictionary with text keys. -/
abbrev Members (α : Type) := List (String × α)

namespace Members

variable {κ α : Type} [DecidableEq κ]

/-- Binds a name to a value.  A name that is there keeps its place and gets
the new value; a new name goes to the end. -/
def put (name : κ) (value : α) : List (κ × α) → List (κ × α)
  | [] => [(name, value)]
  | member :: rest =>
      if member.1 = name then (name, value) :: rest
      else member :: put name value rest

def get? (name : κ) : List (κ × α) → Option α
  | [] => none
  | member :: rest => if member.1 = name then some member.2 else get? name rest

def contains (name : κ) (members : List (κ × α)) : Bool :=
  (get? name members).isSome

/-- Takes a name out; the other members keep their order. -/
def erase (name : κ) (members : List (κ × α)) : List (κ × α) :=
  members.filter fun member => member.1 ≠ name

/-- The bound names in order. -/
def names (members : List (κ × α)) : List κ :=
  members.map Prod.fst

/-- The dictionary that the pairs build when they are put one after the
other: each name once, where it came first, with the value that came last. -/
def ofPairs (pairs : List (κ × α)) : List (κ × α) :=
  pairs.foldl (fun members pair => put pair.1 pair.2 members) []

/-- The names are pairwise distinct. -/
def Distinct (members : List (κ × α)) : Prop :=
  (names members).Nodup

instance (members : List (κ × α)) : Decidable (Distinct members) :=
  inferInstanceAs (Decidable (names members).Nodup)

/-! ## What the operations do to the view -/

/-- Putting a member changes what is bound to its name and nothing else. -/
theorem get?_put (name other : κ) (value : α) (members : List (κ × α)) :
    get? other (put name value members) =
      if other = name then some value else get? other members := by
  induction members with
  | nil => simp [put, get?, eq_comm]
  | cons member rest inductionHypothesis =>
      by_cases isHere : member.1 = name
      · by_cases isAsked : other = name
        · simp [put, get?, isHere, isAsked]
        · simp [put, get?, isHere, isAsked, Ne.symm isAsked]
      · by_cases isOther : member.1 = other
        · have isDifferent : other ≠ name := fun same =>
            isHere (isOther.trans same)
          simp [put, get?, isOther, isDifferent]
        · simp [put, get?, isHere, isOther, inductionHypothesis]

/-- Erasing a name unbinds it and nothing else. -/
theorem get?_erase (name other : κ) (members : List (κ × α)) :
    get? other (erase name members) =
      if other = name then none else get? other members := by
  induction members with
  | nil => simp [erase, get?]
  | cons member rest inductionHypothesis =>
      simp only [erase, ne_eq, decide_not] at inductionHypothesis ⊢
      by_cases isHere : member.1 = name
      · by_cases isAsked : other = name
        · subst isAsked
          simpa [isHere] using inductionHypothesis
        · simp [get?, isHere, inductionHypothesis, isAsked, Ne.symm isAsked]
      · by_cases isOther : member.1 = other
        · have isDifferent : other ≠ name := fun same =>
            isHere (isOther.trans same)
          simp [get?, isOther, isDifferent]
        · simp [get?, isHere, isOther, inductionHypothesis]

/-- Keeping some names unbinds the other ones. -/
theorem get?_filter (keep : κ → Bool) (name : κ) (members : List (κ × α)) :
    get? name (members.filter fun member => keep member.1) =
      if keep name then get? name members else none := by
  induction members with
  | nil => simp [get?]
  | cons member rest inductionHypothesis =>
      by_cases isHere : member.1 = name
      · subst isHere
        by_cases isKept : keep member.1 = true
        · simp [get?, isKept]
        · simpa [isKept] using inductionHypothesis
      · by_cases isKept : keep member.1 = true <;>
          simp [get?, isHere, isKept, inductionHypothesis]

/-- A name is bound where it occurs among the names. -/
theorem contains_eq_true_iff (name : κ) (members : List (κ × α)) :
    contains name members = true ↔ name ∈ names members := by
  induction members with
  | nil => simp [contains, get?, names]
  | cons member rest inductionHypothesis =>
      simp only [contains, names] at inductionHypothesis
      by_cases isHere : member.1 = name
      · simp [contains, get?, names, isHere]
      · simp [contains, get?, names, isHere, inductionHypothesis,
          Ne.symm isHere]

/-- What is bound to a name is a member. -/
theorem mem_of_get?_eq_some {name : κ} {value : α}
    {members : List (κ × α)} (found : get? name members = some value) :
    (name, value) ∈ members := by
  induction members with
  | nil => simp [get?] at found
  | cons member rest inductionHypothesis =>
      by_cases isHere : member.1 = name
      · have isValue : member.2 = value := by
          simpa [get?, isHere] using found
        subst isHere isValue
        simp
      · have inRest : get? name rest = some value := by
          simpa [get?, isHere] using found
        exact List.mem_cons_of_mem _ (inductionHypothesis inRest)

/-- Under distinct names, every member is bound to its name. -/
theorem get?_eq_some_of_mem {members : List (κ × α)}
    (distinct : Distinct members) {name : κ} {value : α}
    (isMember : (name, value) ∈ members) : get? name members = some value := by
  induction members with
  | nil => simp at isMember
  | cons member rest inductionHypothesis =>
      obtain ⟨isNew, restDistinct⟩ := List.nodup_cons.mp distinct
      rcases List.mem_cons.mp isMember with rfl | inRest
      · simp [get?]
      · have isOther : member.1 ≠ name := fun same =>
          isNew (same ▸ List.mem_map_of_mem inRest)
        simp [get?, isOther, inductionHypothesis restDistinct inRest]

/-- Changing every value changes what is bound to a name alike. -/
theorem get?_map {β : Type} (change : α → β) (name : κ)
    (members : List (κ × α)) :
    get? name (members.map fun member => (member.1, change member.2)) =
      (get? name members).map change := by
  induction members with
  | nil => rfl
  | cons member rest inductionHypothesis =>
      by_cases isHere : member.1 = name <;>
        simp [get?, isHere, inductionHypothesis]

omit [DecidableEq κ] in
theorem names_map {β : Type} (change : α → β) (members : List (κ × α)) :
    names (members.map fun member => (member.1, change member.2)) =
      names members := by
  simp [names, Function.comp_def]

theorem put_ne_nil (name : κ) (value : α) (members : List (κ × α)) :
    put name value members ≠ [] := by
  cases members with
  | nil => simp [put]
  | cons member rest =>
      by_cases isHere : member.1 = name <;> simp [put, isHere]

/-- Pairs build a dictionary that is not empty. -/
theorem ofPairs_cons_ne_nil (pair : κ × α) (pairs : List (κ × α)) :
    ofPairs (pair :: pairs) ≠ [] := by
  suffices ∀ members : List (κ × α), members ≠ [] →
      pairs.foldl (fun members pair => put pair.1 pair.2 members) members ≠
        [] from
    this _ (put_ne_nil pair.1 pair.2 [])
  induction pairs with
  | nil => exact fun _ isFilled => isFilled
  | cons next rest inductionHypothesis =>
      exact fun members _ =>
        inductionHypothesis _ (put_ne_nil next.1 next.2 members)

/-- Values may be changed before or after a dictionary is built. -/
theorem map_ofPairs {β : Type} (change : α → β) (pairs : List (κ × α)) :
    (ofPairs pairs).map (fun member => (member.1, change member.2)) =
      ofPairs (pairs.map fun pair => (pair.1, change pair.2)) := by
  have map_put : ∀ (name : κ) (value : α) (members : List (κ × α)),
      (put name value members).map
          (fun member => (member.1, change member.2)) =
        put name (change value)
          (members.map fun member => (member.1, change member.2)) := by
    intro name value members
    induction members with
    | nil => rfl
    | cons member rest inductionHypothesis =>
        by_cases isHere : member.1 = name <;>
          simp [put, isHere, inductionHypothesis]
  suffices ∀ members : List (κ × α),
      (pairs.foldl (fun members pair => put pair.1 pair.2 members)
          members).map (fun member => (member.1, change member.2)) =
        (pairs.map fun pair => (pair.1, change pair.2)).foldl
          (fun members pair => put pair.1 pair.2 members)
          (members.map fun member => (member.1, change member.2)) from this []
  induction pairs with
  | nil => exact fun _ => rfl
  | cons pair rest inductionHypothesis =>
      intro members
      rw [List.foldl_cons, inductionHypothesis, map_put]
      rfl

/-- The names after a put: the same ones, or one more at the end. -/
theorem names_put (name : κ) (value : α) (members : List (κ × α)) :
    names (put name value members) =
      if name ∈ names members then names members
      else names members ++ [name] := by
  induction members with
  | nil => simp [put, names]
  | cons member rest inductionHypothesis =>
      by_cases isHere : member.1 = name
      · simp [put, names, isHere]
      · simp only [names] at inductionHypothesis
        by_cases isThere : name ∈ rest.map Prod.fst
        · simp [put, names, isHere, Ne.symm isHere, inductionHypothesis,
            isThere]
        · simp only [put, names, if_neg isHere, List.map_cons,
            inductionHypothesis, List.mem_cons, Ne.symm isHere, isThere,
            or_self, if_false, List.cons_append]

theorem mem_names_put {name other : κ} {value : α} {members : List (κ × α)} :
    other ∈ names (put name value members) ↔
      other = name ∨ other ∈ names members := by
  rw [names_put]
  by_cases isThere : name ∈ names members
  · rw [if_pos isThere]
    exact ⟨Or.inr, fun isOther => isOther.elim (· ▸ isThere) id⟩
  · rw [if_neg isThere, List.mem_append, List.mem_singleton, or_comm]

/-- Putting a member keeps the names distinct. -/
theorem Distinct.put {members : List (κ × α)} (distinct : Distinct members)
    (name : κ) (value : α) : Distinct (put name value members) := by
  unfold Distinct at distinct ⊢
  rw [names_put]
  split
  · exact distinct
  · next isNew =>
      refine List.nodup_append.mpr ⟨distinct, by simp, ?_⟩
      intro old isOld new isOnly same
      have : new = name := by simpa using isOnly
      exact isNew (this ▸ same ▸ isOld)

/-- The names of a built dictionary are distinct. -/
theorem distinct_ofPairs (pairs : List (κ × α)) :
    Distinct (ofPairs pairs) := by
  suffices ∀ members : List (κ × α), Distinct members →
      Distinct (pairs.foldl
        (fun members pair => Members.put pair.1 pair.2 members) members) from
    this [] List.nodup_nil
  induction pairs with
  | nil => exact fun _ distinct => distinct
  | cons pair rest inductionHypothesis =>
      exact fun members distinct =>
        inductionHypothesis _ (distinct.put pair.1 pair.2)

/-- Nothing is bound to a name that does not occur. -/
theorem get?_eq_none_iff (name : κ) (members : List (κ × α)) :
    get? name members = none ↔ name ∉ names members := by
  rw [← contains_eq_true_iff, contains]
  simp

/-- Members with the same names are bound under the same names. -/
theorem exists_get?_of_perm {β : Type} {members : List (κ × α)}
    {others : List (κ × β)} (sameNames : (names members).Perm (names others))
    {name : κ} {value : α} (held : get? name members = some value) :
    ∃ other, get? name others = some other := by
  have isBound : name ∈ names members :=
    List.mem_map_of_mem (mem_of_get?_eq_some held)
  have isOtherBound := sameNames.mem_iff.mp isBound
  rw [← contains_eq_true_iff, contains] at isOtherBound
  exact Option.isSome_iff_exists.mp isOtherBound

/-- Erasing a name that is not bound changes nothing. -/
theorem erase_of_get?_eq_none {name : κ} {members : List (κ × α)}
    (unbound : get? name members = none) : erase name members = members := by
  rw [get?_eq_none_iff] at unbound
  refine List.filter_eq_self.mpr fun member isMember => ?_
  have isOther : member.1 ≠ name := fun same =>
    unbound (same ▸ List.mem_map_of_mem isMember)
  simpa using isOther

/-- A new name goes to the end. -/
theorem put_of_not_mem {name : κ} (value : α) {members : List (κ × α)}
    (isNew : name ∉ names members) :
    put name value members = members ++ [(name, value)] := by
  induction members with
  | nil => rfl
  | cons member rest inductionHypothesis =>
      simp only [names, List.map_cons, List.mem_cons, not_or] at isNew
      simp [put, Ne.symm isNew.1, inductionHypothesis isNew.2]

/-- The first member of a name is the one that is bound to it. -/
theorem get?_append_cons {name : κ} (value : α) {before : List (κ × α)}
    (isFirst : name ∉ names before) (after : List (κ × α)) :
    get? name (before ++ (name, value) :: after) = some value := by
  induction before with
  | nil => simp [get?]
  | cons member rest inductionHypothesis =>
      simp only [names, List.map_cons, List.mem_cons, not_or] at isFirst
      simp [get?, Ne.symm isFirst.1, inductionHypothesis isFirst.2]

/-- A name that is there keeps its place. -/
theorem put_append_cons {name : κ} (newer older : α) {before : List (κ × α)}
    (isFirst : name ∉ names before) (after : List (κ × α)) :
    put name newer (before ++ (name, older) :: after) =
      before ++ (name, newer) :: after := by
  induction before with
  | nil => simp [put]
  | cons member rest inductionHypothesis =>
      simp only [names, List.map_cons, List.mem_cons, not_or] at isFirst
      simp [put, Ne.symm isFirst.1, inductionHypothesis isFirst.2]

/-- What is bound to a name stands behind members of other names. -/
theorem exists_eq_append_cons {name : κ} {value : α}
    {members : List (κ × α)} (found : get? name members = some value) :
    ∃ before after, members = before ++ (name, value) :: after ∧
      name ∉ names before := by
  induction members with
  | nil => simp [get?] at found
  | cons member rest inductionHypothesis =>
      by_cases isHere : member.1 = name
      · simp only [get?, if_pos isHere, Option.some.injEq] at found
        subst isHere found
        exact ⟨[], rest, rfl, by simp [names]⟩
      · simp only [get?, if_neg isHere] at found
        obtain ⟨before, after, rfl, isFirst⟩ := inductionHypothesis found
        refine ⟨member :: before, after, rfl, ?_⟩
        simpa [names, Ne.symm isHere] using isFirst

/-- The later of two puts under one name counts. -/
theorem put_put (name : κ) (newer older : α) (members : List (κ × α)) :
    put name newer (put name older members) = put name newer members := by
  induction members with
  | nil => simp [put]
  | cons member rest inductionHypothesis =>
      by_cases isHere : member.1 = name
      · simp [put, isHere]
      · simp [put, isHere, inductionHypothesis]

/-- Putting what is bound already changes nothing. -/
theorem put_of_get?_eq_some {name : κ} {value : α} {members : List (κ × α)}
    (found : get? name members = some value) :
    put name value members = members := by
  induction members with
  | nil => simp [get?] at found
  | cons member rest inductionHypothesis =>
      by_cases isHere : member.1 = name
      · simp only [get?, if_pos isHere, Option.some.injEq] at found
        subst isHere found
        simp [put]
      · simp only [get?, if_neg isHere] at found
        simp [put, isHere, inductionHypothesis found]

/-- A put under a name that is bound and one under another name may change
places, as the first keeps its place. -/
theorem put_comm_of_mem {name other : κ} (isOther : name ≠ other)
    (value otherValue : α) {members : List (κ × α)}
    (isBound : name ∈ names members) :
    put name value (put other otherValue members) =
      put other otherValue (put name value members) := by
  induction members with
  | nil => simp [names] at isBound
  | cons member rest inductionHypothesis =>
      by_cases isHere : member.1 = name
      · simp [put, isHere, isOther]
      · have inRest : name ∈ names rest := by
          simpa [names, Ne.symm isHere] using isBound
        by_cases isThere : member.1 = other
        · simp [put, isThere, Ne.symm isOther]
        · simp [put, isHere, isThere, inductionHypothesis inRest]

/-- What a put leaves behind is the new member and old ones. -/
theorem mem_of_mem_put {name : κ} {value : α} {member : κ × α}
    {members : List (κ × α)} (isMember : member ∈ put name value members) :
    member = (name, value) ∨ member ∈ members := by
  induction members with
  | nil => exact Or.inl (by simpa [put] using isMember)
  | cons first rest inductionHypothesis =>
      by_cases isHere : first.1 = name
      · simp only [put, if_pos isHere, List.mem_cons] at isMember ⊢
        exact isMember.imp_right Or.inr
      · simp only [put, if_neg isHere, List.mem_cons] at isMember ⊢
        rcases isMember with isFirst | inRest
        · exact Or.inr (Or.inl isFirst)
        · exact (inductionHypothesis inRest).imp_right Or.inr

/-- Pairs with new and distinct names go to the end one after the other. -/
theorem foldl_put_of_distinct {members pairs : List (κ × α)}
    (distinct : Distinct (members ++ pairs)) :
    pairs.foldl (fun members pair => put pair.1 pair.2 members) members =
      members ++ pairs := by
  induction pairs generalizing members with
  | nil => simp
  | cons pair rest inductionHypothesis =>
      have isNew : pair.1 ∉ names members := by
        intro isOld
        simp only [Distinct, names, List.map_append, List.map_cons] at distinct
        exact (List.nodup_append.mp distinct).2.2 _ isOld _ (by simp) rfl
      rw [List.foldl_cons, put_of_not_mem pair.2 isNew,
        inductionHypothesis (by simpa using distinct)]
      simp

/-- Pairs with distinct names are the dictionary that they build. -/
theorem ofPairs_of_distinct {pairs : List (κ × α)}
    (distinct : Distinct pairs) : ofPairs pairs = pairs :=
  foldl_put_of_distinct distinct

/-- Each member of a built dictionary is one of the pairs. -/
theorem mem_of_mem_ofPairs {member : κ × α} {pairs : List (κ × α)}
    (isMember : member ∈ ofPairs pairs) : member ∈ pairs := by
  suffices ∀ members : List (κ × α),
      member ∈ pairs.foldl
        (fun members pair => put pair.1 pair.2 members) members →
      member ∈ members ∨ member ∈ pairs from
    (this [] isMember).resolve_left (by simp)
  clear isMember
  induction pairs with
  | nil => exact fun _ isOld => Or.inl isOld
  | cons pair rest inductionHypothesis =>
      intro members isMember
      rcases inductionHypothesis _ isMember with isPut | inRest
      · rcases mem_of_mem_put isPut with isPair | isOld
        · exact Or.inr (by simp [isPair])
        · exact Or.inl isOld
      · exact Or.inr (List.mem_cons_of_mem _ inRest)

/-! ## Look-ups that are related -/

section Related

variable {β γ : Type} {Related : β → γ → Prop}

theorem isSome_eq_of_rel {found : Option β} {other : Option γ}
    (related : Option.Rel Related found other) :
    found.isSome = other.isSome := by
  cases related <;> rfl

theorem eq_none_of_rel_none {other : Option γ}
    (related : Option.Rel Related none other) : other = none := by
  cases related
  rfl

theorem exists_of_rel_some {value : β} {other : Option γ}
    (related : Option.Rel Related (some value) other) :
    ∃ otherValue, other = some otherValue ∧ Related value otherValue := by
  cases related with
  | some isRelated => exact ⟨_, rfl, isRelated⟩

theorem exists_of_some_rel {found : Option β} {other : γ}
    (related : Option.Rel Related found (some other)) :
    ∃ value, found = some value ∧ Related value other := by
  cases related with
  | some isRelated => exact ⟨_, rfl, isRelated⟩

end Related

end Members

end Provision
