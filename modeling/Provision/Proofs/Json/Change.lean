import Provision.Json.Pointer

/-!
Contract: what it means that a document differs from another one at one path.

A change goes down a path and leaves everything beside the path as it is, in
its place.  Where the path leaves the document, the change makes an object
with the one member that the path asks for, behind the members that are there.

Owns:
- the tokens that name the positions of an array;
- `ChangedAt`, with one case for each way in which a path goes on;
- what is found in a changed document: at the path, below it and beside it;
- that a document, a path and a part determine the changed document;
- the update along a path as such a change.

Does not own: which program makes a change.
-/

namespace Provision.Json

/-! ## Positions -/

namespace Pointer

/-- A position is named by its decimal digits and by nothing else. -/
theorem eq_decimal_of_position? {token : String} {place : Nat}
    (isPlace : position? token = some place) :
    token = String.ofList (Text.decimal place) := by
  unfold position? Text.readNatural at isPlace
  dsimp only at isPlace
  split at isPlace
  · cases isPlace
  · next isPlain =>
      split at isPlace
      · cases isPlace
      · next areDigits =>
          rw [← Option.some.inj isPlace]
          cases digits : token.toList with
          | nil => simp [digits] at areDigits
          | cons first others =>
              have allDigits : ∀ digit ∈ first :: others,
                  Text.isDecimal digit = true := by
                simpa [digits, Text.isDecimal] using areDigits
              have isShort : first = '0' → others = [] := by
                simpa [digits] using isPlain
              rw [Text.decimal_digitsFrom allDigits isShort, ← digits,
                String.ofList_toList]

/-- No two tokens name one position. -/
theorem eq_of_position? {token other : String} {place : Nat}
    (isPlace : position? token = some place)
    (isOtherPlace : position? other = some place) : token = other :=
  (eq_decimal_of_position? isPlace).trans
    (eq_decimal_of_position? isOtherPlace).symm

end Pointer

/-! ## Documents that differ at one path -/

/-- The second document has the part at the end of the path and is the first
document everywhere else. -/
inductive ChangedAt (part : Json) : List String → Json → Json → Prop
  | here (old : Json) : ChangedAt part [] old part
  | member {token : String} {rest : List String}
      {before after : Members Json} {below changed : Json}
      (isFirst : token ∉ Members.names before)
      (inside : ChangedAt part rest below changed) :
      ChangedAt part (token :: rest)
        (.object (before ++ (token, below) :: after))
        (.object (before ++ (token, changed) :: after))
  | item {token : String} {rest : List String}
      {before after : List Json} {below changed : Json}
      (isPlace : Pointer.position? token = some before.length)
      (inside : ChangedAt part rest below changed) :
      ChangedAt part (token :: rest) (.array (before ++ below :: after))
        (.array (before ++ changed :: after))
  | newMember {token : String} {rest : List String} {members : Members Json}
      {changed : Json} (isNew : token ∉ Members.names members)
      (inside : ChangedAt part rest (.object []) changed) :
      ChangedAt part (token :: rest) (.object members)
        (.object (members ++ [(token, changed)]))

namespace ChangedAt

variable {part document changed : Json} {path : List String}

/-- A change in an object puts one member, whose old value counts as an empty
object where there is none. -/
theorem object_iff {token : String} {rest : List String}
    {members : Members Json} :
    ChangedAt part (token :: rest) (.object members) changed ↔
      ∃ below, changed = .object (Members.put token below members) ∧
        ChangedAt part rest ((Members.get? token members).getD (.object []))
          below := by
  constructor
  · intro changes
    cases changes with
    | @member _ _ before after below changed isFirst inside =>
        refine ⟨changed, by rw [Members.put_append_cons _ _ isFirst], ?_⟩
        rwa [Members.get?_append_cons _ isFirst]
    | @newMember _ _ _ changed isNew inside =>
        refine ⟨changed, by rw [Members.put_of_not_mem _ isNew], ?_⟩
        rwa [(Members.get?_eq_none_iff _ _).mpr isNew]
  · rintro ⟨below, rfl, inside⟩
    cases held : Members.get? token members with
    | none =>
        have isNew := (Members.get?_eq_none_iff _ _).mp held
        rw [held] at inside
        rw [Members.put_of_not_mem _ isNew]
        exact .newMember isNew inside
    | some old =>
        obtain ⟨before, after, rfl, isFirst⟩ :=
          Members.exists_eq_append_cons held
        rw [held] at inside
        rw [Members.put_append_cons _ _ isFirst]
        exact .member isFirst inside

/-- A change in an array replaces one item that is there. -/
theorem array_iff {token : String} {rest : List String} {items : List Json} :
    ChangedAt part (token :: rest) (.array items) changed ↔
      ∃ place old below, Pointer.position? token = some place ∧
        items[place]? = some old ∧ ChangedAt part rest old below ∧
        changed = .array (items.set place below) := by
  constructor
  · intro changes
    cases changes with
    | @item _ _ before after below changed isPlace inside =>
        exact ⟨before.length, below, changed, isPlace, by simp, inside,
          by simp⟩
  · rintro ⟨place, old, below, isPlace, isOld, inside, rfl⟩
    obtain ⟨isInside, rfl⟩ := List.getElem?_eq_some_iff.mp isOld
    have isLength : (items.take place).length = place :=
      List.length_take_of_le (Nat.le_of_lt isInside)
    have splitOld : items =
        items.take place ++ items[place] :: items.drop (place + 1) := by
      simp
    rw [List.set_eq_take_append_cons_drop, if_pos isInside]
    conv => arg 3; rw [splitOld]
    exact .item (by rw [isLength, isPlace]) inside

/-- One token down the path the change goes on, where nothing counts as an
empty object; down any other token there is what was there. -/
theorem step {token : String} {rest : List String}
    (changes : ChangedAt part (token :: rest) document changed) :
    ∃ below, changed.child? token = some below ∧
      ChangedAt part rest ((document.child? token).getD (.object [])) below ∧
      ∀ other ≠ token, changed.child? other = document.child? other := by
  cases document with
  | object members =>
      obtain ⟨below, rfl, inside⟩ := object_iff.mp changes
      refine ⟨below, by simp [child?, Members.get?_put], inside, ?_⟩
      intro other isOther
      simp [child?, Members.get?_put, isOther]
  | array items =>
      obtain ⟨place, old, below, isPlace, isOld, inside, rfl⟩ :=
        array_iff.mp changes
      obtain ⟨isInside, -⟩ := List.getElem?_eq_some_iff.mp isOld
      refine ⟨below, by simp [child?, isPlace, isInside],
        by simpa [child?, isPlace, isOld] using inside, ?_⟩
      intro other isOther
      simp only [child?]
      cases isOtherPlace : Pointer.position? other with
      | none => rfl
      | some otherPlace =>
          have isElsewhere : place ≠ otherPlace := fun same =>
            isOther (Pointer.eq_of_position? isOtherPlace (same ▸ isPlace))
          rw [Option.bind_some, Option.bind_some,
            List.getElem?_set_ne isElsewhere]
  | _ => cases changes

/-- What was put there is found at the path, and below it what belongs to it. -/
theorem at?_append_eq (changes : ChangedAt part path document changed)
    (more : List String) : changed.at? (path ++ more) = part.at? more := by
  induction path generalizing document changed with
  | nil =>
      cases changes
      rfl
  | cons token rest inductionHypothesis =>
      obtain ⟨below, isBelow, inside, -⟩ := changes.step
      rw [List.cons_append, at?, isBelow, Option.bind_some,
        inductionHypothesis inside]

theorem at?_eq (changes : ChangedAt part path document changed) :
    changed.at? path = some part := by
  simpa [at?] using changes.at?_append_eq []

/-- Beside the path, everything is found as before. -/
theorem at?_eq_of_beside (changes : ChangedAt part path document changed)
    {other : List String} (isAbove : ¬ other <+: path)
    (isBelow : ¬ path <+: other) : changed.at? other = document.at? other := by
  induction path generalizing document changed other with
  | nil => exact absurd List.nil_prefix isBelow
  | cons token rest inductionHypothesis =>
      obtain ⟨below, isChild, inside, others⟩ := changes.step
      cases other with
      | nil => exact absurd List.nil_prefix isAbove
      | cons asked more =>
          by_cases isAsked : asked = token
          · subst isAsked
            simp only [List.cons_prefix_cons, true_and] at isAbove isBelow
            rw [at?, at?, isChild, Option.bind_some,
              inductionHypothesis inside isAbove isBelow]
            cases document.child? asked with
            | some old => rfl
            | none =>
                -- An empty object was not there, but nothing is found in one.
                cases more with
                | nil => exact absurd List.nil_prefix isAbove
                | cons => rfl
          · rw [at?, at?, others asked isAsked]

/-- There is one change of a document that puts the part at the path. -/
theorem unique {other : Json} (changes : ChangedAt part path document changed)
    (changesToo : ChangedAt part path document other) : changed = other := by
  induction path generalizing document changed other with
  | nil =>
      cases changes
      cases changesToo
      rfl
  | cons token rest inductionHypothesis =>
      cases document with
      | object members =>
          obtain ⟨below, rfl, inside⟩ := object_iff.mp changes
          obtain ⟨otherBelow, rfl, insideToo⟩ := object_iff.mp changesToo
          rw [inductionHypothesis inside insideToo]
      | array items =>
          obtain ⟨place, old, below, isPlace, isOld, inside, rfl⟩ :=
            array_iff.mp changes
          obtain ⟨otherPlace, otherOld, otherBelow, isOtherPlace, isOtherOld,
            insideToo, rfl⟩ := array_iff.mp changesToo
          obtain rfl : place = otherPlace :=
            Option.some.inj (isPlace.symm.trans isOtherPlace)
          obtain rfl : old = otherOld :=
            Option.some.inj (isOld.symm.trans isOtherOld)
          rw [inductionHypothesis inside insideToo]
      | _ => cases changes

/-- An update at the end of a path, where what is put there is a change of
what was there, is a change at the longer path. -/
theorem replaceAt {below old : Json} {rest : List String}
    (located : document.at? path = some old)
    (changes : ChangedAt part rest old below) :
    ChangedAt part (path ++ rest) document (document.replaceAt path below) := by
  induction path generalizing document with
  | nil =>
      obtain rfl : document = old := Option.some.inj located
      exact changes
  | cons token above inductionHypothesis =>
      simp only [at?, Option.bind_eq_some_iff] at located
      obtain ⟨child, isChild, located⟩ := located
      have inside := inductionHypothesis located
      rw [List.cons_append, Json.replaceAt, isChild]
      cases document with
      | object members =>
          have held : Members.get? token members = some child := isChild
          have isThere : Members.contains token members = true := by
            simp [Members.contains, held]
          simp only [replaceChild, isThere, if_true]
          exact object_iff.mpr ⟨_, rfl, by rwa [held]⟩
      | array items =>
          simp only [child?, Option.bind_eq_some_iff] at isChild
          obtain ⟨place, isPlace, isItem⟩ := isChild
          simp only [replaceChild, isPlace]
          exact array_iff.mpr ⟨place, child, _, isPlace, isItem, inside, rfl⟩
      | _ => cases isChild

end ChangedAt

end Provision.Json
