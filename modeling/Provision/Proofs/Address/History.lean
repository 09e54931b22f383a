import Mathlib.Data.List.Induction
import Provision.Proofs.Address.Text

/-!
Contract: addresses that are made one from another.

An address is made from texts, from an address that was made before, or by
reading a text.  Only the first two go through the checked constructor of a
segment; the reader makes its segments itself.  All three keep the rule that
every segment says something, which is what the last segment, the parent and
the way back from the parent rest on.

Owns:
- the operations that make addresses, and the history that they write;
- that every address of a history is well-formed;
- that a history is only ever continued;
- when the constructors stop, and how a node and its parent belong together.

Does not own: the grammar of address texts.
-/

namespace Provision

namespace Segment

variable {kind name : String}

theorem make_eq_ok_iff {segment : Segment} :
    make kind name = .ok segment ↔
      segment = ⟨kind, name⟩ ∧ segment.WellFormed := by
  constructor
  · intro isMade
    refine ⟨?_, wellFormed_of_make isMade⟩
    unfold make at isMade
    split at isMade
    · cases isMade
    · split at isMade
      · cases isMade
      · cases isMade
        rfl
  · rintro ⟨rfl, kindGiven, nameGiven⟩
    rw [make, if_neg kindGiven, if_neg nameGiven]

/-- A segment is refused where one of its texts is empty. -/
theorem exists_make_eq_error_iff :
    (∃ fault, make kind name = .error fault) ↔ kind = "" ∨ name = "" := by
  by_cases noKind : kind = ""
  · simp [make, noKind]
  · by_cases noName : name = ""
    · simp [make, noKind, noName]
    · simp [make, noKind, noName]

end Segment

namespace Address

/-! ## Nodes and their parents -/

section Family

variable {address above below : Address} {kind name : String}

theorem exists_map_make_eq_error_iff {α : Type} {place : Segment → α} :
    (∃ fault, (Segment.make kind name).map place = .error fault) ↔
      kind = "" ∨ name = "" := by
  rw [← Segment.exists_make_eq_error_iff]
  cases Segment.make kind name <;> simp [Except.map]

theorem child_eq_ok_iff :
    address.child kind name = .ok below ↔
      below = ⟨address.segments, ⟨kind, name⟩⟩ ∧ below.leaf.WellFormed := by
  rw [child]
  constructor
  · intro isMade
    cases leaf : Segment.make kind name with
    | error fault =>
        rw [leaf] at isMade
        cases isMade
    | ok segment =>
        rw [leaf] at isMade
        cases isMade
        obtain ⟨rfl, isFilled⟩ := Segment.make_eq_ok_iff.mp leaf
        exact ⟨rfl, isFilled⟩
  · rintro ⟨rfl, isFilled⟩
    rw [Segment.make_eq_ok_iff.mpr ⟨rfl, isFilled⟩]
    rfl

/-- The last segment stands at the last place, which there always is. -/
theorem getElem?_segments_length_sub_one (address : Address) :
    address.segments[address.segments.length - 1]? = some address.leaf := by
  rw [← List.getLast?_eq_getElem?, segments, List.getLast?_append]
  rfl

/-- Only an address of one segment has no parent. -/
theorem parent_eq_none_iff :
    address.parent = none ↔ address.segments.length = 1 := by
  rw [parent, Option.map_eq_none_iff, List.getLast?_eq_none_iff, segments,
    List.length_append, List.length_singleton, ← List.length_eq_zero_iff]
  omega

/-- The leaf leads back from the parent to the node. -/
theorem child_of_parent
    (wellFormed : address.WellFormed)
    (isParent : address.parent = some above) :
    above.child address.leaf.kind address.leaf.name = .ok address := by
  have isFilled : address.leaf.WellFormed :=
    wellFormed address.leaf (by simp [segments])
  apply child_eq_ok_iff.mpr
  refine ⟨?_, isFilled⟩
  rw [segments_of_parent isParent]

end Family

/-! ## Operations and their history -/

/-- One use of an operation that may make an address.  A base is an address
that was made before, named by its place in the history. -/
inductive Operation where
  | root (kind name : String)
  | subsystem (name : String)
  | child (base : Nat) (kind name : String)
  | parent (base : Nat)
  | parse (input : String)
deriving DecidableEq, Repr

/-- The address that an operation makes, if it makes one. -/
def Operation.made? (made : List Address) : Operation → Option Address
  | .root kind name => (Address.root kind name).toOption
  | .subsystem name => (Address.subsystem name).toOption
  | .child base kind name =>
      made[base]?.bind fun address => (address.child kind name).toOption
  | .parent base => made[base]?.bind Address.parent
  | .parse input => (Address.parse input).toOption

/-- The addresses that were made, with that of one more operation. -/
def Operation.record (made : List Address) (operation : Operation) :
    List Address :=
  made ++ (operation.made? made).toList

/-- All addresses that the operations make, in the order in which they are
made. -/
def history (operations : List Operation) : List Address :=
  operations.foldl Operation.record []

section History

variable {operations : List Operation} {operation : Operation}
  {made : List Address} {address : Address}

theorem toOption_eq_some_iff {ε α : Type} {result : Except ε α} {value : α} :
    result.toOption = some value ↔ result = .ok value := by
  cases result <;> simp [Except.toOption]

/-- Each operation makes a well-formed address from well-formed ones. -/
theorem wellFormed_of_made?
    (areWellFormed : ∀ earlier ∈ made, earlier.WellFormed)
    (isMade : operation.made? made = some address) : address.WellFormed := by
  have base_wellFormed : ∀ {base : Nat} {earlier : Address},
      made[base]? = some earlier → earlier.WellFormed :=
    fun isBase => areWellFormed _ (List.mem_of_getElem? isBase)
  cases operation with
  | root kind name =>
      exact wellFormed_of_root (toOption_eq_some_iff.mp isMade)
  | subsystem name =>
      exact wellFormed_of_root (toOption_eq_some_iff.mp isMade)
  | child base kind name =>
      obtain ⟨earlier, isBase, isChild⟩ := Option.bind_eq_some_iff.mp isMade
      exact (base_wellFormed isBase).child (toOption_eq_some_iff.mp isChild)
  | parent base =>
      obtain ⟨earlier, isBase, isParent⟩ := Option.bind_eq_some_iff.mp isMade
      exact (base_wellFormed isBase).parent isParent
  | parse input =>
      exact (parse_eq_ok_iff.mp (toOption_eq_some_iff.mp isMade)).2.1

theorem history_concat (operations : List Operation) (operation : Operation) :
    history (operations ++ [operation]) =
      history operations ++ (operation.made? (history operations)).toList := by
  rw [history, List.foldl_append]
  rfl

/-- Every address of a history is well-formed. -/
theorem wellFormed_of_mem_history :
    ∀ address ∈ history operations, address.WellFormed := by
  induction operations using List.reverseRecOn with
  | nil =>
      intro address isMember
      cases isMember
  | append_singleton operations operation inductionHypothesis =>
      intro address isMember
      rw [history_concat, List.mem_append, Option.mem_toList] at isMember
      rcases isMember with isEarlier | isMade
      · exact inductionHypothesis address isEarlier
      · exact wellFormed_of_made? inductionHypothesis isMade

/-- A history is continued by further operations, and not changed. -/
theorem history_prefix_append (operations later : List Operation) :
    history operations <+: history (operations ++ later) := by
  induction later using List.reverseRecOn with
  | nil => exact ⟨[], by rw [List.append_nil, List.append_nil]⟩
  | append_singleton later operation inductionHypothesis =>
      rw [← List.append_assoc, history_concat]
      exact inductionHypothesis.trans (List.prefix_append _ _)

end History

/-- What the reader finds in a text is at least one segment, and all of them
are well-formed. -/
theorem readSegments_pieces_filled {body : List Char} {found : List Segment}
    (areRead : readSegments (Text.pieces '/' body) = .ok found) :
    found ≠ [] ∧ ∀ segment ∈ found, segment.WellFormed := by
  obtain ⟨areSpelled, areFilled⟩ := readSegments_eq_ok_iff.mp areRead
  constructor
  · rintro rfl
    rw [Text.pieces_eq_splitOn] at areSpelled
    exact List.splitOn_ne_nil _ _ areSpelled
  · intro segment isMember
    exact (areFilled segment isMember).2

/-- **Every address that can be made is whole.**

In every history each address has a segment at its last place, which is its
leaf, and all its kinds and names say something.  A node below it is made for
every kind and name that say something; its parent is the address and its leaf
is made of the two.  The address has no parent exactly where it has one segment
only; otherwise its leaf leads from the parent back to it.

The constructors stop exactly where the kind or the name is empty.  The reader,
which makes its segments without them, finds at least one segment and only
well-formed ones.  What was made stays as it is, whatever is made later. -/
theorem every_made_address_is_whole :
    (∀ operations, ∀ address ∈ history operations,
      address.segments[address.segments.length - 1]? = some address.leaf ∧
      address.WellFormed ∧
      (∀ kind name, kind ≠ "" → name ≠ "" →
        ∃ below, address.child kind name = .ok below ∧
          below.parent = some address ∧ below.leaf = ⟨kind, name⟩) ∧
      (address.parent = none ↔ address.segments.length = 1) ∧
      ∀ above, address.parent = some above →
        above.child address.leaf.kind address.leaf.name = .ok address) ∧
    (∀ kind name : String,
      ((∃ fault, root kind name = .error fault) ↔ kind = "" ∨ name = "") ∧
      ∀ address : Address,
        (∃ fault, address.child kind name = .error fault) ↔
          kind = "" ∨ name = "") ∧
    (∀ (input : String) (found : List Segment),
      readSegments (Text.pieces '/' (withoutSlash input.toList)) = .ok found →
        found ≠ [] ∧ ∀ segment ∈ found, segment.WellFormed) ∧
    ∀ operations later, history operations <+: history (operations ++ later) := by
  refine ⟨?_, ?_, ?_, history_prefix_append⟩
  · intro operations address isMember
    have wellFormed := wellFormed_of_mem_history address isMember
    refine ⟨getElem?_segments_length_sub_one address, wellFormed, ?_,
      parent_eq_none_iff, fun above => child_of_parent wellFormed⟩
    intro kind name kindGiven nameGiven
    have isMade : address.child kind name =
        .ok ⟨address.segments, ⟨kind, name⟩⟩ :=
      child_eq_ok_iff.mpr ⟨rfl, kindGiven, nameGiven⟩
    exact ⟨_, isMade, parent_eq_of_child isMade, rfl⟩
  · intro kind name
    exact ⟨exists_map_make_eq_error_iff,
      fun address => exists_map_make_eq_error_iff⟩
  · intro input found areRead
    exact readSegments_pieces_filled areRead

/-- Operations of every kind, two of which make nothing. -/
def sampleOperations : List Operation :=
  [.subsystem "elytron", .child 0 "custom-realm" "", .parent 0,
    .parse "core=a/realm=b=c", .child 1 "key" "k", .parent 2]

/-- The address that the third of these operations to make one makes. -/
def keyAddress : Address :=
  ⟨[⟨"core", "a"⟩, ⟨"realm", "b=c"⟩], ⟨"key", "k"⟩⟩

theorem every_made_address_is_whole_sample :
    keyAddress ∈ history sampleOperations ∧ keyAddress.WellFormed ∧
    (∃ below, keyAddress.child "alias" "a" = .ok below ∧
      below.parent = some keyAddress ∧ below.leaf = ⟨"alias", "a"⟩) ∧
    keyAddress.parent = some ⟨[⟨"core", "a"⟩], ⟨"realm", "b=c"⟩⟩ ∧
    Address.child ⟨[⟨"core", "a"⟩], ⟨"realm", "b=c"⟩⟩ "key" "k" =
      .ok keyAddress ∧
    readSegments (Text.pieces '/' (withoutSlash "/a=b".toList)) =
      .ok [⟨"a", "b"⟩] ∧
    ∀ segment ∈ [(⟨"a", "b"⟩ : Segment)], segment.WellFormed := by
  obtain ⟨ofHistory, -, ofReader, -⟩ := every_made_address_is_whole
  have isMade : keyAddress ∈ history sampleOperations :=
    List.mem_of_getElem? (i := 2) rfl
  obtain ⟨-, wellFormed, hasChildren, -, leadsBack⟩ :=
    ofHistory sampleOperations keyAddress isMade
  have isParent :
      keyAddress.parent = some ⟨[⟨"core", "a"⟩], ⟨"realm", "b=c"⟩⟩ := rfl
  exact ⟨isMade, wellFormed,
    hasChildren "alias" "a" (by decide) (by decide), isParent,
    leadsBack _ isParent, rfl, (ofReader "/a=b" _ rfl).2⟩

end Address

end Provision
