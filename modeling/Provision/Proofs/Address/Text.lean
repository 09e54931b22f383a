import Provision.Address

/-!
Contract: which texts are addresses, and which addresses are their texts.

A text is cut at every slash and each part at its first equals sign.  So a
kind with one of the two marks and a name with a slash do not come back as
they were written; everything else does.

Owns:
- that every address that is made is well-formed;
- the spelling of a segment, and the segments whose spelling is read back;
- the law of each step of the reader, as an equivalence;
- the grammar of address texts, and the addresses that survive a round trip.

Does not own: pointers, and which refusal a text gets.
-/

namespace Provision

namespace Segment

/-- The characters of a segment behind its slash. -/
def spelling (segment : Segment) : List Char :=
  segment.kind.toList ++ '=' :: segment.name.toList

/-- Nothing in the segment is taken for a mark of the text around it. -/
structure IsPlain (segment : Segment) : Prop where
  kindHasNoSlash : '/' ∉ segment.kind.toList
  kindHasNoEquals : '=' ∉ segment.kind.toList
  nameHasNoSlash : '/' ∉ segment.name.toList

/-- A part spells a segment where it has an equals sign, with a text before
the first one and a text behind it. -/
def IsSpelling (part : List Char) : Prop :=
  ∃ kind name, part = kind ++ '=' :: name ∧ '=' ∉ kind ∧ kind ≠ [] ∧ name ≠ []

variable {part : List Char} {segment : Segment}

theorem wellFormed_of_make {kind name : String}
    (isMade : make kind name = .ok segment) : segment.WellFormed := by
  unfold make at isMade
  split at isMade
  · cases isMade
  · next kindGiven =>
      split at isMade
      · cases isMade
      · next nameGiven =>
          cases isMade
          exact ⟨kindGiven, nameGiven⟩

/-- A segment is plain where its spelling is cut at its own marks only. -/
theorem isPlain_iff :
    segment.IsPlain ↔
      '=' ∉ segment.kind.toList ∧ '/' ∉ segment.spelling := by
  constructor
  · rintro ⟨kindHasNoSlash, kindHasNoEquals, nameHasNoSlash⟩
    exact ⟨kindHasNoEquals,
      by simp [spelling, kindHasNoSlash, nameHasNoSlash]⟩
  · rintro ⟨kindHasNoEquals, hasNoSlash⟩
    simp only [spelling, List.mem_append, List.mem_cons, not_or] at hasNoSlash
    exact ⟨hasNoSlash.1, kindHasNoEquals, hasNoSlash.2.2⟩

instance (segment : Segment) : Decidable segment.IsPlain :=
  decidable_of_iff _ isPlain_iff.symm

/-- A part with an equals sign is the spelling of its two sides. -/
theorem exists_eq_spelling (hasEquals : '=' ∈ part) :
    ∃ segment : Segment, part = segment.spelling ∧
      '=' ∉ segment.kind.toList := by
  cases isCut : Text.cutAt '=' part with
  | none => exact absurd hasEquals (Text.cutAt_eq_none_iff.mp isCut)
  | some cut =>
      obtain ⟨isWhole, isFirst⟩ := Text.cutAt_eq_some_iff.mp isCut
      refine ⟨⟨String.ofList cut.1, String.ofList cut.2⟩, ?_, ?_⟩
      · simpa [spelling] using isWhole
      · simpa using isFirst

/-- The parts that spell a segment are the spellings of well-formed ones. -/
theorem isSpelling_iff :
    IsSpelling part ↔
      ∃ segment : Segment, part = segment.spelling ∧
        '=' ∉ segment.kind.toList ∧ segment.WellFormed := by
  constructor
  · rintro ⟨kind, name, rfl, isFirst, kindGiven, nameGiven⟩
    refine ⟨⟨String.ofList kind, String.ofList name⟩, ?_, ?_, ?_⟩
    · simp [spelling]
    · simpa using isFirst
    · simpa [WellFormed] using ⟨kindGiven, nameGiven⟩
  · rintro ⟨segment, rfl, isFirst, kindGiven, nameGiven⟩
    exact ⟨_, _, rfl, isFirst, by simpa using kindGiven,
      by simpa using nameGiven⟩

end Segment

namespace Address

variable {part : List Char} {parts : List (List Char)} {segment : Segment}
  {segments : List Segment} {address : Address} {input : String}

/-- Every segment of the address is plain. -/
def IsPlain (address : Address) : Prop :=
  ∀ segment ∈ address.segments, segment.IsPlain

instance (address : Address) : Decidable address.IsPlain := by
  unfold IsPlain
  infer_instance

/-! ## Addresses that are made -/

theorem wellFormed_of_root {kind name : String}
    (isMade : root kind name = .ok address) : address.WellFormed := by
  cases leaf : Segment.make kind name with
  | error fault => simp [root, leaf, Except.map] at isMade
  | ok segment =>
      simp only [root, leaf, Except.map, Except.ok.injEq] at isMade
      subst isMade
      exact List.forall_mem_singleton.mpr (Segment.wellFormed_of_make leaf)

theorem WellFormed.child {below : Address} {kind name : String}
    (wellFormed : address.WellFormed)
    (isMade : address.child kind name = .ok below) : below.WellFormed := by
  cases leaf : Segment.make kind name with
  | error fault => simp [Address.child, leaf, Except.map] at isMade
  | ok segment =>
      simp only [Address.child, leaf, Except.map, Except.ok.injEq] at isMade
      subst isMade
      exact List.forall_mem_append.mpr ⟨wellFormed,
        List.forall_mem_singleton.mpr (Segment.wellFormed_of_make leaf)⟩

theorem segments_of_parent {above : Address}
    (isParent : address.parent = some above) :
    above.segments = address.above := by
  obtain ⟨leaf, isLast, rfl⟩ := Option.map_eq_some_iff.mp isParent
  obtain ⟨others, areAbove⟩ := List.getLast?_eq_some_iff.mp isLast
  rw [segments, areAbove, List.dropLast_concat]

theorem WellFormed.parent {above : Address} (wellFormed : address.WellFormed)
    (isParent : address.parent = some above) : above.WellFormed := by
  intro segment isMember
  rw [segments_of_parent isParent] at isMember
  exact wellFormed segment (List.mem_append_left _ isMember)

/-! ## Reading segments -/

/-- A spelling is read as its segment, if that may be one. -/
theorem readSegment_spelling (isFirst : '=' ∉ segment.kind.toList) :
    readSegment segment.spelling =
      if segment.WellFormed then .ok segment else .error .emptyPart := by
  have isCut : Text.cutAt '=' segment.spelling =
      some (segment.kind.toList, segment.name.toList) :=
    Text.cutAt_eq_some_iff.mpr ⟨rfl, isFirst⟩
  have isEmpty_iff : (segment.kind.toList.isEmpty ||
      segment.name.toList.isEmpty) = true ↔ ¬ segment.WellFormed := by
    simp [Segment.WellFormed, Decidable.or_iff_not_imp_left]
  simp only [readSegment, isCut, isEmpty_iff, ite_not, String.ofList_toList]

theorem readSegment_eq_ok_iff :
    readSegment part = .ok segment ↔
      part = segment.spelling ∧ '=' ∉ segment.kind.toList ∧
        segment.WellFormed := by
  constructor
  · intro isRead
    by_cases hasEquals : '=' ∈ part
    · obtain ⟨spelled, rfl, isFirst⟩ := Segment.exists_eq_spelling hasEquals
      rw [readSegment_spelling isFirst] at isRead
      split at isRead
      · next isFilled =>
          cases isRead
          exact ⟨rfl, isFirst, isFilled⟩
      · cases isRead
    · rw [readSegment, Text.cutAt_eq_none_iff.mpr hasEquals] at isRead
      cases isRead
  · rintro ⟨rfl, isFirst, isFilled⟩
    rw [readSegment_spelling isFirst, if_pos isFilled]

theorem readSegments_cons_eq_ok_iff :
    readSegments (part :: parts) = .ok segments ↔
      ∃ first others, segments = first :: others ∧
        readSegment part = .ok first ∧ readSegments parts = .ok others := by
  rw [readSegments]
  cases readSegment part with
  | error cause => simp
  | ok first =>
      cases readSegments parts with
      | error cause => simp
      | ok others => simp [eq_comm]

theorem readSegments_eq_ok_iff :
    readSegments parts = .ok segments ↔
      parts = segments.map Segment.spelling ∧
        ∀ segment ∈ segments,
          '=' ∉ segment.kind.toList ∧ segment.WellFormed := by
  induction parts generalizing segments with
  | nil => cases segments <;> simp [readSegments]
  | cons part rest inductionHypothesis =>
      simp only [readSegments_cons_eq_ok_iff, readSegment_eq_ok_iff,
        inductionHypothesis]
      constructor
      · rintro ⟨first, others, rfl, ⟨rfl, isRead⟩, rfl, areRead⟩
        exact ⟨rfl, List.forall_mem_cons.mpr ⟨isRead, areRead⟩⟩
      · rintro ⟨areSpelled, areRead⟩
        cases segments with
        | nil => cases areSpelled
        | cons first others =>
            rw [List.map_cons, List.cons.injEq] at areSpelled
            rw [List.forall_mem_cons] at areRead
            exact ⟨first, others, rfl, ⟨areSpelled.1, areRead.1⟩,
              areSpelled.2, areRead.2⟩

/-- All parts are read where each of them spells a segment. -/
theorem exists_readSegments_iff :
    (∃ segments, readSegments parts = .ok segments) ↔
      ∀ part ∈ parts, Segment.IsSpelling part := by
  induction parts with
  | nil => simp [readSegments]
  | cons part rest inductionHypothesis =>
      rw [List.forall_mem_cons, ← inductionHypothesis,
        Segment.isSpelling_iff]
      simp only [readSegments_cons_eq_ok_iff, readSegment_eq_ok_iff]
      constructor
      · rintro ⟨_, first, others, rfl, isRead, areRead⟩
        exact ⟨⟨first, isRead⟩, others, areRead⟩
      · rintro ⟨⟨first, isRead⟩, others, areRead⟩
        exact ⟨_, first, others, rfl, isRead, areRead⟩

/-! ## Reading addresses -/

theorem ofSegments_eq_some_iff :
    ofSegments segments = some address ↔ segments = address.segments := by
  constructor
  · intro isMade
    obtain ⟨leaf, isLast, rfl⟩ := Option.map_eq_some_iff.mp isMade
    obtain ⟨above, rfl⟩ := List.getLast?_eq_some_iff.mp isLast
    simp [Address.segments]
  · rintro rfl
    simp [ofSegments, Address.segments]

/-- Any segment at all makes an address. -/
theorem exists_segments_eq (isThere : segments ≠ []) :
    ∃ address : Address, segments = address.segments :=
  ⟨⟨segments.dropLast, segments.getLast isThere⟩,
    (List.dropLast_concat_getLast isThere).symm⟩

theorem parse_eq_ok_iff_readSegments :
    parse input = .ok address ↔
      readSegments (Text.pieces '/' (withoutSlash input.toList)) =
        .ok address.segments := by
  rw [parse]
  split
  · next isEmpty =>
      rw [List.isEmpty_iff.mp isEmpty]
      constructor <;> (intro isRead; cases isRead)
  · split
    · next isRefused => simp [isRefused]
    · next segments areRead =>
        rw [areRead, Except.ok.injEq, ← ofSegments_eq_some_iff]
        split
        · next isNone => simp [isNone]
        · next other isSome => simp [isSome]

/-- The text of an address is the spellings, each behind a slash. -/
theorem toList_text (address : Address) :
    address.text.toList =
      (address.segments.map Segment.spelling).flatMap ('/' :: ·) := by
  simp [text, List.flatMap_map, Segment.text, Segment.spelling]

/-- A text is cut into the spellings of an address where a slash and the text
are the text of the address, and no spelling holds another slash. -/
theorem pieces_eq_spellings_iff {body : List Char} :
    Text.pieces '/' body = address.segments.map Segment.spelling ↔
      address.text.toList = '/' :: body ∧
        ∀ segment ∈ address.segments, '/' ∉ segment.spelling := by
  rw [toList_text, ← List.forall_mem_map (f := Segment.spelling)
    (P := fun spelling => '/' ∉ spelling)]
  cases areSegments : address.segments with
  | nil => exact absurd areSegments address.segments_ne_nil
  | cons first rest =>
      rw [List.map_cons, Text.pieces_eq_cons_iff, List.flatMap_cons,
        List.cons_append, List.cons.injEq, eq_self, true_and,
        eq_comm (a := body)]

/-- What is read is the address whose text was written, up to the leading
slash, and only the well-formed and plain ones are read. -/
theorem parse_eq_ok_iff :
    parse input = .ok address ↔
      address.text.toList = '/' :: withoutSlash input.toList ∧
        address.WellFormed ∧ address.IsPlain := by
  rw [parse_eq_ok_iff_readSegments, readSegments_eq_ok_iff,
    pieces_eq_spellings_iff]
  simp only [WellFormed, IsPlain, Segment.isPlain_iff]
  constructor
  · rintro ⟨⟨isText, haveNoSlash⟩, areRead⟩
    exact ⟨isText, fun segment isMember => (areRead segment isMember).2,
      fun segment isMember =>
        ⟨(areRead segment isMember).1, haveNoSlash segment isMember⟩⟩
  · rintro ⟨isText, areFilled, arePlain⟩
    exact ⟨⟨isText, fun segment isMember => (arePlain segment isMember).2⟩,
      fun segment isMember =>
        ⟨(arePlain segment isMember).1, areFilled segment isMember⟩⟩

/-- Some address is read where every part between slashes spells a segment. -/
theorem exists_parse_iff :
    (∃ address, parse input = .ok address) ↔
      ∀ part ∈ (withoutSlash input.toList).splitOn '/',
        Segment.IsSpelling part := by
  rw [← Text.pieces_eq_splitOn, ← exists_readSegments_iff]
  simp only [parse_eq_ok_iff_readSegments]
  constructor
  · rintro ⟨address, areRead⟩
    exact ⟨_, areRead⟩
  · rintro ⟨segments, areRead⟩
    have isThere : segments ≠ [] := by
      rintro rfl
      have noPieces := (readSegments_eq_ok_iff.mp areRead).1
      rw [Text.pieces_eq_splitOn] at noPieces
      exact List.splitOn_ne_nil _ _ noPieces
    obtain ⟨address, rfl⟩ := exists_segments_eq isThere
    exact ⟨address, areRead⟩

/-- **The text of an address.**

A text is read as an address exactly where something is left behind one
leading slash and each part between slashes has an equals sign, with a text
before the first one and a text behind it; the text of what is read is a slash
and what was left.  An address is read back from its own text exactly where
its segments are well-formed, which those of every address that is made are,
no kind holds a slash or an equals sign, and no name holds a slash; the text of
any other address is refused or is that of another one. -/
theorem text_grammar_and_round_trip :
    (∀ input : String,
      ((∃ address, parse input = .ok address) ↔
        withoutSlash input.toList ≠ [] ∧
          ∀ part ∈ (withoutSlash input.toList).splitOn '/',
            Segment.IsSpelling part) ∧
      ∀ address, parse input = .ok address →
        address.text = "/" ++ String.ofList (withoutSlash input.toList)) ∧
    ∀ address : Address,
      parse address.text = .ok address ↔
        address.WellFormed ∧ address.IsPlain := by
  refine ⟨fun input => ⟨?_, fun address isRead => ?_⟩, fun address => ?_⟩
  · rw [exists_parse_iff]
    refine ⟨fun areSpellings => ⟨fun isNothing => ?_, areSpellings⟩, And.right⟩
    rw [isNothing] at areSpellings
    obtain ⟨kind, name, isSpelled, -⟩ := areSpellings [] (by simp)
    simp at isSpelled
  · rw [← String.toList_inj, (parse_eq_ok_iff.mp isRead).1]
    simp
  · rw [parse_eq_ok_iff]
    refine ⟨And.right, fun isKept => ⟨?_, isKept⟩⟩
    obtain ⟨first, rest, areSegments⟩ :=
      List.exists_cons_of_ne_nil address.segments_ne_nil
    rw [toList_text, areSegments]
    rfl

/-- An address with an equals sign in a name. -/
def namedByPair : Address :=
  ⟨[⟨"subsystem", "elytron"⟩], ⟨"custom-realm", "unit=sales"⟩⟩

/-- An address with an equals sign in a kind. -/
def kindOfPair : Address :=
  ⟨[], ⟨"unit=sales", "elytron"⟩⟩

theorem text_grammar_and_round_trip_sample :
    parse "subsystem=elytron/custom-realm=unit=sales" = .ok namedByPair ∧
    namedByPair.text = "/subsystem=elytron/custom-realm=unit=sales" ∧
    parse namedByPair.text = .ok namedByPair ∧
    parse kindOfPair.text ≠ .ok kindOfPair := by
  obtain ⟨isGrammar, isRoundTrip⟩ := text_grammar_and_round_trip
  have isRead :
      parse "subsystem=elytron/custom-realm=unit=sales" = .ok namedByPair := by
    rfl
  refine ⟨isRead, (isGrammar _).2 _ isRead,
    (isRoundTrip namedByPair).mpr ⟨by decide, by decide⟩, fun isReadBack => ?_⟩
  have isPlain := ((isRoundTrip kindOfPair).mp isReadBack).2
  exact absurd isPlain (by decide)

end Address

end Provision
