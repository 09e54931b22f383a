import Provision.Proofs.Configuration.HeaderValues

/-!
Contract: the order in which the headers of a batch file are looked at.

A batch file keeps its headers under names that differ as texts, in no order of
its own.  Two of them can still be one name in another case.  Then the one that
is looked at last counts, unless the command line or the bearer sets the name
as well.

Owns:
- headers that come to the same in two runs;
- names that are contested in a batch file;
- the runs whose headers do not depend on the order, and the ones whose do.

Does not own: which order a file is read in.
-/

namespace Provision.Configuration

open Endpoint (HeaderName HeaderValue Headers)

/-- The file with its headers in an order. -/
def inOrder (file : BatchFile) (order : Members String) : BatchFile :=
  { file with target.headers := order }

/-- Both runs fail for a header, or both have the same headers. -/
def SameHeaders (one other : Except ConfigurationError Headers) : Prop :=
  ((∃ error, one = .error error) ∧ ∃ error, other = .error error) ∨
    ∃ headers others, one = .ok headers ∧ other = .ok others ∧
      headers.Perm others

/-- A name to which the file gives two values, and nothing that comes later
gives one. -/
structure Contested (line : CommandLine) (file : BatchFile)
    (name : HeaderName) : Prop where
  isLeft : givenValues name (laterHeaders line file) = []
  differ : ∃ one ∈ givenValues name (fileHeaders file),
    ∃ other ∈ givenValues name (fileHeaders file), one ≠ other

variable {line : CommandLine} {file : BatchFile} {order : Members String}
  {headers others : Headers}

/-! ## What every order has in common -/

/-- Of values that are all the same, the last one is the same in every
order. -/
theorem getLast?_eq_of_perm
    {values reordered : List HeaderValue}
    (isPerm : reordered.Perm values)
    (areOne : ∀ one ∈ values, ∀ other ∈ values, one = other) :
    reordered.getLast? = values.getLast? := by
  cases isLast : reordered.getLast? with
  | none =>
      rw [List.getLast?_eq_none_iff] at isLast
      rw [isLast] at isPerm
      rw [← isPerm.nil_eq]
      rfl
  | some last =>
      have isMember := isPerm.subset (List.mem_of_getLast? isLast)
      cases isOther : values.getLast? with
      | none =>
          rw [List.getLast?_eq_none_iff.mp isOther] at isMember
          cases isMember
      | some other =>
          rw [areOne last isMember other (List.mem_of_getLast? isOther)]

theorem fileHeaders_perm
    (isOrder : order.Perm file.target.headers) :
    (fileHeaders (inOrder file order)).Perm (fileHeaders file) :=
  isOrder.map _

theorem mem_givenHeaders_inOrder_iff
    (isOrder : order.Perm file.target.headers)
    {given : GivenHeader} :
    given ∈ givenHeaders line (inOrder file order) ↔
      given ∈ givenHeaders line file := by
  rw [givenHeaders_eq, givenHeaders_eq, List.mem_append, List.mem_append,
    (fileHeaders_perm isOrder).mem_iff]
  exact Iff.rfl

/-- In every order, all headers are read or not. -/
theorem exists_resolveHeaders_inOrder_iff
    (isOrder : order.Perm file.target.headers) :
    (∃ others, resolveHeaders line (inOrder file order) = .ok others) ↔
      ∃ headers, resolveHeaders line file = .ok headers := by
  simp only [exists_resolveHeaders_iff, mem_givenHeaders_inOrder_iff isOrder]

/-- What comes later does not depend on the order. -/
theorem get?_inOrder_eq_later_or_file
    (resolved : resolveHeaders line (inOrder file order) = .ok others)
    (name : HeaderName) :
    Members.get? name others =
      (givenValues name (laterHeaders line file)).getLast?.or
        (givenValues name (fileHeaders (inOrder file order))).getLast? :=
  get?_eq_later_or_file resolved name

/-- A name that is not contested has one value in every order. -/
theorem get?_eq_of_not_contested
    (isOrder : order.Perm file.target.headers)
    (resolved : resolveHeaders line file = .ok headers)
    (otherResolved : resolveHeaders line (inOrder file order) = .ok others)
    {name : HeaderName}
    (isSettled : ¬Contested line file name) :
    Members.get? name others = Members.get? name headers := by
  have isPerm : (givenValues name (fileHeaders (inOrder file order))).Perm
      (givenValues name (fileHeaders file)) :=
    (fileHeaders_perm isOrder).filterMap _
  rw [get?_eq_later_or_file resolved, get?_inOrder_eq_later_or_file otherResolved]
  by_cases isLeft : givenValues name (laterHeaders line file) = []
  · have isOne : ∀ one ∈ givenValues name (fileHeaders file),
        ∀ other ∈ givenValues name (fileHeaders file), one = other := by
      intro one isMember other isOther
      by_contra areTwo
      exact isSettled ⟨isLeft, one, isMember, other, isOther, areTwo⟩
    rw [isLeft, List.getLast?_nil, Option.none_or, Option.none_or]
    exact getLast?_eq_of_perm isPerm isOne
  · obtain ⟨last, isLast⟩ := Option.isSome_iff_exists.mp
      (List.getLast?_isSome.mpr isLeft)
    rw [isLast, Option.some_or, Option.some_or]

/-! ## What an order can decide -/

/-- Each value that the file gives to a name comes last in some order. -/
theorem exists_inOrder_getLast?_eq
    {name : HeaderName}
    {value : HeaderValue}
    (isGiven : value ∈ givenValues name (fileHeaders file)) :
    ∃ order, order.Perm file.target.headers ∧
      (givenValues name (fileHeaders (inOrder file order))).getLast? =
        some value := by
  rw [givenValues, fileHeaders, List.filterMap_map, List.mem_filterMap]
    at isGiven
  obtain ⟨entry, isEntry, isValue⟩ := isGiven
  obtain ⟨before, behind, areEntries⟩ := List.append_of_mem isEntry
  refine ⟨before ++ behind ++ [entry], ?_, ?_⟩
  · rw [areEntries, List.append_assoc]
    exact List.perm_append_comm.append_left before
  · rw [givenValues, fileHeaders, List.filterMap_map, inOrder,
      List.filterMap_append, List.filterMap_cons, isValue]
    exact List.getLast?_concat

/-- The headers of a run with a contested name depend on the order. -/
theorem Contested.exists_not_sameHeaders
    {name : HeaderName}
    (contested : Contested line file name)
    (resolved : resolveHeaders line file = .ok headers) :
    ∃ order, order.Perm file.target.headers ∧
      ¬SameHeaders (resolveHeaders line (inOrder file order))
        (resolveHeaders line file) := by
  obtain ⟨isLeft, one, isOne, other, isOther, areTwo⟩ := contested
  -- Of two values, one at least is not the value that the file's own order
  -- comes to.
  obtain ⟨value, isGiven, isNew⟩ : ∃ value,
      value ∈ givenValues name (fileHeaders file) ∧
        some value ≠ Members.get? name headers := by
    by_cases isHeld : some one = Members.get? name headers
    · refine ⟨other, isOther, fun isHeldToo => areTwo ?_⟩
      exact Option.some.inj (isHeld.trans isHeldToo.symm)
    · exact ⟨one, isOne, isHeld⟩
  obtain ⟨order, isOrder, isLast⟩ := exists_inOrder_getLast?_eq isGiven
  refine ⟨order, isOrder, ?_⟩
  rintro (⟨-, error, fails⟩ | ⟨others, same, otherResolved, resolvedToo, isPerm⟩)
  · rw [resolved] at fails
    cases fails
  · cases resolved.symm.trans resolvedToo
    have agree := (Members.perm_iff_get?_eq
      (distinct_of_resolveHeaders otherResolved)
      (distinct_of_resolveHeaders resolved)).mp isPerm name
    rw [get?_inOrder_eq_later_or_file otherResolved, isLeft, isLast] at agree
    exact isNew agree

/-- **The headers of a run depend on the order of the file exactly through
contested names.**

Whatever the order in which the headers of the file are looked at, all of them
are read or one cannot be, and a name that is not contested has the same value.
The headers are the same in all orders exactly where no name is contested, that
is, where no two headers of the file have one name but two values, unless the
command line or the bearer gives that name too. -/
theorem resolveHeaders_order_iff
    (line : CommandLine)
    (file : BatchFile) :
    (∀ order, order.Perm file.target.headers →
      ((∃ others, resolveHeaders line (inOrder file order) = .ok others) ↔
        ∃ headers, resolveHeaders line file = .ok headers) ∧
      ∀ headers others, resolveHeaders line file = .ok headers →
        resolveHeaders line (inOrder file order) = .ok others →
        ∀ name, ¬Contested line file name →
          Members.get? name others = Members.get? name headers) ∧
    ((∀ order, order.Perm file.target.headers →
        SameHeaders (resolveHeaders line (inOrder file order))
          (resolveHeaders line file)) ↔
      ∀ headers, resolveHeaders line file = .ok headers →
        ∀ name, ¬Contested line file name) := by
  refine ⟨fun order isOrder => ⟨exists_resolveHeaders_inOrder_iff isOrder, ?_⟩,
    fun areSame headers resolved name contested => ?_,
    fun noneContested order isOrder => ?_⟩
  · intro headers others resolved otherResolved name isSettled
    exact get?_eq_of_not_contested isOrder resolved otherResolved isSettled
  · obtain ⟨order, isOrder, areDifferent⟩ :=
      contested.exists_not_sameHeaders resolved
    exact areDifferent (areSame order isOrder)
  · have together :
        (∃ others, resolveHeaders line (inOrder file order) = .ok others) ↔
          ∃ headers, resolveHeaders line file = .ok headers :=
      exists_resolveHeaders_inOrder_iff isOrder
    cases resolved : resolveHeaders line file with
    | error error =>
        cases otherResolved : resolveHeaders line (inOrder file order) with
        | error other => exact .inl ⟨⟨other, rfl⟩, error, rfl⟩
        | ok others =>
            obtain ⟨headers, isOk⟩ := together.mp ⟨others, otherResolved⟩
            rw [resolved] at isOk
            cases isOk
    | ok headers =>
        obtain ⟨others, otherResolved⟩ := together.mpr ⟨headers, resolved⟩
        refine .inr ⟨others, headers, otherResolved, rfl, ?_⟩
        rw [Members.perm_iff_get?_eq
          (distinct_of_resolveHeaders otherResolved)
          (distinct_of_resolveHeaders resolved)]
        exact fun name => get?_eq_of_not_contested isOrder resolved
          otherResolved (noneContested headers resolved name)

/-- A file with one name in two cases. -/
def twoCasesFile : BatchFile where
  target :=
    { headers := [("Accept", "text/plain"), ("accept", "text/html")] }

/-- Two headers that differ as texts can be one name, so that the order in
which they are looked at decides. -/
theorem not_all_headers_ignore_order :
    ¬ ∀ (line : CommandLine) (file : BatchFile) (order : Members String),
      (∃ text, NamesServer line file text) →
      Members.Distinct file.target.headers →
      order.Perm file.target.headers →
      SameHeaders (resolveHeaders line (inOrder file order))
        (resolveHeaders line file) := by
  intro areSame
  have contested : Contested localLine twoCasesFile ⟨"accept"⟩ :=
    ⟨rfl, ⟨"text/plain"⟩, by decide +kernel, ⟨"text/html"⟩, by decide +kernel,
      by decide⟩
  obtain ⟨headers, resolved⟩ :
      ∃ headers, resolveHeaders localLine twoCasesFile = .ok headers := by
    rw [exists_resolveHeaders_iff]
    intro given isGiven
    have isOne : given = .named "Accept" "text/plain" ∨
        given = .named "accept" "text/html" := by
      simpa [givenHeaders, twoCasesFile, localLine, bearer] using isGiven
    rcases isOne with rfl | rfl
    · exact ⟨_, GivenHeader.read_named (by decide +kernel) (by decide)⟩
    · exact ⟨_, GivenHeader.read_named (by decide +kernel) (by decide)⟩
  obtain ⟨order, isOrder, areDifferent⟩ :=
    contested.exists_not_sameHeaders resolved
  exact areDifferent (areSame localLine twoCasesFile order
    ⟨_, .commandLine, .commandLine (Or.inl rfl)⟩ (by decide) isOrder)

end Provision.Configuration
