import Provision.Proofs.Configuration.WrittenHeader
import Provision.Proofs.Value.Lookups

/-!
Contract: the value that a header has in a run.

Of all given headers with one name, the last one counts.  Names are compared
without regard to case.

Owns:
- the texts of a given header, and the value that it gives to a name;
- the values that are given to a name, the last of which is sent;
- the headers of the file, and those that are given after them;
- the runs in which all headers can be read.

Does not own: the order of given headers.
-/

namespace Provision.Configuration

open Endpoint (HeaderName HeaderValue Headers)

/-- The name and the value of a given header, before they are checked. -/
def GivenHeader.parts :
    GivenHeader → Except ConfigurationError (String × String)
  | .named name value => .ok (name, value)
  | .written text => splitHeader text
  | .bearer token => .ok ("Authorization", "Bearer " ++ token)

/-- A header is read from its texts, in whichever form it is given. -/
theorem GivenHeader.read_eq_bind
    (given : GivenHeader) :
    given.read = given.parts >>= fun parts => readHeader parts.1 parts.2 := by
  cases given with
  | named name value => rfl
  | written text => rfl
  | bearer token =>
      have isName : HeaderName.ofText? "Authorization" =
          some HeaderName.authorization := by
        decide +kernel
      rw [read, parts]
      simp only [bind, Except.bind, readHeader, isName]

/-- A header that can be read has the texts that were given, the name in lower
case. -/
theorem readHeader_eq_ok
    {name value : String}
    {header : HeaderName × HeaderValue}
    (isRead : readHeader name value = .ok header) :
    header = headerOf name value := by
  unfold readHeader HeaderName.ofText? headerValue HeaderValue.ofText? at isRead
  split_ifs at isRead
  · exact (Except.ok.inj isRead).symm
  · cases isRead

theorem GivenHeader.read_named
    {name value : String}
    (isName : (HeaderName.ofText? name).isSome)
    (isValue : (HeaderValue.ofText? value).isSome) :
    (GivenHeader.named name value).read = .ok (headerOf name value) :=
  readHeader_eq isName isValue

/-- The value that a given header gives to a name, if it has that name. -/
def GivenHeader.valueFor (name : HeaderName) (given : GivenHeader) :
    Option HeaderValue :=
  match given.parts with
  | .ok (text, value) =>
      if text.toLower = name.text then some ⟨value⟩ else none
  | .error _ => none

theorem GivenHeader.valueFor_of_read
    {given : GivenHeader}
    {header : HeaderName × HeaderValue}
    (isRead : given.read = .ok header)
    (name : HeaderName) :
    given.valueFor name = if header.1 = name then some header.2 else none := by
  rw [read_eq_bind, bind_eq_ok_iff] at isRead
  obtain ⟨parts, areParts, isRead⟩ := isRead
  rw [readHeader_eq_ok isRead, valueFor, areParts, headerOf]
  cases name
  simp

/-- The values that given headers give to a name, in order. -/
def givenValues (name : HeaderName) (given : List GivenHeader) :
    List HeaderValue :=
  given.filterMap (·.valueFor name)

theorem givenValues_append
    (name : HeaderName)
    (early late : List GivenHeader) :
    givenValues name (early ++ late) =
      givenValues name early ++ givenValues name late :=
  List.filterMap_append

theorem valuesOf_read
    {given : List GivenHeader}
    {read : Headers}
    (areRead : List.Forall₂ (fun given header => given.read = .ok header)
      given read)
    (name : HeaderName) :
    Members.valuesOf name read = givenValues name given := by
  induction areRead with
  | nil => rfl
  | cons isRead _ inductionHypothesis =>
      have isFirst := GivenHeader.valueFor_of_read isRead name
      simp only [Members.valuesOf, givenValues] at inductionHypothesis ⊢
      rw [List.filterMap_cons, List.filterMap_cons, isFirst,
        inductionHypothesis]

/-- The headers that a batch file gives. -/
def fileHeaders (file : BatchFile) : List GivenHeader :=
  file.target.headers.map fun header => .named header.1 header.2

/-- The headers that are given after those of the file. -/
def laterHeaders (line : CommandLine) (file : BatchFile) : List GivenHeader :=
  line.headers.map .written ++ (bearer line file).toList.map .bearer

theorem givenHeaders_eq (line : CommandLine) (file : BatchFile) :
    givenHeaders line file = fileHeaders file ++ laterHeaders line file :=
  List.append_assoc _ _ _

/-! ## The headers of a run -/

variable {line : CommandLine} {file : BatchFile} {headers : Headers}

/-- A name has the value that it is given last. -/
theorem get?_of_resolveHeaders
    (resolved : resolveHeaders line file = .ok headers)
    (name : HeaderName) :
    Members.get? name headers =
      (givenValues name (givenHeaders line file)).getLast? := by
  obtain ⟨read, areRead, rfl⟩ := resolveHeaders_eq_ok_iff.mp resolved
  rw [← valuesOf_read areRead name]
  exact Members.get?_ofPairs name read

/-- A name has the last of the values that come later, or else the last one of
the file. -/
theorem get?_eq_later_or_file
    (resolved : resolveHeaders line file = .ok headers)
    (name : HeaderName) :
    Members.get? name headers =
      (givenValues name (laterHeaders line file)).getLast?.or
        (givenValues name (fileHeaders file)).getLast? := by
  rw [get?_of_resolveHeaders resolved, givenHeaders_eq, givenValues_append,
    List.getLast?_append]

/-- Each name is sent once. -/
theorem distinct_of_resolveHeaders
    (resolved : resolveHeaders line file = .ok headers) :
    Members.Distinct headers := by
  obtain ⟨read, -, rfl⟩ := resolveHeaders_eq_ok_iff.mp resolved
  exact Members.distinct_ofPairs read

/-- There are headers for a run where every given one can be read. -/
theorem exists_resolveHeaders_iff :
    (∃ headers, resolveHeaders line file = .ok headers) ↔
      ∀ given ∈ givenHeaders line file, ∃ header, given.read = .ok header := by
  rw [← exists_forall₂_eq_ok_iff]
  simp only [resolveHeaders_eq_ok_iff]
  constructor
  · rintro ⟨_, read, areRead, -⟩
    exact ⟨read, areRead⟩
  · rintro ⟨read, areRead⟩
    exact ⟨_, read, areRead, rfl⟩

end Provision.Configuration
