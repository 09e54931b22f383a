import Provision.Proofs.Configuration.HeaderValues
import Provision.Proofs.Session.SentHeaders

/-!
Contract: which of several headers is sent, and that it is.

The bearer decides over the command line, and the command line over the batch
file.  On the command line the last header with a name counts; in the file
there is only one.

Owns:
- the value that a header has by these rules;
- the headers of a run, name by name;
- the values that each request of a session carries under a name.

Does not own: files with one name in two cases.
-/

namespace Provision.Configuration

open Endpoint (HeaderName HeaderValue Headers)

/-! ## Three places -/

/-- The value that the bearer gives to a name. -/
def bearerValue (line : CommandLine) (file : BatchFile) (name : HeaderName) :
    Option HeaderValue :=
  if name = .authorization then
    (bearer line file).map fun token => ⟨"Bearer " ++ token⟩
  else none

/-- The value of the last header with a name on the command line. -/
def lineValue (line : CommandLine) (name : HeaderName) : Option HeaderValue :=
  List.getLast? <| line.headers.filterMap fun text =>
    match splitHeader text with
    | .ok (written, value) =>
        if written.toLower = name.text then some ⟨value⟩ else none
    | .error _ => none

/-- The headers of the file, the names in lower case. -/
def loweredHeaders (file : BatchFile) : Headers :=
  file.target.headers.map fun header => headerOf header.1 header.2

/-- The value that is to be sent under a name. -/
def decidedValue (line : CommandLine) (file : BatchFile) (name : HeaderName) :
    Option HeaderValue :=
  (bearerValue line file name).or
    ((lineValue line name).or (Members.get? name (loweredHeaders file)))

variable {line : CommandLine} {file : BatchFile} {headers : Headers}

theorem getLast?_givenValues_bearer
    (line : CommandLine)
    (file : BatchFile)
    (name : HeaderName) :
    (givenValues name ((bearer line file).toList.map .bearer)).getLast? =
      bearerValue line file name := by
  have isLower : "Authorization".toLower = "authorization" := by
    decide +kernel
  cases name with
  | mk text =>
      cases isBearer : bearer line file with
      | none => simp [givenValues, bearerValue, isBearer]
      | some token =>
          by_cases isAuthorization : text = "authorization"
          · simp [givenValues, GivenHeader.valueFor, GivenHeader.parts,
              bearerValue, isBearer, HeaderName.authorization, isLower,
              isAuthorization]
          · simp [givenValues, GivenHeader.valueFor, GivenHeader.parts,
              bearerValue, HeaderName.authorization, isLower,
              isAuthorization, Ne.symm isAuthorization]

theorem getLast?_givenValues_line
    (line : CommandLine)
    (name : HeaderName) :
    (givenValues name (line.headers.map .written)).getLast? =
      lineValue line name := by
  rw [givenValues, List.filterMap_map]
  rfl

/-- Where names differ in more than their case, the file has one value for
each. -/
theorem getLast?_givenValues_file
    (areDistinct : Members.Distinct (loweredHeaders file))
    (name : HeaderName) :
    (givenValues name (fileHeaders file)).getLast? =
      Members.get? name (loweredHeaders file) := by
  have sameValues : givenValues name (fileHeaders file) =
      Members.valuesOf name (loweredHeaders file) := by
    rw [givenValues, fileHeaders, Members.valuesOf, loweredHeaders,
      List.filterMap_map, List.filterMap_map]
    congr 1
    funext header
    cases name
    simp [GivenHeader.valueFor, GivenHeader.parts, headerOf]
  rw [sameValues, Members.valuesOf_of_distinct areDistinct]
  cases Members.get? name (loweredHeaders file) <;> rfl

/-- Each header of a run has the value that is decided for it. -/
theorem get?_eq_decidedValue
    (areDistinct : Members.Distinct (loweredHeaders file))
    (resolved : resolveHeaders line file = .ok headers)
    (name : HeaderName) :
    Members.get? name headers = decidedValue line file name := by
  rw [get?_eq_later_or_file resolved, laterHeaders, givenValues_append,
    List.getLast?_append, getLast?_givenValues_bearer,
    getLast?_givenValues_line, getLast?_givenValues_file areDistinct,
    Option.or_assoc, decidedValue]

/-! ## What is sent -/

/-- A request carries the value that is decided for each header, and says what
its body is; it carries nothing else. -/
def SendsDecided (line : CommandLine) (file : BatchFile) :
    SessionEvent → Prop
  | .sent request => ∀ name,
      Members.valuesOf name request.headers =
        (if name = .contentType then [⟨"application/json"⟩] else []) ++
          (decidedValue line file name).toList
  | .slept _ => True

theorem sendsDecided_of_carries
    (areDistinct : Members.Distinct (loweredHeaders file))
    (resolved : resolveHeaders line file = .ok headers)
    (event : SessionEvent)
    (carries : ManagementClient.Carries headers event) :
    SendsDecided line file event := by
  cases event with
  | slept span => trivial
  | sent request =>
      intro name
      have isCarried : request.headers =
          (HeaderName.contentType, ⟨"application/json"⟩) :: headers := carries
      have areOthers := Members.valuesOf_of_distinct
        (distinct_of_resolveHeaders resolved) name
      rw [get?_eq_decidedValue areDistinct resolved] at areOthers
      rw [isCarried, ← areOthers, Members.valuesOf, Members.valuesOf,
        List.filterMap_cons]
      by_cases isType : name = .contentType
      · simp [isType]
      · simp [isType, Ne.symm isType]

/-- **Each header is sent as it is decided for it, once in every request.**

Where a server is named, all headers can be read and those of the file have
different names, the run has headers: each name once, with the value of the
bearer, or else that of the last header on the command line, or else that of
the file.  A client with these headers sends them with every request, whatever
it does, besides the type of the body and nothing else. -/
theorem decided_headers_are_sent
    (line : CommandLine)
    (file : BatchFile)
    {text : String}
    {url : Endpoint.Url}
    (names : NamesServer line file text)
    (parses : endpoint text = .ok url)
    (areRead : ∀ given ∈ givenHeaders line file,
      ∃ header, given.read = .ok header)
    (areDistinct : Members.Distinct (loweredHeaders file)) :
    ∃ headers, resolveTarget line file = .ok (.live url headers) ∧
      Members.Distinct headers ∧
      (∀ name, Members.get? name headers = decidedValue line file name) ∧
      ∀ client : ManagementClient, client.headers = headers →
        client.session.AddsOnly (SendsDecided line file) ∧
          ∀ batch, AddsOnly (SendsDecided line file)
            (Batch.runLive client.session batch) := by
  obtain ⟨headers, resolved⟩ := exists_resolveHeaders_iff.mpr areRead
  refine ⟨headers, ?_, distinct_of_resolveHeaders resolved,
    get?_eq_decidedValue areDistinct resolved, ?_⟩
  · rw [resolveTarget_of_namesServer names, parses, resolved]
    rfl
  · rintro client rfl
    have sends := client.session_addsOnly.mono
      (sendsDecided_of_carries areDistinct resolved)
    exact ⟨sends, sends.runLive⟩

/-- A request that gives headers in each way. -/
def layeredLine : CommandLine :=
  { localLine with
    headers := ["X-Tag=one", "x-tag: two", "Authorization=basic"]
    bearer := some "token" }

/-- A file that gives one of these headers too, and another one. -/
def layeredFile : BatchFile where
  target := { headers := [("X-TAG", "three"), ("Accept", "text/html")] }

theorem decided_headers_are_sent_sample :
    NamesServer layeredLine layeredFile
        "http://localhost:9990/management" ∧
      Members.Distinct (loweredHeaders layeredFile) ∧
      ∃ headers,
        resolveTarget layeredLine layeredFile = .ok (.live localUrl headers) ∧
          Members.get? ⟨"x-tag"⟩ headers = some ⟨"two"⟩ ∧
          Members.get? ⟨"authorization"⟩ headers = some ⟨"Bearer token"⟩ ∧
          Members.get? ⟨"accept"⟩ headers = some ⟨"text/html"⟩ ∧
          Members.get? ⟨"host"⟩ headers = none := by
  have names : NamesServer layeredLine layeredFile
      "http://localhost:9990/management" :=
    ⟨.commandLine, .commandLine (Or.inl rfl)⟩
  have parses : endpoint "http://localhost:9990/management" =
      .ok localUrl :=
    endpoint_eq_ok_iff.mpr (by decide +kernel)
  have areDistinct : Members.Distinct (loweredHeaders layeredFile) := by
    decide +kernel
  have areRead : ∀ given ∈ givenHeaders layeredLine layeredFile,
      ∃ header, given.read = .ok header := by
    intro given isGiven
    have isRead : given.read.isOk = true := by
      revert given
      decide +kernel
    cases read : given.read with
    | ok header => exact ⟨header, rfl⟩
    | error fault => rw [read] at isRead; cases isRead
  obtain ⟨headers, isTarget, -, areDecided, -⟩ :=
    decided_headers_are_sent layeredLine layeredFile names parses areRead
      areDistinct
  refine ⟨names, areDistinct, headers, isTarget, ?_⟩
  simp only [areDecided]
  decide +kernel

end Provision.Configuration
