import Provision.Configuration.Headers
import Provision.Proofs.Configuration.Faults

/-!
Contract: the headers of a run as one list of given headers.

The batch file, the command line and the bearer give headers in three forms.
Each is read by itself; only then is it put among the others.

Owns:
- given headers, in the order in which they are looked at;
- the reading of one given header, and what can be wrong with it;
- the headers of a run as all that was read, and the first given header that
  cannot be read.

Does not own: what a name and a value may hold, or which header wins.
-/

namespace Provision.Configuration

open Endpoint (HeaderName HeaderValue Headers)

/-- A header as it is given: by name in a batch file, in one text on the
command line, or as the token of the bearer. -/
inductive GivenHeader where
  | named (name value : String)
  | written (text : String)
  | bearer (token : String)
deriving DecidableEq, Repr

/-- The headers that are given for a run, the bearer last. -/
def givenHeaders (line : CommandLine) (file : BatchFile) : List GivenHeader :=
  file.target.headers.map (fun header => .named header.1 header.2) ++
    line.headers.map .written ++ (bearer line file).toList.map .bearer

/-- The header with a name and a value, both of which are checked. -/
def readHeader (name value : String) :
    Except ConfigurationError (HeaderName × HeaderValue) :=
  match HeaderName.ofText? name with
  | none => .error (.invalidHeaderName name)
  | some checked => (headerValue name value).map fun value => (checked, value)

/-- The header that is meant by a given one. -/
def GivenHeader.read :
    GivenHeader → Except ConfigurationError (HeaderName × HeaderValue)
  | .named name value => readHeader name value
  | .written text => do
      let (name, value) ← splitHeader text
      readHeader name value
  | .bearer token =>
      (headerValue "Authorization" ("Bearer " ++ token)).map fun value =>
        (HeaderName.authorization, value)

/-- Puts a header that was read among others. -/
def putHeader (headers : Headers) (header : HeaderName × HeaderValue) :
    Headers :=
  headers.insert header.1 header.2

/-! ## What can be wrong with a given header -/

/-- The fault of a header: it has no mark between name and value, or one of
the two is not allowed. -/
inductive HeaderFault : ConfigurationError → Prop where
  | text (text : String) : HeaderFault (.invalidHeader text)
  | name (name : String) : HeaderFault (.invalidHeaderName name)
  | value (name : String) : HeaderFault (.invalidHeaderValue name)

section

variable {fault : ConfigurationError}

theorem headerValue_eq_error_iff
    {name value : String} :
    headerValue name value = .error fault ↔
      HeaderValue.ofText? value = none ∧ .invalidHeaderValue name = fault := by
  unfold headerValue
  cases HeaderValue.ofText? value <;> simp

theorem splitHeader_eq_error
    {text : String}
    (failed : splitHeader text = .error fault) :
    .invalidHeader text = fault := by
  unfold splitHeader at failed
  dsimp only at failed
  split at failed
  · cases failed
  · exact Except.error.inj failed

theorem fault_of_readHeader
    {name value : String}
    (failed : readHeader name value = .error fault) :
    HeaderFault fault := by
  unfold readHeader at failed
  split at failed
  · rw [← Except.error.inj failed]
    exact .name name
  · obtain ⟨-, rfl⟩ := headerValue_eq_error_iff.mp (map_eq_error_iff.mp failed)
    exact .value name

/-- A given header that cannot be read has a fault of its own. -/
theorem GivenHeader.fault_of_read
    {given : GivenHeader}
    (failed : given.read = .error fault) :
    HeaderFault fault := by
  cases given with
  | named name value => exact fault_of_readHeader failed
  | written text =>
      rcases bind_eq_error_iff.mp failed with unsplit | ⟨parts, -, failed⟩
      · rw [← splitHeader_eq_error unsplit]
        exact .text text
      · exact fault_of_readHeader failed
  | bearer token =>
      obtain ⟨-, rfl⟩ :=
        headerValue_eq_error_iff.mp (map_eq_error_iff.mp failed)
      exact .value "Authorization"

end

/-! ## Each form is read, and then put among the others -/

variable {line : CommandLine} {file : BatchFile} {headers : Headers}

theorem addHeader_eq_map
    (name value : String) :
    addHeader headers name value =
      (readHeader name value).map (putHeader headers) := by
  unfold addHeader readHeader
  cases HeaderName.ofText? name with
  | none => rfl
  | some checked => cases headerValue name value <;> rfl

theorem addWrittenHeader_eq_map
    (text : String) :
    addWrittenHeader headers text =
      (GivenHeader.written text).read.map (putHeader headers) := by
  rw [addWrittenHeader, GivenHeader.read]
  cases splitHeader text with
  | error fault => rfl
  | ok parts => exact addHeader_eq_map parts.1 parts.2

theorem addBearer_eq_map
    (token : String) :
    addBearer headers token =
      (GivenHeader.bearer token).read.map (putHeader headers) := by
  rw [addBearer, GivenHeader.read]
  cases headerValue "Authorization" ("Bearer " ++ token) <;> rfl

/-- The headers of a run are made of the given ones from the first on. -/
theorem resolveHeaders_eq_foldlM
    (line : CommandLine)
    (file : BatchFile) :
    resolveHeaders line file =
      (givenHeaders line file).foldlM
        (fun headers given => given.read.map (putHeader headers)) [] := by
  have ofFile : ∀ headers : Headers,
      file.target.headers.foldlM
          (fun headers header => addHeader headers header.1 header.2)
          headers =
        (file.target.headers.map fun header =>
          GivenHeader.named header.1 header.2).foldlM
            (fun headers given => given.read.map (putHeader headers))
            headers := by
    intro headers
    simp only [List.foldlM_map, addHeader_eq_map, GivenHeader.read]
  have ofLine : ∀ headers : Headers,
      line.headers.foldlM addWrittenHeader headers =
        (line.headers.map GivenHeader.written).foldlM
          (fun headers given => given.read.map (putHeader headers))
          headers := by
    intro headers
    rw [List.foldlM_map]
    congr 1
    funext headers text
    exact addWrittenHeader_eq_map text
  rw [givenHeaders, List.foldlM_append, List.foldlM_append, ← ofFile,
    bind_assoc]
  simp only [← ofLine]
  unfold resolveHeaders
  cases bearer line file with
  | none => simp
  | some token => simp [addBearer_eq_map]

/-! ## What comes of given headers -/

/-- All that was read, each header in place of an earlier one with its
name. -/
theorem resolveHeaders_eq_ok_iff :
    resolveHeaders line file = .ok headers ↔
      ∃ read,
        List.Forall₂ (fun given header => given.read = .ok header)
          (givenHeaders line file) read ∧
          read.foldl putHeader [] = headers := by
  rw [resolveHeaders_eq_foldlM]
  exact foldlM_read_eq_ok_iff

/-- The error is that of the first given header that cannot be read. -/
theorem resolveHeaders_eq_error_iff
    {fault : ConfigurationError} :
    resolveHeaders line file = .error fault ↔
      ∃ index given,
        FirstFault GivenHeader.read (givenHeaders line file) index given
          fault := by
  rw [resolveHeaders_eq_foldlM]
  exact foldlM_read_eq_error_iff

end Provision.Configuration
