import Provision.Configuration
import Provision.Proofs.Configuration.Headers

/-!
Contract: the target of a run, and what can be wrong with it.

Owns:
- the locators of the web;
- the place that decides the target, and what it names;
- the target that is made of a server or a document;
- the faults of targets.

Does not own: the reading of a single header, or of the rest of a request.
-/

namespace Provision

namespace Endpoint

/-- A text begins with the name of a scheme of the web. -/
def Url.IsOfWeb (text : String) : Prop :=
  ∃ name rest, cutScheme (readable text) = some (name, rest) ∧
    (name = "http" ∨ name = "https")

theorem Scheme.isWeb_of_ofText?
    {name : String}
    {scheme : Scheme}
    (found : ofText? name = some scheme) :
    name = "http" ∨ name = "https" := by
  have isName : decide (scheme.text = name) = true :=
    List.find?_some (p := fun scheme : Scheme => scheme.text = name) found
  rw [← of_decide_eq_true isName]
  cases scheme with
  | http => exact .inl rfl
  | https => exact .inr rfl

/-- Only locators of the web are parsed. -/
theorem Url.isOfWeb_of_parse
    {text : String}
    {url : Url}
    (parses : parse text = .ok url) :
    IsOfWeb text := by
  unfold parse at parses
  split at parses
  · cases parses
  · next name rest isCut =>
      split at parses
      · next scheme found =>
          exact ⟨name, rest, isCut, Scheme.isWeb_of_ofText? found⟩
      · rw [bind_eq_ok_iff] at parses
        obtain ⟨_, -, thrown⟩ := parses
        cases thrown

end Endpoint

namespace Configuration

variable {line : CommandLine} {file : BatchFile}

/-! ## The target -/

/-- The command line decides the target where it names a locator or a
document; else the batch file does, whatever it names. -/
inductive Decides (line : CommandLine) (file : BatchFile) :
    Option String → Option String → TargetSource → Prop where
  | commandLine
      (names : line.url.isSome ∨ line.document.isSome) :
      Decides line file line.url line.document .commandLine
  | batchFile
      (namesNoUrl : line.url = none)
      (namesNoDocument : line.document = none) :
      Decides line file file.target.url file.target.document .batchFile

theorem decides_iff
    {url document : Option String}
    {source : TargetSource} :
    Decides line file url document source ↔
      deciding line file = (url, document, source) := by
  unfold deciding
  constructor
  · intro decides
    cases decides with
    | commandLine names => rw [if_pos (by simpa using names)]
    | batchFile namesNoUrl namesNoDocument =>
        rw [namesNoUrl, namesNoDocument]
        rfl
  · intro isDeciding
    split at isDeciding
    · next names =>
        cases isDeciding
        exact .commandLine (by simpa using names)
    · next namesNone =>
        cases isDeciding
        simp only [Bool.or_eq_true, not_or, Option.not_isSome_iff_eq_none]
          at namesNone
        exact .batchFile namesNone.1 namesNone.2

/-- A server and no document is named. -/
def NamesServer (line : CommandLine) (file : BatchFile) (text : String) :
    Prop :=
  ∃ source, Decides line file (some text) none source

/-- A document and no server is named. -/
def NamesDocument (line : CommandLine) (file : BatchFile) (path : String) :
    Prop :=
  ∃ source, Decides line file none (some path) source

/-- Who names a document names no server. -/
theorem NamesDocument.not_namesServer
    {text path : String}
    (names : NamesDocument line file path) :
    ¬NamesServer line file text := by
  intro namesServer
  obtain ⟨source, decides⟩ := names
  obtain ⟨otherSource, others⟩ := namesServer
  have same := (decides_iff.mp decides).symm.trans (decides_iff.mp others)
  cases same

/-- The target of a run: a server, all of whose headers are read, or a
document. -/
inductive MakesTarget (line : CommandLine) (file : BatchFile) :
    Target → Prop where
  | server {text : String} {url : Endpoint.Url}
      {read : List (Endpoint.HeaderName × Endpoint.HeaderValue)}
      (names : NamesServer line file text)
      (parses : Endpoint.Url.parse text = .ok url)
      (areRead : List.Forall₂ (fun given header => given.read = .ok header)
        (givenHeaders line file) read) :
      MakesTarget line file (.live url (read.foldl putHeader []))
  | document {path : String}
      (names : NamesDocument line file path) :
      MakesTarget line file (.offline path)

/-- What can be wrong with a target.  The headers matter only where the
locator is right. -/
inductive TargetFault (line : CommandLine) (file : BatchFile) :
    ConfigurationError → Prop where
  | unnamed {source : TargetSource}
      (decides : Decides line file none none source) :
      TargetFault line file .noTarget
  | twice {text path : String} {source : TargetSource}
      (decides : Decides line file (some text) (some path) source) :
      TargetFault line file (.twoTargets source)
  | url {text : String} {cause : Endpoint.Refusal}
      (names : NamesServer line file text)
      (refused : Endpoint.Url.parse text = .error cause) :
      TargetFault line file (.invalidUrl text cause)
  | header {text : String} {url : Endpoint.Url} {index : Nat}
      {given : GivenHeader} {fault : ConfigurationError}
      (names : NamesServer line file text)
      (parses : Endpoint.Url.parse text = .ok url)
      (isFirst : FirstFault GivenHeader.read (givenHeaders line file) index
        given fault) :
      TargetFault line file fault

theorem endpoint_eq_ok_iff
    {text : String}
    {url : Endpoint.Url} :
    endpoint text = .ok url ↔ Endpoint.Url.parse text = .ok url := by
  unfold endpoint
  cases Endpoint.Url.parse text <;> simp

theorem endpoint_eq_error_iff
    {text : String}
    {error : ConfigurationError} :
    endpoint text = .error error ↔
      ∃ cause, Endpoint.Url.parse text = .error cause ∧
        .invalidUrl text cause = error := by
  unfold endpoint
  cases Endpoint.Url.parse text <;> simp

/-- The target of a server is made of its locator and the headers. -/
theorem resolveTarget_of_namesServer
    {text : String}
    (names : NamesServer line file text) :
    resolveTarget line file = do
      let url ← endpoint text
      return .live url (← resolveHeaders line file) := by
  obtain ⟨source, decides⟩ := names
  rw [resolveTarget, decides_iff.mp decides]

theorem resolveTarget_eq_ok_iff
    {target : Target} :
    resolveTarget line file = .ok target ↔ MakesTarget line file target := by
  constructor
  · intro resolved
    unfold resolveTarget at resolved
    split at resolved
    · cases resolved
    · next text source isDeciding =>
        obtain ⟨url, isEndpoint, resolved⟩ := bind_eq_ok_iff.mp resolved
        obtain ⟨headers, areHeaders, isTarget⟩ := bind_eq_ok_iff.mp resolved
        obtain ⟨read, areRead, rfl⟩ := resolveHeaders_eq_ok_iff.mp areHeaders
        rw [← Except.ok.inj isTarget]
        exact .server ⟨source, decides_iff.mpr isDeciding⟩
          (endpoint_eq_ok_iff.mp isEndpoint) areRead
    · next path source isDeciding =>
        rw [← Except.ok.inj resolved]
        exact .document ⟨source, decides_iff.mpr isDeciding⟩
    · cases resolved
  · intro makes
    cases makes with
    | server names parses areRead =>
        rw [resolveTarget_of_namesServer names, endpoint_eq_ok_iff.mpr parses,
          resolveHeaders_eq_ok_iff.mpr ⟨_, areRead, rfl⟩]
        rfl
    | document names =>
        obtain ⟨source, decides⟩ := names
        rw [resolveTarget, decides_iff.mp decides]

theorem resolveTarget_eq_error_iff
    {error : ConfigurationError} :
    resolveTarget line file = .error error ↔ TargetFault line file error := by
  constructor
  · intro failed
    unfold resolveTarget at failed
    split at failed
    · next text path source isDeciding =>
        rw [← Except.error.inj failed]
        exact .twice (decides_iff.mpr isDeciding)
    · next text source isDeciding =>
        have names : NamesServer line file text :=
          ⟨source, decides_iff.mpr isDeciding⟩
        rcases bind_eq_error_iff.mp failed with isUrl | ⟨url, isEndpoint, failed⟩
        · obtain ⟨cause, refused, rfl⟩ := endpoint_eq_error_iff.mp isUrl
          exact .url names refused
        · have parses := endpoint_eq_ok_iff.mp isEndpoint
          rcases bind_eq_error_iff.mp failed with isHeader | ⟨_, -, isNone⟩
          · obtain ⟨index, given, isFirst⟩ :=
              resolveHeaders_eq_error_iff.mp isHeader
            exact .header names parses isFirst
          · cases isNone
    · cases failed
    · next source isDeciding =>
        rw [← Except.error.inj failed]
        exact .unnamed (decides_iff.mpr isDeciding)
  · intro fault
    cases fault with
    | unnamed decides => rw [resolveTarget, decides_iff.mp decides]
    | twice decides => rw [resolveTarget, decides_iff.mp decides]
    | url names refused =>
        rw [resolveTarget_of_namesServer names,
          endpoint_eq_error_iff.mpr ⟨_, refused, rfl⟩]
        rfl
    | header names parses isFirst =>
        rw [resolveTarget_of_namesServer names, endpoint_eq_ok_iff.mpr parses,
          resolveHeaders_eq_error_iff.mpr ⟨_, _, isFirst⟩]
        rfl

/-! ## What is named and what is made -/

/-- A locator that can be reached with all given headers is named, or a
document, for which the headers are not looked at. -/
def HasTarget (line : CommandLine) (file : BatchFile) : Prop :=
  (∃ text, NamesServer line file text ∧ Endpoint.Url.IsOfWeb text ∧
    (∃ url, Endpoint.Url.parse text = .ok url) ∧
    ∀ given ∈ givenHeaders line file, ∃ header, given.read = .ok header) ∨
  ∃ path, NamesDocument line file path

theorem exists_makesTarget_iff :
    (∃ target, MakesTarget line file target) ↔ HasTarget line file := by
  constructor
  · rintro ⟨target, makes⟩
    cases makes with
    | server names parses areRead =>
        have isOfWeb := Endpoint.Url.isOfWeb_of_parse parses
        have eachRead := exists_forall₂_eq_ok_iff.mp ⟨_, areRead⟩
        exact .inl ⟨_, names, isOfWeb, ⟨_, parses⟩, eachRead⟩
    | document names => exact .inr ⟨_, names⟩
  · rintro (⟨text, names, -, ⟨url, parses⟩, eachRead⟩ | ⟨path, names⟩)
    · obtain ⟨read, areRead⟩ := exists_forall₂_eq_ok_iff.mpr eachRead
      exact ⟨_, .server names parses areRead⟩
    · exact ⟨_, .document names⟩

theorem MakesTarget.isLive_iff
    {target : Target}
    (makes : MakesTarget line file target) :
    target.isOffline = false ↔ ∃ text, NamesServer line file text := by
  cases makes with
  | server names parses areRead => exact iff_of_true rfl ⟨_, names⟩
  | document names =>
      refine iff_of_false (by simp [Target.isOffline]) ?_
      exact fun ⟨_, namesServer⟩ => names.not_namesServer namesServer

theorem MakesTarget.isOffline_iff
    {target : Target}
    (makes : MakesTarget line file target) :
    target.isOffline = true ↔ ∃ path, NamesDocument line file path := by
  cases makes with
  | server names parses areRead =>
      refine iff_of_false (by simp [Target.isOffline]) ?_
      exact fun ⟨_, namesDocument⟩ => namesDocument.not_namesServer names
  | document names => exact iff_of_true rfl ⟨_, names⟩

end Configuration

end Provision
