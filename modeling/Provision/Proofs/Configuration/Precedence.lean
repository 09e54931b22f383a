import Provision.Proofs.Configuration.Resolution

/-!
Contract: what the command line says goes before what the batch file says.

A command line and a batch file are looked at together: the target of the one
that decides, the headers of both, one bearer, one timeout, and what only one
of them can say.  Two such pairs that say the same come to the same
configuration or to the same error.  So it does not matter in which of the two
places a setting stands, nor what the file says where the command line says it
too.

Owns:
- pairs that say the same, and the outcome that they share;
- the one error that tells where a setting stands;
- the settings that can stand in both places.

Does not own: what comes of a command line and a file.
-/

namespace Provision

/-- The error as it is told where the two targets stand in another place. -/
def ConfigurationError.toldOf (source : TargetSource) :
    ConfigurationError → ConfigurationError
  | .twoTargets _ => .twoTargets source
  | other => other

namespace Configuration

variable {line otherLine : CommandLine} {file otherFile : BatchFile}
  {source : TargetSource}

/-! ## Targets that are named twice -/

/-- A locator and a document are named in one place. -/
def NamesTwo (line : CommandLine) (file : BatchFile)
    (source : TargetSource) : Prop :=
  ∃ text path, Decides line file (some text) (some path) source

/-- Two targets are told of exactly where they are named. -/
theorem resolve_eq_twoTargets_iff :
    resolve line file = .error (.twoTargets source) ↔
      NamesTwo line file source := by
  rw [resolve_eq_error_iff, faults, FirstOf]
  constructor
  · rintro (ofTarget | ⟨-, ofReload | ⟨-, ofQuery | ⟨-, ofEntries | none⟩⟩⟩)
    · cases ofTarget with
      | twice decides => exact ⟨_, _, decides⟩
      | header _ _ isFirst => cases GivenHeader.fault_of_read isFirst.fails
    · cases ofReload
    · cases ofQuery
    · cases ofEntries
    · exact none.2.elim
  · rintro ⟨text, path, decides⟩
    exact Or.inl (.twice decides)

/-! ## Pairs that say the same -/

/-- A command line with a file says the same as another one with another
file. -/
structure SaysTheSame
    (line : CommandLine) (file : BatchFile)
    (otherLine : CommandLine) (otherFile : BatchFile) : Prop where
  url : (deciding line file).1 = (deciding otherLine otherFile).1
  document : (deciding line file).2.1 = (deciding otherLine otherFile).2.1
  headers : givenHeaders line file = givenHeaders otherLine otherFile
  timeout : timeout line file = timeout otherLine otherFile
  pollInterval : pollInterval file = pollInterval otherFile
  query : line.query? = otherLine.query?
  entries : file.entries = otherFile.entries
  dryRun : line.dryRun = otherLine.dryRun
  verbose : line.verbose = otherLine.verbose

namespace SaysTheSame

theorem resolveHeaders_eq
    (same : SaysTheSame line file otherLine otherFile) :
    resolveHeaders otherLine otherFile = resolveHeaders line file := by
  rw [resolveHeaders_eq_foldlM, resolveHeaders_eq_foldlM, same.headers]

/-- The target is named once, so that it does not matter where. -/
theorem resolveTarget_eq
    (same : SaysTheSame line file otherLine otherFile)
    (namedOnce : ∀ source, ¬NamesTwo line file source) :
    resolveTarget otherLine otherFile = resolveTarget line file := by
  have sameUrl := same.url
  have sameDocument := same.document
  unfold resolveTarget
  rw [same.resolveHeaders_eq]
  rcases named : deciding line file with ⟨url, document, source⟩
  rcases otherNamed : deciding otherLine otherFile with
    ⟨otherUrl, otherDocument, otherSource⟩
  rw [named, otherNamed] at sameUrl sameDocument
  dsimp only at sameUrl sameDocument
  subst sameUrl sameDocument
  cases url with
  | none => cases document <;> rfl
  | some text =>
      cases document with
      | none => rfl
      | some path =>
          exact absurd ⟨text, path, decides_iff.mpr named⟩ (namedOnce source)

theorem resolveReload_eq
    (same : SaysTheSame line file otherLine otherFile) :
    resolveReload otherLine otherFile = resolveReload line file := by
  unfold resolveReload
  rw [same.timeout, same.pollInterval]

theorem resolveQuery_eq
    (same : SaysTheSame line file otherLine otherFile)
    (target : Target) :
    resolveQuery otherLine target = resolveQuery line target := by
  unfold resolveQuery
  rw [same.query]

theorem resolve_eq_of_namedOnce
    (same : SaysTheSame line file otherLine otherFile)
    (namedOnce : ∀ source, ¬NamesTwo line file source) :
    resolve otherLine otherFile = resolve line file := by
  unfold resolve resolveEntries
  rw [same.resolveTarget_eq namedOnce, same.resolveReload_eq, same.entries,
    same.dryRun, same.verbose]
  simp only [same.resolveQuery_eq]

/-- Where the target is named twice, the place in which the other pair names
it is told; all else is told alike. -/
theorem resolve_eq
    (same : SaysTheSame line file otherLine otherFile)
    (isPlace : ∀ other, NamesTwo otherLine otherFile other → other = source) :
    resolve otherLine otherFile =
      (resolve line file).mapError (·.toldOf source) := by
  by_cases namedTwice : ∃ place, NamesTwo line file place
  · obtain ⟨place, text, path, decides⟩ := namedTwice
    have named := decides_iff.mp decides
    have otherNamed : NamesTwo otherLine otherFile
        (deciding otherLine otherFile).2.2 := by
      refine ⟨text, path, decides_iff.mpr ?_⟩
      rw [Prod.ext_iff, Prod.ext_iff, ← same.url, ← same.document, named]
      exact ⟨rfl, rfl, rfl⟩
    rw [resolve_eq_twoTargets_iff.mpr otherNamed, isPlace _ otherNamed,
      resolve_eq_twoTargets_iff.mpr ⟨text, path, decides⟩]
    rfl
  · rw [not_exists] at namedTwice
    rw [same.resolve_eq_of_namedOnce namedTwice]
    cases resolved : resolve line file with
    | ok configuration => rfl
    | error error =>
        cases error with
        | twoTargets place =>
            exact absurd (resolve_eq_twoTargets_iff.mp resolved)
              (namedTwice place)
        | _ => rfl

theorem refl (line : CommandLine) (file : BatchFile) :
    SaysTheSame line file line file :=
  ⟨rfl, rfl, rfl, rfl, rfl, rfl, rfl, rfl, rfl⟩

/-- The target of both pairs is named in the same place. -/
theorem resolve_eq_of_source
    (same : SaysTheSame line file otherLine otherFile)
    (sameSource : (deciding line file).2.2 =
      (deciding otherLine otherFile).2.2) :
    resolve otherLine otherFile = resolve line file := by
  have isPlace : ∀ other, NamesTwo otherLine otherFile other →
      other = (deciding line file).2.2 := by
    rintro other ⟨text, path, decides⟩
    rw [sameSource, decides_iff.mp decides]
  have alsoPlace : ∀ other, NamesTwo line file other →
      other = (deciding line file).2.2 := by
    rintro other ⟨text, path, decides⟩
    rw [decides_iff.mp decides]
  rw [same.resolve_eq isPlace, ← (refl line file).resolve_eq alsoPlace]

end SaysTheSame

/-! ## Settings that can stand in both places -/

/-- The command line decides the target, so that the file's is not looked
at. -/
theorem resolve_ignores_target
    (names : line.url.isSome ∨ line.document.isSome)
    (url document : Option String) :
    resolve line { file with target.url := url, target.document := document } =
      resolve line file := by
  let other : BatchFile :=
    { file with target.url := url, target.document := document }
  have sameNamed : deciding line file = deciding line other := by
    have named : deciding line file = _ := decides_iff.mp (.commandLine names)
    have otherNamed : deciding line other = _ :=
      decides_iff.mp (.commandLine names)
    rw [named, otherNamed]
  have same : SaysTheSame line file line other :=
    ⟨by rw [sameNamed], by rw [sameNamed], rfl, rfl, rfl, rfl, rfl, rfl, rfl⟩
  exact same.resolve_eq_of_source (by rw [sameNamed])

/-- The target of the file may move to a command line without one; only where
it is named twice is the place told. -/
theorem resolve_moved_target
    (namesNoUrl : line.url = none)
    (namesNoDocument : line.document = none) :
    resolve
        { line with
          url := file.target.url
          document := file.target.document }
        { file with target.url := none, target.document := none } =
      (resolve line file).mapError (·.toldOf .commandLine) := by
  have named : deciding line file = _ :=
    decides_iff.mp (.batchFile namesNoUrl namesNoDocument)
  have same : SaysTheSame line file
      { line with url := file.target.url, document := file.target.document }
      { file with target.url := none, target.document := none } := by
    -- A file that names neither leaves a command line that names neither.
    refine ⟨?_, ?_, rfl, rfl, rfl, rfl, rfl, rfl, rfl⟩ <;>
      · rw [named]
        cases url : file.target.url <;>
          cases document : file.target.document <;>
            simp [deciding]
  refine same.resolve_eq ?_
  rintro other ⟨text, path, decides⟩
  have movedNamed := decides_iff.mp decides
  unfold deciding at movedNamed
  split at movedNamed
  · exact (congrArg (·.2.2) movedNamed).symm
  · cases movedNamed

/-- Only the bearer that the two give together counts. -/
theorem resolve_bearer_congr
    {lineBearer fileBearer : Option String}
    (sameBearer : lineBearer.or fileBearer = bearer line file) :
    resolve { line with bearer := lineBearer }
        { file with target.bearer := fileBearer } =
      resolve line file := by
  have same : SaysTheSame line file { line with bearer := lineBearer }
      { file with target.bearer := fileBearer } := by
    refine ⟨rfl, rfl, ?_, rfl, rfl, rfl, rfl, rfl, rfl⟩
    rw [givenHeaders, givenHeaders, ← sameBearer]
    rfl
  exact same.resolve_eq_of_source rfl

/-- Only the timeout that the two give together counts. -/
theorem resolve_timeout_congr
    {lineTimeout fileTimeout : Option UInt64}
    (sameTimeout : lineTimeout.or fileTimeout =
      line.reloadTimeout.or file.reload.timeout) :
    resolve { line with reloadTimeout := lineTimeout }
        { file with reload.timeout := fileTimeout } =
      resolve line file := by
  have same : SaysTheSame line file { line with reloadTimeout := lineTimeout }
      { file with reload.timeout := fileTimeout } := by
    refine ⟨rfl, rfl, rfl, ?_, rfl, rfl, rfl, rfl, rfl⟩
    rw [timeout, timeout, sameTimeout]
  exact same.resolve_eq_of_source rfl

/-- **The command line goes before the file and equals it in effect.**  Where
the command line names a target, gives a bearer or gives a timeout, what the
file says of it has no influence, not even a fault.  Where it does not, the
file's setting may stand on the command line just as well; only the error for
a target that is named twice tells the place. -/
theorem line_goes_before_file
    (line : CommandLine)
    (file : BatchFile) :
    (line.url.isSome ∨ line.document.isSome →
      ∀ url document : Option String,
        resolve line
            { file with target.url := url, target.document := document } =
          resolve line file) ∧
    (line.url = none → line.document = none →
      resolve
          { line with
            url := file.target.url
            document := file.target.document }
          { file with target.url := none, target.document := none } =
        (resolve line file).mapError (·.toldOf .commandLine)) ∧
    (line.bearer.isSome → ∀ bearer : Option String,
      resolve line { file with target.bearer := bearer } =
        resolve line file) ∧
    (line.bearer = none →
      resolve { line with bearer := file.target.bearer }
          { file with target.bearer := none } =
        resolve line file) ∧
    (line.reloadTimeout.isSome → ∀ timeout : Option UInt64,
      resolve line { file with reload.timeout := timeout } =
        resolve line file) ∧
    (line.reloadTimeout = none →
      resolve { line with reloadTimeout := file.reload.timeout }
          { file with reload.timeout := none } =
        resolve line file) := by
  refine ⟨resolve_ignores_target, resolve_moved_target,
    fun isGiven bearer => resolve_bearer_congr ?_,
    fun isMissing => resolve_bearer_congr ?_,
    fun isGiven timeout => resolve_timeout_congr ?_,
    fun isMissing => resolve_timeout_congr ?_⟩
  · rw [Configuration.bearer, Option.or_of_isSome isGiven,
      Option.or_of_isSome isGiven]
  · rw [bearer, isMissing, Option.none_or, Option.or_none]
  · rw [Option.or_of_isSome isGiven, Option.or_of_isSome isGiven]
  · rw [isMissing, Option.none_or, Option.or_none]

/-- A file that names a server and a document, and with a bearer that cannot
be sent and no time to wait. -/
def faultyFile : BatchFile where
  target :=
    { url := some "http://localhost:9990/management"
      document := some "standalone.json"
      bearer := some "one\ntwo" }
  reload := { timeout := some 0 }

theorem line_goes_before_file_sample :
    let outspoken : CommandLine :=
      { document := some "domain.json"
        bearer := some "token"
        reloadTimeout := some 5 }
    let silent : CommandLine := { }
    (outspoken.url.isSome ∨ outspoken.document.isSome) ∧
    outspoken.bearer.isSome ∧ outspoken.reloadTimeout.isSome ∧
    silent.url = none ∧ silent.document = none ∧ silent.bearer = none ∧
    silent.reloadTimeout = none ∧
    resolve outspoken
        { faultyFile with target.url := none, target.document := none } =
      resolve outspoken faultyFile ∧
    resolve outspoken { faultyFile with target.bearer := none } =
      resolve outspoken faultyFile ∧
    resolve outspoken { faultyFile with reload.timeout := none } =
      resolve outspoken faultyFile ∧
    resolve
        { silent with
          url := faultyFile.target.url
          document := faultyFile.target.document }
        { faultyFile with target.url := none, target.document := none } =
      .error (.twoTargets .commandLine) ∧
    resolve { silent with bearer := faultyFile.target.bearer }
        { faultyFile with target.bearer := none } =
      resolve silent faultyFile ∧
    resolve { silent with reloadTimeout := faultyFile.reload.timeout }
        { faultyFile with reload.timeout := none } =
      resolve silent faultyFile := by
  intro outspoken silent
  obtain ⟨ignoresTarget, -, ignoresBearer, -, ignoresTimeout, -⟩ :=
    line_goes_before_file outspoken faultyFile
  obtain ⟨-, movedTarget, -, movedBearer, -, movedTimeout⟩ :=
    line_goes_before_file silent faultyFile
  exact ⟨Or.inr rfl, rfl, rfl, rfl, rfl, rfl, rfl,
    ignoresTarget (Or.inr rfl) none none, ignoresBearer rfl none,
    ignoresTimeout rfl none, movedTarget rfl rfl, movedBearer rfl,
    movedTimeout rfl⟩

end Configuration
end Provision
