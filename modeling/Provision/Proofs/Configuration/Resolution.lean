import Provision.Proofs.Configuration.Target

/-!
Contract: which requests have a configuration, and what is wrong with the
others.

The checks of a request are said without their order: a request is admissible
where all of them pass.  What an inadmissible one is told is the first of its
faults, which are sorted by what they are about.

Owns:
- the waiting times, the query and the commands that a request makes;
- the faults of waiting times, queries and entries;
- the configuration of a request, and the error in place of it.

Does not own: the target, and the reading of a single address or entry.
-/

namespace Provision.Configuration

variable {line : CommandLine} {file : BatchFile}

/-! ## The waiting times -/

/-- Both waiting times are positive, and the interval fits into the
timeout. -/
structure WaitsWell (line : CommandLine) (file : BatchFile) : Prop where
  timeoutPositive : 0 < timeout line file
  intervalPositive : 0 < pollInterval file
  intervalWithin : pollInterval file ≤ timeout line file

/-- The policy with the waiting times of a request. -/
def givenPolicy (line : CommandLine) (file : BatchFile) : ReloadPolicy :=
  { timeout := .ofSeconds (timeout line file).toNat
    pollInterval := .ofSeconds (pollInterval file).toNat }

/-- What is wrong with the waiting times, the timeout first. -/
inductive ReloadFault (line : CommandLine) (file : BatchFile) :
    ConfigurationError → Prop where
  | timeout
      (isZero : timeout line file = 0) :
      ReloadFault line file (.zeroWait .timeout)
  | interval
      (timeoutPositive : 0 < timeout line file)
      (isZero : pollInterval file = 0) :
      ReloadFault line file (.zeroWait .pollInterval)
  | tooLong
      (timeoutPositive : 0 < timeout line file)
      (isLonger : timeout line file < pollInterval file) :
      ReloadFault line file (.longInterval (timeout line file))

theorem resolveReload_eq_ok_iff
    {policy : ReloadPolicy} :
    resolveReload line file = .ok policy ↔
      WaitsWell line file ∧ policy = givenPolicy line file := by
  constructor
  · intro resolved
    unfold resolveReload at resolved
    dsimp only at resolved
    split at resolved
    · cases resolved
    · next timeoutGiven =>
        split at resolved
        · cases resolved
        · next intervalGiven =>
            split at resolved
            · cases resolved
            · next isWithin =>
                have waits : WaitsWell line file :=
                  { timeoutPositive := UInt64.pos_iff_ne_zero.mpr timeoutGiven
                    intervalPositive := UInt64.pos_iff_ne_zero.mpr intervalGiven
                    intervalWithin := UInt64.not_lt.mp isWithin }
                exact ⟨waits, (Except.ok.inj resolved).symm⟩
  · rintro ⟨waits, rfl⟩
    unfold resolveReload
    dsimp only
    rw [if_neg (UInt64.pos_iff_ne_zero.mp waits.timeoutPositive),
      if_neg (UInt64.pos_iff_ne_zero.mp waits.intervalPositive),
      if_neg (UInt64.not_lt.mpr waits.intervalWithin)]
    rfl

theorem resolveReload_eq_error_iff
    {error : ConfigurationError} :
    resolveReload line file = .error error ↔ ReloadFault line file error := by
  constructor
  · intro failed
    unfold resolveReload at failed
    dsimp only at failed
    split at failed
    · next isZero =>
        rw [← Except.error.inj failed]
        exact .timeout isZero
    · next timeoutGiven =>
        have timeoutPositive := UInt64.pos_iff_ne_zero.mpr timeoutGiven
        split at failed
        · next isZero =>
            rw [← Except.error.inj failed]
            exact .interval timeoutPositive isZero
        · split at failed
          · next isLonger =>
              rw [← Except.error.inj failed]
              exact .tooLong timeoutPositive isLonger
          · cases failed
  · intro fault
    unfold resolveReload
    dsimp only
    cases fault with
    | timeout isZero => rw [if_pos isZero]
    | interval timeoutPositive isZero =>
        rw [if_neg (UInt64.pos_iff_ne_zero.mp timeoutPositive), if_pos isZero]
    | tooLong timeoutPositive isLonger =>
        have intervalPositive := UInt64.lt_trans timeoutPositive isLonger
        rw [if_neg (UInt64.pos_iff_ne_zero.mp timeoutPositive),
          if_neg (UInt64.pos_iff_ne_zero.mp intervalPositive),
          if_pos isLonger]

/-! ## The query -/

/-- What is wrong with a query: there is no server to ask, or the address does
not parse. -/
inductive QueryFault (line : CommandLine) (file : BatchFile) :
    ConfigurationError → Prop where
  | document {address attributeName path : String}
      (asks : line.query? = some (address, attributeName))
      (names : NamesDocument line file path) :
      QueryFault line file .liveOnly
  | address {address attributeName text : String} {cause : Address.ParseError}
      (asks : line.query? = some (address, attributeName))
      (names : NamesServer line file text)
      (refused : Address.parse address = .error cause) :
      QueryFault line file (.invalidAddress cause)

/-- The query that a request makes of a target. -/
inductive MakesQuery (line : CommandLine) (target : Target) :
    Option Query → Prop where
  | none
      (asksNothing : line.query? = none) :
      MakesQuery line target none
  | some {text attributeName : String} {address : Address}
      (asks : line.query? = some (text, attributeName))
      (isLive : target.isOffline = false)
      (parses : Address.parse text = .ok address) :
      MakesQuery line target (some ⟨address, attributeName⟩)

theorem resolveQuery_eq_ok_iff
    {target : Target}
    {query : Option Query} :
    resolveQuery line target = .ok query ↔ MakesQuery line target query := by
  constructor
  · intro resolved
    unfold resolveQuery at resolved
    split at resolved
    · next asksNothing =>
        rw [← Except.ok.inj resolved]
        exact .none asksNothing
    · next text attributeName asks =>
        split at resolved
        · cases resolved
        · next isLive =>
            split at resolved
            · next address parses =>
                rw [← Except.ok.inj resolved]
                exact .some asks (Bool.eq_false_iff.mpr isLive) parses
            · cases resolved
  · intro makes
    cases makes with
    | none asksNothing => simp only [resolveQuery, asksNothing]
    | some asks isLive parses =>
        simp only [resolveQuery, asks, isLive, Bool.false_eq_true, if_false,
          parses]

theorem resolveQuery_eq_error_iff
    {target : Target}
    {error : ConfigurationError}
    (makes : MakesTarget line file target) :
    resolveQuery line target = .error error ↔ QueryFault line file error := by
  constructor
  · intro failed
    unfold resolveQuery at failed
    split at failed
    · cases failed
    · next address attributeName asks =>
        split at failed
        · next isOffline =>
            obtain ⟨path, names⟩ := makes.isOffline_iff.mp isOffline
            rw [← Except.error.inj failed]
            exact .document asks names
        · next isLive =>
            obtain ⟨text, names⟩ :=
              makes.isLive_iff.mp (Bool.eq_false_iff.mpr isLive)
            split at failed
            · cases failed
            · next cause refused =>
                rw [← Except.error.inj failed]
                exact .address asks names refused
  · intro fault
    cases fault with
    | document asks names =>
        have isOffline := makes.isOffline_iff.mpr ⟨_, names⟩
        simp only [resolveQuery, asks, isOffline, if_true]
    | address asks names refused =>
        have isLive := makes.isLive_iff.mpr ⟨_, names⟩
        simp only [resolveQuery, asks, isLive, Bool.false_eq_true, if_false,
          refused]

/-- If an attribute is asked for, there is a server and the address parses. -/
def HasAnswerableQuery (line : CommandLine) (file : BatchFile) : Prop :=
  ∀ address attributeName, line.query? = some (address, attributeName) →
    (∃ text, NamesServer line file text) ∧
      ∃ parsed, Address.parse address = .ok parsed

theorem exists_makesQuery_iff
    {target : Target}
    (makes : MakesTarget line file target) :
    (∃ query, MakesQuery line target query) ↔
      HasAnswerableQuery line file := by
  unfold HasAnswerableQuery
  rw [← makes.isLive_iff]
  constructor
  · rintro ⟨query, makesQuery⟩ address attributeName asks
    cases makesQuery with
    | none asksNothing =>
        rw [asksNothing] at asks
        cases asks
    | some asksThis isLive parses =>
        rw [asksThis] at asks
        cases asks
        exact ⟨isLive, _, parses⟩
  · intro isAnswered
    cases asks : line.query? with
    | none => exact ⟨_, .none asks⟩
    | some pair =>
        obtain ⟨isLive, parsed, parses⟩ := isAnswered pair.1 pair.2 asks
        exact ⟨_, .some asks isLive parses⟩

/-! ## The entries -/

/-- What is wrong with the entries: the first one of which no command is
made. -/
inductive EntryFault (file : BatchFile) : ConfigurationError → Prop where
  | first {index : Nat} {entry : ResourceDraft} {cause : BuildError}
      (isFirst : FirstFault ResourceDraft.command file.entries index entry
        cause) :
      EntryFault file (.invalidEntry index entry.kind cause)

theorem resolveEntriesFrom_eq_ok_iff
    {index : Nat}
    {entries : List ResourceDraft}
    {batch : Batch} :
    resolveEntriesFrom index entries = .ok batch ↔
      List.Forall₂ (fun entry command => entry.command = .ok command)
        entries batch := by
  induction entries generalizing index batch with
  | nil => simp [resolveEntriesFrom, eq_comm]
  | cons entry rest inductionHypothesis =>
      rw [List.forall₂_cons_left_iff, resolveEntriesFrom]
      cases entry.command with
      | error cause => simp
      | ok command =>
          simp only [map_eq_ok_iff, inductionHypothesis, Except.ok.injEq]
          constructor
          · rintro ⟨others, areRest, rfl⟩
            exact ⟨command, others, rfl, areRest, rfl⟩
          · rintro ⟨_, others, rfl, areRest, rfl⟩
            exact ⟨others, areRest, rfl⟩

/-- Positions are counted from the index of the first entry. -/
theorem resolveEntriesFrom_eq_error_iff
    {index : Nat}
    {entries : List ResourceDraft}
    {error : ConfigurationError} :
    resolveEntriesFrom index entries = .error error ↔
      ∃ before entry cause,
        FirstFault ResourceDraft.command entries before entry cause ∧
          error = .invalidEntry (index + before) entry.kind cause := by
  induction entries generalizing index with
  | nil => simp [resolveEntriesFrom, FirstFault.not_nil]
  | cons first rest inductionHypothesis =>
      rw [resolveEntriesFrom]
      cases made : first.command with
      | error cause =>
          simp only [FirstFault.cons_iff_of_error made, Except.error.injEq]
          constructor
          · rintro rfl
            exact ⟨0, first, cause, ⟨rfl, rfl, rfl⟩, rfl⟩
          · rintro ⟨_, _, _, ⟨rfl, rfl, rfl⟩, rfl⟩
            rfl
      | ok command =>
          simp only [FirstFault.cons_iff_of_ok made]
          rw [map_eq_error_iff, inductionHypothesis]
          constructor
          · rintro ⟨before, entry, cause, isFirst, rfl⟩
            refine ⟨before + 1, entry, cause, ⟨before, rfl, isFirst⟩, ?_⟩
            rw [Nat.add_right_comm, Nat.add_assoc]
          · rintro ⟨_, entry, cause, ⟨before, rfl, isFirst⟩, rfl⟩
            refine ⟨before, entry, cause, isFirst, ?_⟩
            rw [Nat.add_right_comm, Nat.add_assoc]

theorem resolveEntries_eq_error_iff
    {error : ConfigurationError} :
    resolveEntries file = .error error ↔ EntryFault file error := by
  rw [resolveEntries, resolveEntriesFrom_eq_error_iff]
  constructor
  · rintro ⟨index, entry, cause, isFirst, rfl⟩
    rw [Nat.zero_add]
    exact .first isFirst
  · intro fault
    cases fault with
    | first isFirst => exact ⟨_, _, _, isFirst, by rw [Nat.zero_add]⟩

/-! ## The whole -/

/-- The configuration that a request makes, part by part. -/
structure Makes
    (line : CommandLine)
    (file : BatchFile)
    (configuration : Configuration) : Prop where
  target : MakesTarget line file configuration.target
  waits : WaitsWell line file
  reload : configuration.reload = givenPolicy line file
  query : MakesQuery line configuration.target configuration.query
  batch : List.Forall₂ (fun entry command => entry.command = .ok command)
    file.entries configuration.batch
  dryRun : configuration.dryRun = line.dryRun
  verbose : configuration.verbose = line.verbose

theorem resolve_eq_ok_iff
    {configuration : Configuration} :
    resolve line file = .ok configuration ↔
      Makes line file configuration := by
  simp only [resolve, bind_eq_ok_iff, resolveTarget_eq_ok_iff,
    resolveReload_eq_ok_iff, resolveQuery_eq_ok_iff, resolveEntries,
    resolveEntriesFrom_eq_ok_iff]
  constructor
  · rintro ⟨target, isTarget, reload, ⟨waits, isReload⟩, query, isQuery, batch,
      isBatch, made⟩
    rw [← Except.ok.inj made]
    exact ⟨isTarget, waits, isReload, isQuery, isBatch, rfl, rfl⟩
  · intro makes
    refine ⟨_, makes.target, _, ⟨makes.waits, makes.reload⟩, _, makes.query, _,
      makes.batch, ?_⟩
    rw [← makes.dryRun, ← makes.verbose]
    rfl

/-- A request with nothing wrong in it. -/
structure Admissible (line : CommandLine) (file : BatchFile) : Prop where
  target : HasTarget line file
  waits : WaitsWell line file
  query : HasAnswerableQuery line file
  entries : ∀ entry ∈ file.entries, ∃ command, entry.command = .ok command

theorem exists_makes_iff_admissible :
    (∃ configuration, Makes line file configuration) ↔
      Admissible line file := by
  constructor
  · rintro ⟨configuration, makes⟩
    exact
      { target := exists_makesTarget_iff.mp ⟨_, makes.target⟩
        waits := makes.waits
        query := (exists_makesQuery_iff makes.target).mp ⟨_, makes.query⟩
        entries := exists_forall₂_eq_ok_iff.mp ⟨_, makes.batch⟩ }
  · intro admissible
    obtain ⟨target, isTarget⟩ := exists_makesTarget_iff.mpr admissible.target
    obtain ⟨query, isQuery⟩ :=
      (exists_makesQuery_iff isTarget).mpr admissible.query
    obtain ⟨batch, isBatch⟩ := exists_forall₂_eq_ok_iff.mpr admissible.entries
    let configuration : Configuration :=
      { target
        reload := givenPolicy line file
        batch
        query
        dryRun := line.dryRun
        verbose := line.verbose }
    exact ⟨configuration, isTarget, admissible.waits, rfl, isQuery, isBatch,
      rfl, rfl⟩

/-- What every configuration holds, wherever it comes from: a command for each
entry, waiting times that fit, and a query only where there is a server. -/
structure WellFormed (file : BatchFile) (configuration : Configuration) :
    Prop where
  batch : List.Forall₂ (fun entry command => entry.command = .ok command)
    file.entries configuration.batch
  intervalPositive : 0 < configuration.reload.pollInterval.nanoseconds
  intervalWithin : configuration.reload.pollInterval.nanoseconds ≤
    configuration.reload.timeout.nanoseconds
  queryLive : configuration.query.isSome →
    configuration.target.isOffline = false

theorem Makes.wellFormed
    {configuration : Configuration}
    (makes : Makes line file configuration) :
    WellFormed file configuration := by
  have intervalPositive : 0 < (pollInterval file).toNat :=
    UInt64.lt_iff_toNat_lt.mp makes.waits.intervalPositive
  have intervalWithin : (pollInterval file).toNat ≤ (timeout line file).toNat :=
    UInt64.le_iff_toNat_le.mp makes.waits.intervalWithin
  refine ⟨makes.batch, ?_, ?_, fun isAsked => ?_⟩
  · rw [makes.reload]
    exact Nat.mul_pos intervalPositive (by decide)
  · rw [makes.reload]
    exact Nat.mul_le_mul_right _ intervalWithin
  · obtain ⟨query, isQuery⟩ := Option.isSome_iff_exists.mp isAsked
    have makesQuery := makes.query
    rw [isQuery] at makesQuery
    cases makesQuery with
    | some asks isLive parses => exact isLive

/-- The sorts of faults in the order in which they are told. -/
def faults (line : CommandLine) (file : BatchFile) :
    List (ConfigurationError → Prop) :=
  [TargetFault line file, ReloadFault line file, QueryFault line file,
    EntryFault file]

theorem resolve_eq_error_iff
    {error : ConfigurationError} :
    resolve line file = .error error ↔ FirstOf (faults line file) error := by
  refine bind_eq_error_iff_firstOf (fun _ => resolveTarget_eq_error_iff)
    (fun target isTarget => ?_) error
  refine bind_eq_error_iff_firstOf (fun _ => resolveReload_eq_error_iff)
    fun reload isReload => ?_
  refine bind_eq_error_iff_firstOf
    (fun _ => resolveQuery_eq_error_iff (resolveTarget_eq_ok_iff.mp isTarget))
    fun query isQuery => ?_
  refine bind_eq_error_iff_firstOf (fun _ => resolveEntries_eq_error_iff)
    fun batch isBatch other => ?_
  exact iff_of_false (fun isError => by cases isError) id

/-- A timeout of zero is told before a query that no server can answer. -/
example :
    resolve
        { action := some (.query "/subsystem=elytron" "final-providers")
          document := some "standalone.json"
          reloadTimeout := some 0 } { } =
      .error (.zeroWait .timeout) :=
  rfl

/-- **Every configuration is well-formed, and errors come in a fixed order.**
For every command line and batch file, or none, there is a configuration
exactly where the request is admissible; it is well-formed.  Else the error is
a fault of the first sort of which there is any: of the target with its
headers, of the waiting times, of the query, or of the first entry of which no
command is made. -/
theorem resolve_accepts_admissible
    (line : CommandLine)
    (given : Option BatchFile) :
    let file := given.getD { }
    ((∃ configuration, resolve line file = .ok configuration) ↔
      Admissible line file) ∧
    (∀ configuration, resolve line file = .ok configuration →
      WellFormed file configuration) ∧
    (∀ error, resolve line file = .error error ↔
      FirstOf (faults line file) error) := by
  dsimp only
  refine ⟨?_, fun configuration resolved => ?_, fun error => ?_⟩
  · simp only [resolve_eq_ok_iff]
    exact exists_makes_iff_admissible
  · exact (resolve_eq_ok_iff.mp resolved).wellFormed
  · exact resolve_eq_error_iff

end Provision.Configuration
