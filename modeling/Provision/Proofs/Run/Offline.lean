import Provision.Proofs.Command.Agreement
import Provision.Proofs.Document.File
import Provision.Run

/-!
Contract: what a run does to the document in a file.

The transforms of a batch are applied one after the other, and each of them
reads and writes the whole file.  The file ends up with the document that the
transforms make in memory, up to the first one that is refused.

Owns:
- how far transforms succeed in memory;
- the run of a list of transforms on a file;
- the law of a run on a document.

Does not own: a single transform, and runs on a server.
-/

namespace Provision

namespace Document.Registry

/-- How far transforms succeed one after the other: their number up to the
first one that is refused, and the document after them. -/
def applyPrefix (registry : Registry) : Json → List Transform → Nat × Json
  | document, [] => (0, document)
  | document, transform :: rest =>
      match registry.apply document transform with
      | .error _ => (0, document)
      | .ok changed =>
          let reached := registry.applyPrefix changed rest
          (reached.1 + 1, reached.2)

/-- The transforms that succeed are the first ones, the document is the one
after them, and the next transform is refused on it. -/
theorem applyPrefix_spec (registry : Registry) (document : Json)
    (transforms : List Transform) :
    let reached := registry.applyPrefix document transforms
    (transforms.take reached.1).foldlM registry.apply document =
        .ok reached.2 ∧
      ∀ next, transforms[reached.1]? = some next →
        ∃ cause, registry.apply reached.2 next = .error cause := by
  induction transforms generalizing document with
  | nil => exact ⟨rfl, fun next isNext => by cases isNext⟩
  | cons transform rest inductionHypothesis =>
      cases applied : registry.apply document transform with
      | error cause =>
          simp only [applyPrefix, applied]
          refine ⟨rfl, fun next isNext => ?_⟩
          cases isNext
          exact ⟨cause, applied⟩
      | ok changed =>
          simp only [applyPrefix, applied]
          obtain ⟨isReached, isRefused⟩ := inductionHypothesis changed
          refine ⟨?_, isRefused⟩
          rw [List.take_succ_cons, List.foldlM_cons, applied]
          exact isReached

end Document.Registry

/-! ## Transforms on a file -/

/-- The transform is the one that adds a resource. -/
def Document.Transform.IsAddition (transform : Document.Transform) : Prop :=
  ∃ (resource : Resource) (id : String),
    resource.kind.transformId? = some id ∧ resource.transform id = transform

theorem Command.IsBuiltFrom.isAddition {kinds : List ResourceKind}
    {command : Command} (isBuilt : command.IsBuiltFrom kinds)
    {transform : Document.Transform}
    (isOffline : command.offline = some transform) : transform.IsAddition := by
  obtain ⟨resource, -, rfl⟩ := isBuilt.exists_resource
  rw [resource.offline_command] at isOffline
  obtain ⟨id, isId, isTransform⟩ := Option.map_eq_some_iff.mp isOffline
  exact ⟨resource, id, isId, isTransform⟩

namespace Configuration

variable {path : String} {files : FileSystem} {document : Json}

/-- Transforms that add resources are carried out in the file as far as they
succeed in memory, and the file holds the document after them. -/
theorem runFrom_transforms (index : Nat)
    (items : List (Command × Document.Transform))
    (additions : ∀ item ∈ items, item.2.IsAddition)
    (holds : (documentFile path).Holds files document) :
    let ran := (Batch.runInOrder (fun item => item.1.kind)
      (fun item => Command.applyTransform (documentFile path).backend item.1
        item.2) index items).runFrom files
    let reached := offlineTransforms.applyPrefix document
      (items.map Prod.snd)
    (reached.1 = items.length → ran.1 = .ok (index + items.length)) ∧
      (reached.1 ≠ items.length → ∃ error, ran.1 = .error error ∧
        error.index = index + reached.1) ∧
      (documentFile path).load ran.2 = .ok reached.2 ∧
      (reached.1 = 0 → ran.2 = files) := by
  -- What the induction carries is that the file holds the document so far.
  induction items generalizing index files document with
  | nil => exact ⟨fun _ => rfl, fun isOther => absurd rfl isOther, holds.loads,
      fun _ => rfl⟩
  | cons item rest inductionHypothesis =>
      rw [Batch.runFrom_runInOrder_cons, List.map_cons,
        Document.Registry.applyPrefix]
      cases applied : offlineTransforms.apply document item.2 with
      | error cause =>
          have isRefused := DocumentFile.runFrom_apply_of_refused holds.loads
            applied
          have isRun : (Command.applyTransform (documentFile path).backend
              item.1 item.2).runFrom files =
              (.error (.failed item.1.address .add (.document (.refused cause))),
                files) := by
            rw [Command.applyTransform, Command.atStep, Attempt.runFrom_adapt,
              DocumentFile.backend, isRefused]
            rfl
          rw [isRun]
          refine ⟨fun isAll => ?_, fun _ => ⟨_, rfl, rfl⟩, holds.loads,
            fun _ => rfl⟩
          cases isAll
      | ok changed =>
          obtain ⟨resource, id, isId, isTransform⟩ := additions item (by simp)
          have fits : changed.Fits Json.Number.ReadsBack Json.greatestDepth := by
            rw [← isTransform] at applied
            exact resource.fits_of_apply_transform isId holds.fits applied
          obtain ⟨after, isApplied, holdsAfter⟩ :=
            holds.runFrom_apply applied fits
          have isRun : (Command.applyTransform (documentFile path).backend
              item.1 item.2).runFrom files = (.ok (), after) := by
            rw [Command.applyTransform, Command.atStep, Attempt.runFrom_adapt,
              DocumentFile.backend, isApplied]
            rfl
          have restAdditions : ∀ other ∈ rest, other.2.IsAddition :=
            fun other isOther => additions other (by simp [isOther])
          obtain ⟨isDone, isStopped, loads, -⟩ :=
            inductionHypothesis (index + 1) restAdditions holdsAfter
          rw [isRun]
          dsimp only
          rw [List.length_cons]
          refine ⟨fun isAll => ?_, fun isOther => ?_, loads, fun isNone => ?_⟩
          · have isRest := isDone (by omega)
            rw [isRest]
            congr 1
            omega
          · obtain ⟨error, isError, isIndex⟩ := isStopped (by omega)
            exact ⟨error, isError, by omega⟩
          · cases isNone

/-- A document that was read from a file next to which another can be written
is held by the file, where the numbers in it are read back. -/
theorem holds_of_load (loads : (documentFile path).load files = .ok document)
    (hasRoom : ∃ place, files.target (path ++ ".tmp") = .ok place)
    (rereads : ∀ real, Json.IsPart (.number (.real real)) document →
      (Json.Number.real real).Rereads) :
    (documentFile path).Holds files document := by
  obtain ⟨text, -, parsed⟩ := DocumentFile.load_eq_ok_iff.mp loads
  refine ⟨loads, hasRoom, (Json.fits_of_parse_eq_some parsed).of_parts ?_⟩
  intro number isPart inRange
  cases number with
  | integer value => exact Json.Number.readsBack_integer inRange
  | real value => exact (rereads value isPart).readsBack

/-- What a batch on a document reports, and what it leaves behind. -/
theorem executeOffline_eq (path : String) (files : FileSystem)
    {batch : Batch} (isSome : batch ≠ []) :
    let ran := (batch.runOffline (documentFile path).backend).runFrom files
    (executeOffline path batch files).1.result =
        (ran.1.map fun _ => none).mapError .batch ∧
      (executeOffline path batch files).2 = ran.2 := by
  have notEmpty : ¬ batch.isEmpty = true := by simpa using isSome
  rw [executeOffline, if_neg notEmpty]
  dsimp only
  cases (batch.runOffline (documentFile path).backend).runFrom files with
  | mk outcome after => cases outcome <;> exact ⟨rfl, rfl⟩

/-- A batch with a command that has no offline form does nothing; the first
such command is told. -/
theorem executeOffline_of_liveOnly {before rest : Batch} {command : Command}
    (allOffline : ∀ earlier ∈ before, earlier.offline.isSome)
    (isLiveOnly : command.offline = none) (path : String)
    (files : FileSystem) :
    let ran := executeOffline path (before ++ command :: rest) files
    ran.1.result = .error (.batch ⟨before.length, command.kind,
        .unsupported command.kind command.address⟩) ∧ ran.2 = files := by
  have isError : Batch.transforms (before ++ command :: rest) =
      .error ⟨before.length, command.kind,
        .unsupported command.kind command.address⟩ := by
    rw [Batch.transforms, Batch.transformsFrom_of_first allOffline isLiveOnly,
      Nat.zero_add]
  have isSome : before ++ command :: rest ≠ [] := by simp
  have ran := executeOffline_eq path files isSome
  simp only [Batch.runOffline, isError, Attempt.runFrom_throw] at ran
  exact ran

/-- A batch of commands with offline forms is carried out as far as its
transforms succeed in memory. -/
theorem executeOffline_of_allOffline {batch : Batch}
    (allOffline : ∀ command ∈ batch, command.offline.isSome)
    (isBuilt : ∀ command ∈ batch, command.IsBuiltFrom ResourceKind.all)
    (holds : (documentFile path).Holds files document) :
    let ran := executeOffline path batch files
    let reached := offlineTransforms.applyPrefix document
      (batch.filterMap Command.offline)
    (reached.1 = batch.length → ran.1.result = .ok none) ∧
      (reached.1 ≠ batch.length → ∃ error,
        ran.1.result = .error (.batch error) ∧ error.index = reached.1) ∧
      (documentFile path).load ran.2 = .ok reached.2 ∧
      (reached.1 = 0 → ran.2 = files) := by
  by_cases isEmpty : batch = []
  · subst isEmpty
    exact ⟨fun _ => rfl, fun isOther => absurd rfl isOther, holds.loads,
      fun _ => rfl⟩
  · have additions : ∀ item ∈ batch.resolved, item.2.IsAddition := by
      intro item isItem
      obtain ⟨command, isMember, isOffline⟩ :=
        Batch.exists_of_mem_resolved isItem
      exact (isBuilt _ isMember).isAddition isOffline
    have ran := runFrom_transforms 0 batch.resolved additions holds
    have isOk : batch.transforms = .ok batch.resolved :=
      Batch.transformsFrom_of_all allOffline 0
    obtain ⟨isResult, isAfter⟩ := executeOffline_eq path files isEmpty
    simp only [Batch.runOffline, isOk] at isResult isAfter
    simp only [Batch.length_resolved allOffline, Batch.map_snd_resolved,
      Nat.zero_add] at ran
    obtain ⟨isDone, isStopped, loads, isUntouched⟩ := ran
    dsimp only
    rw [isResult, isAfter]
    refine ⟨fun isAll => ?_, fun isOther => ?_, loads, isUntouched⟩
    · rw [isDone isAll]
      rfl
    · obtain ⟨error, isError, isIndex⟩ := isStopped isOther
      exact ⟨error, by rw [isError]; rfl, isIndex⟩

/-- A run on a document applies a prefix of its batch to the file.  With a
command that has no offline form it fails at the first such command and leaves
the files alone.  Otherwise it gets as far as the transforms succeed one after
the other on the document in memory: the file can be read again and holds the
document after them, and where there is none it is not touched.

The file system has no links.  If the second path, which each transform writes
to first, were a symbolic or a hard link, the file that it is linked to would be
overwritten, be that the document or another one. -/
theorem execute_offline_applies_prefix (transport : Transport)
    (configuration : Configuration) (path : String) (files : FileSystem)
    (isOffline : configuration.target = .offline path)
    (isNoRehearsal : configuration.dryRun = false)
    (isBuilt : ∀ command ∈ configuration.batch,
      command.IsBuiltFrom ResourceKind.all) :
    let ran := configuration.execute transport files
    ((∃ command ∈ configuration.batch, command.offline = none) →
      ∃ before command rest,
        configuration.batch = before ++ command :: rest ∧
        (∀ earlier ∈ before, earlier.offline.isSome) ∧
        command.offline = none ∧
        ran.1.result = .error (.batch ⟨before.length, command.kind,
          .unsupported command.kind command.address⟩) ∧ ran.2 = files) ∧
    ((∀ command ∈ configuration.batch, command.offline.isSome) →
      ∀ document, (documentFile path).load files = .ok document →
        (∃ place, files.target (path ++ ".tmp") = .ok place) →
        (∀ real, Json.IsPart (.number (.real real)) document →
          (Json.Number.real real).Rereads) →
        let reached := offlineTransforms.applyPrefix document
          (configuration.batch.filterMap Command.offline)
        (reached.1 = configuration.batch.length →
            ran.1.result = .ok none) ∧
          (reached.1 ≠ configuration.batch.length → ∃ error,
            ran.1.result = .error (.batch error) ∧
              error.index = reached.1) ∧
          (documentFile path).load ran.2 = .ok reached.2 ∧
          (reached.1 = 0 → ran.2 = files)) := by
  have isRun : configuration.execute transport files =
      executeOffline path configuration.batch files := by
    rw [execute, isNoRehearsal, isOffline]
    rfl
  rw [isRun]
  refine ⟨fun isThere => ?_, fun allOffline document loads hasRoom rereads =>
    executeOffline_of_allOffline allOffline isBuilt
      (holds_of_load loads hasRoom rereads)⟩
  obtain ⟨before, command, rest, isBatch, earlierOffline, isLiveOnly⟩ :=
    Batch.exists_first_liveOnly isThere
  rw [isBatch]
  exact ⟨before, command, rest, rfl, earlierOffline, isLiveOnly,
    executeOffline_of_liveOnly earlierOffline isLiveOnly path files⟩

/-! ## A run that stops at a duplicate -/

/-- The text of a document with a floating-point number in it. -/
def sampleText : String :=
  "\x7b\"rate\": 1.5, \"subsystem\": \x7b\"elytron\": \x7b\x7d\x7d\x7d"

/-- The number one and a half. -/
def sampleReal : Decimal.Binary64 := ⟨false, 0x18000000000000, -52⟩

/-- The document of the text. -/
def sampleDocument : Json :=
  .object [("rate", .number (.real sampleReal)),
    ("subsystem", .object [("elytron", .object [])])]

/-- The files with the text in one of them. -/
def sampleFiles : FileSystem :=
  FileSystem.fresh.put ["work", "config.json"] (.file sampleText.toUTF8)

/-- A run on the document, whose last command adds what is there already. -/
def sampleConfiguration : Configuration where
  target := .offline "config.json"
  reload := {}
  batch := Batch.sampleBatch
  query := none
  dryRun := false
  verbose := false

theorem load_sample :
    (documentFile "config.json").load sampleFiles = .ok sampleDocument := by
  have isRead : sampleFiles.read "config.json" = .ok sampleText.toUTF8 := by
    rfl
  exact DocumentFile.load_eq_ok_iff.mpr
    ⟨sampleText, DocumentFile.readText_of_read isRead, by decide +kernel⟩

theorem rereads_sample (real : Decimal.Binary64)
    (isPart : Json.IsPart (.number (.real real)) sampleDocument) :
    (Json.Number.real real).Rereads := by
  have isSample : real = sampleReal := by
    cases isPart with
    | member isMember isPart =>
        simp only [List.mem_cons, List.not_mem_nil, or_false] at isMember
        rcases isMember with rfl | rfl
        · cases isPart
          rfl
        · cases isPart with
          | member isMember isPart =>
              rw [List.mem_singleton.mp isMember] at isPart
              cases isPart with
              | member isMember => cases isMember
  rw [isSample]
  unfold Json.Number.Rereads
  decide +kernel

/-- The document after the two commands that add something. -/
def sampleReached : Json :=
  .object [("rate", .number (.real sampleReal)),
    ("subsystem", .object [("elytron", .object
      [("client-ssl-context", .object
          [("client", .object [("protocols", .string "TLSv1.3")])]),
        ("x500-attribute-principal-decoder", .object
          [("cn", .object [("oid", .string "2.5.4.3"),
            ("maximum-segments", .string "1")])])])])]

theorem execute_offline_applies_prefix_sample :
    let ran := sampleConfiguration.execute (fun _ => .error .timeout)
      sampleFiles
    (∃ error, ran.1.result = .error (.batch error) ∧ error.index = 2) ∧
      (documentFile "config.json").load ran.2 = .ok sampleReached := by
  have isBuilt : ∀ command ∈ sampleConfiguration.batch,
      command.IsBuiltFrom ResourceKind.all :=
    Command.isBuiltFrom_of_mem_filterMap (by decide)
  obtain ⟨-, offline⟩ := execute_offline_applies_prefix
    (fun _ => .error .timeout) sampleConfiguration "config.json" sampleFiles
    rfl rfl isBuilt
  obtain ⟨-, isStopped, loads, -⟩ := offline (by decide) sampleDocument
    load_sample ⟨["work", "config.json.tmp"], rfl⟩ rereads_sample
  have isReached : offlineTransforms.applyPrefix sampleDocument
      (sampleConfiguration.batch.filterMap Command.offline) =
        (2, sampleReached) := by decide +kernel
  rw [isReached] at isStopped loads
  exact ⟨isStopped (by decide), loads⟩

end Configuration

end Provision
