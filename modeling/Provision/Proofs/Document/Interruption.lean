import Provision.Proofs.Document.File
import Provision.Proofs.Files.Interruption

/-!
Contract: a document in a file outlives whatever goes wrong with a transform.

The changed document is written to a second file, and only a rename touches
the file of the document.  So that file holds its old bytes or the whole new
text at every moment, even on a machine that refuses changes, breaks writes
off, or stops the program.

Owns:
- the changes that the application of a transform makes to the files;
- what it can come to on such a machine;
- the files that each of these courses leaves behind;
- the safety of the document in all of them.

Does not own: what a transform does to a document.
-/

namespace Provision

/-- Changes that are tried in a row end in one of the ways in which they
can. -/
theorem FileSystem.canEndAll_performAll {files after : FileSystem}
    {changes : List FileChange} {outcome : Except FileError Unit}
    (ran : (DocumentFile.performAll changes).runFrom files =
      (outcome, after)) :
    files.CanEndAll changes (.returned outcome) after := by
  induction changes generalizing files with
  | nil =>
      cases ran
      exact .done _
  | cons change rest inductionHypothesis =>
      rw [DocumentFile.performAll, Attempt.runFrom_bind] at ran
      cases isFirst : (perform change).runFrom files with
      | mk first between =>
          rw [isFirst] at ran
          cases first with
          | ok => exact .next (canEnd_perform isFirst) (inductionHypothesis ran)
          | error cause =>
              cases ran
              exact .last (canEnd_perform isFirst) (by simp)

/-- Of changes that are tried in a row, the first ones are made and recorded:
all of them where they succeed. -/
theorem FileSystem.exists_changes_of_performAll {files after : FileSystem}
    {changes : List FileChange} {outcome : Except FileError Unit}
    (ran : (DocumentFile.performAll changes).runFrom files =
      (outcome, after)) :
    ∃ made, made <+: changes ∧ after.changes = files.changes ++ made ∧
      (outcome = .ok () → made = changes) := by
  induction changes generalizing files with
  | nil =>
      cases ran
      exact ⟨[], List.nil_prefix, (List.append_nil _).symm, fun _ => rfl⟩
  | cons change rest inductionHypothesis =>
      rw [DocumentFile.performAll, Attempt.runFrom_bind] at ran
      cases isChanged : files.changed change with
      | error cause =>
          rw [perform, Attempt.runFrom_bind, Attempt.runFrom_get] at ran
          simp only [isChanged, Attempt.runFrom_throw] at ran
          cases ran
          exact ⟨[], List.nil_prefix, (List.append_nil _).symm,
            fun isOk => by cases isOk⟩
      | ok next =>
          rw [runFrom_perform isChanged] at ran
          obtain ⟨made, isPrefix, areRecorded, areAll⟩ :=
            inductionHypothesis ran
          refine ⟨change :: made, List.cons_prefix_cons.mpr ⟨rfl, isPrefix⟩,
            ?_, fun isOk => congrArg (change :: ·) (areAll isOk)⟩
          rw [areRecorded]
          simp

namespace DocumentFile

variable {document : DocumentFile} {transform : Document.Transform}
  {files after : FileSystem}

/-- The application of a transform makes the changes that put the new document
in place, and no other ones: the first of them, and all of them where it
succeeds.  So the program can be stopped before, in and behind each of these
changes only. -/
theorem exists_changes_of_apply {outcome : Except DocumentError Unit}
    (ran : (document.apply transform).runFrom files = (outcome, after)) :
    (∃ cause, document.transformed files transform = .error cause ∧
      outcome = .error cause ∧ after = files) ∨
    ∃ tree made, document.transformed files transform = .ok tree ∧
      made <+: document.replacement tree ∧
      after.changes = files.changes ++ made ∧
      (outcome = .ok () → made = document.replacement tree) := by
  rw [runFrom_apply] at ran
  cases isMade : document.transformed files transform with
  | error cause =>
      rw [isMade] at ran
      cases ran
      exact .inl ⟨cause, rfl, rfl, rfl⟩
  | ok tree =>
      simp only [isMade] at ran
      cases performed :
          (performAll (document.replacement tree)).runFrom files with
      | mk result last =>
          rw [performed] at ran
          cases ran
          obtain ⟨made, isPrefix, areRecorded, areAll⟩ :=
            FileSystem.exists_changes_of_performAll performed
          refine .inr ⟨tree, made, rfl, isPrefix, areRecorded, fun isOk => ?_⟩
          cases result with
          | ok => exact areAll rfl
          | error cause => cases isOk

/-- After a success, exactly the changes that put the new document in place
were made. -/
theorem changes_of_apply_eq_ok {tree : Json}
    (isOk : document.transformed files transform = .ok tree)
    (ran : (document.apply transform).runFrom files = (.ok (), after)) :
    after.changes = files.changes ++ document.replacement tree := by
  rcases exists_changes_of_apply ran with ⟨cause, -, isError, -⟩ |
    ⟨other, made, isOther, -, areRecorded, areAll⟩
  · cases isError
  · cases isOk.symm.trans isOther
    rw [areRecorded, areAll rfl]

/-- What the application of a transform can come to.  The program may be
stopped before it changes anything; the file may not be readable, for whatever
reason; the transform may not be possible; and else the changes to the files
come to what they can.  There are no other changes than these
(`exists_changes_of_apply`), so that no point at which it can be interrupted is
missing. -/
inductive CanEnd (document : DocumentFile) (transform : Document.Transform)
    (files : FileSystem) : Conclusion DocumentError → FileSystem → Prop where
  | stopped : CanEnd document transform files .stopped files
  | unread (detail : String) :
      CanEnd document transform files
        (.returned (.error (.read document.path detail))) files
  | impossible {cause : DocumentError}
      (isError : document.transformed files transform = .error cause) :
      CanEnd document transform files (.returned (.error cause)) files
  | replacing {tree : Json} {conclusion : Conclusion FileError}
      {after : FileSystem}
      (isOk : document.transformed files transform = .ok tree)
      (ended : files.CanEndAll (document.replacement tree) conclusion after) :
      CanEnd document transform files
        (conclusion.reworded fun cause => .write document.path cause.message)
        after

/-- The application of a transform ends in one of the ways in which it can. -/
theorem canEnd_apply {outcome : Except DocumentError Unit}
    (ran : (document.apply transform).runFrom files = (outcome, after)) :
    document.CanEnd transform files (.returned outcome) after := by
  rw [runFrom_apply] at ran
  cases made : document.transformed files transform with
  | error cause =>
      rw [made] at ran
      cases ran
      exact .impossible made
  | ok tree =>
      simp only [made] at ran
      cases performed :
          (performAll (document.replacement tree)).runFrom files with
      | mk result last =>
          rw [performed] at ran
          cases ran
          exact .replacing made (FileSystem.canEndAll_performAll performed)

/-! ## The document and the other files -/

theorem transformed_eq_ok_iff {tree : Json} :
    document.transformed files transform = .ok tree ↔
      ∃ old, document.load files = .ok old ∧
        document.registry.apply old transform = .ok tree := by
  cases loads : document.load files with
  | error cause => simp [transformed, loads, bind, Except.bind]
  | ok old =>
      rw [transformed_of_loads loads]
      cases applied : document.registry.apply old transform <;>
        simp [applied]

/-- The file of the document and the second file are two. -/
theorem temporaryPlace_ne {place temporaryPlace : Place}
    (isPlace : files.target document.path = .ok place)
    (isTemporary : files.target document.temporaryPath = .ok temporaryPlace) :
    temporaryPlace ≠ place :=
  FileSystem.place_ne_of_append isPlace isTemporary (by decide) (by decide)

/-- Only the file of the document and the second file may have changed. -/
def TouchesOwnFiles (document : DocumentFile) (files after : FileSystem) :
    Prop :=
  ∀ place, files.target document.path ≠ .ok place →
    files.target document.temporaryPath ≠ .ok place →
    after.node? place = files.node? place

/-- However the changes end, the file of the document holds its old bytes and
there is no success, or it holds the new text and there is no error. -/
theorem canEndAll_replacement {tree : Json} {content : ByteArray}
    {conclusion : Conclusion FileError}
    (isRead : files.read document.path = .ok content)
    (ended : files.CanEndAll (document.replacement tree) conclusion after) :
    document.TouchesOwnFiles files after ∧
      (after.read document.path = .ok content ∧
          conclusion ≠ .returned (.ok ()) ∨
        after.read document.path = .ok (written tree).toUTF8 ∧
          ∀ cause, conclusion ≠ .returned (.error cause)) := by
  -- The second file is another one, so that no write to it is seen.
  have isStill : ∀ between : FileSystem,
      FileSystem.SameDirectories files between →
      (∀ place, files.target document.temporaryPath ≠ .ok place →
        between.node? place = files.node? place) →
      between.read document.path = .ok content := by
    intro between same isLeft
    refine same.read isRead fun place isPlace => isLeft place ?_
    intro isTemporary
    exact temporaryPlace_ne isPlace isTemporary rfl
  cases ended with
  | last first noSuccess =>
      obtain ⟨same, isLeft⟩ := first.of_write
      exact ⟨fun place _ notTemporary => isLeft place notTemporary,
        Or.inl ⟨isStill after same isLeft, noSuccess⟩⟩
  | @next _ between _ _ _ _ first others =>
      obtain ⟨same, isLeft⟩ := first.of_write
      have isWritten := first.read_of_write
      have isOld := isStill between same isLeft
      have renamed : ∃ last : Conclusion FileError,
          between.CanEnd (.rename document.temporaryPath document.path) last
            after ∧ last = conclusion := by
        cases others with
        | last second noSuccess => exact ⟨conclusion, second, rfl⟩
        | next second none =>
            cases none
            exact ⟨_, second, rfl⟩
      obtain ⟨_, second, rfl⟩ := renamed
      rcases second.of_rename isWritten with ⟨rfl, noSuccess⟩ |
        ⟨isNew, noError, isLeftAgain⟩
      · exact ⟨fun place _ notTemporary => isLeft place notTemporary,
          Or.inl ⟨isOld, noSuccess⟩⟩
      · refine ⟨fun place notPlace notTemporary => ?_,
          Or.inr ⟨isNew, noError⟩⟩
        have notSource := mt same.target_iff.mp notTemporary
        have notTarget := mt same.target_iff.mp notPlace
        rw [isLeftAgain place notSource notTarget, isLeft place notTemporary]

/-- The file of the document holds the whole text of the changed document. -/
def IsRenewed (document : DocumentFile) (transform : Document.Transform)
    (files after : FileSystem) : Prop :=
  ∃ old changed, document.load files = .ok old ∧
    document.registry.apply old transform = .ok changed ∧
    after.read document.path = .ok changed.prettyText.toUTF8

/-- **Nothing that goes wrong damages a document.**  The application of a
transform ends in one of the ways in which it can on a machine that may refuse
and break off changes and stop the program.  In all of them the file of the
document holds its old bytes or the whole text of the changed document: the
new text after a success, the old bytes after an error.  No file is touched
but this one and the second one, and none at all unless a change to a file
was what failed.

The transform may have any body.  The file system has no links: if the second
path were a symbolic or a hard link, writing to it would change the file that
it is linked to, be that the document or one that has nothing to do with it. -/
theorem apply_never_damages (document : DocumentFile)
    (transform : Document.Transform) (files : FileSystem) :
    (∀ outcome after,
      (document.apply transform).runFrom files = (outcome, after) →
        document.CanEnd transform files (.returned outcome) after) ∧
    ∀ conclusion after, document.CanEnd transform files conclusion after →
      (after.read document.path = files.read document.path ∨
        document.IsRenewed transform files after) ∧
      (conclusion = .returned (.ok ()) →
        document.IsRenewed transform files after) ∧
      (∀ cause, conclusion = .returned (.error cause) →
        after.read document.path = files.read document.path) ∧
      document.TouchesOwnFiles files after ∧
      (∀ cause, conclusion = .returned (.error cause) →
        (∀ path detail, cause ≠ .write path detail) → after = files) := by
  refine ⟨fun outcome after ran => canEnd_apply ran, ?_⟩
  intro conclusion after ended
  cases ended with
  | stopped =>
      exact ⟨Or.inl rfl, by simp, fun _ _ => rfl, fun _ _ _ => rfl, by simp⟩
  | unread detail =>
      exact ⟨Or.inl rfl, by simp, fun _ _ => rfl, fun _ _ _ => rfl,
        fun _ _ _ => rfl⟩
  | impossible isError =>
      exact ⟨Or.inl rfl, by simp, fun _ _ => rfl, fun _ _ _ => rfl,
        fun _ _ _ => rfl⟩
  | @replacing tree course _ isOk ended =>
      obtain ⟨old, loads, applied⟩ := transformed_eq_ok_iff.mp isOk
      obtain ⟨text, isText, -⟩ := load_eq_ok_iff.mp loads
      obtain ⟨content, isRead⟩ := exists_read_of_readText isText
      obtain ⟨ownFiles, ⟨isOld, noSuccess⟩ | ⟨isNew, noError⟩⟩ :=
        canEndAll_replacement isRead ended
      · have isSame : after.read document.path = files.read document.path :=
          isOld.trans isRead.symm
        refine ⟨Or.inl isSame, fun success => ?_, fun _ _ => isSame, ownFiles,
          fun cause failed notWrite => ?_⟩
        · exact absurd (Conclusion.reworded_eq_ok_iff.mp success) noSuccess
        · obtain ⟨fault, -, isWrite⟩ :=
            Conclusion.reworded_eq_error_iff.mp failed
          exact absurd isWrite.symm (notWrite _ _)
      · have isRenewed : document.IsRenewed transform files after :=
          ⟨old, tree, loads, applied, isNew⟩
        have notFailed : ∀ cause, (course.reworded fun fault =>
            DocumentError.write document.path fault.message) ≠
              .returned (.error cause) := by
          intro cause failed
          obtain ⟨fault, isFault, -⟩ :=
            Conclusion.reworded_eq_error_iff.mp failed
          exact noError fault isFault
        exact ⟨Or.inr isRenewed, fun _ => isRenewed,
          fun cause failed => absurd failed (notFailed cause), ownFiles,
          fun cause failed => absurd failed (notFailed cause)⟩

/-- A body that leaves nothing of its subtree. -/
def clearing : Document.Body := fun _ _ => .ok []

/-- A document whose realms can be cleared. -/
def clearedFile : DocumentFile where
  path := "config.json"
  registry := Document.Registry.register [] "clear" clearing

def clearingTransform : Document.Transform :=
  ⟨"clear", ⟨[], ⟨"realm", "ldap"⟩⟩, []⟩

/-- The text of a document with a realm in it. -/
def realmText : String :=
  "\x7b\"realm\": \x7b\"ldap\": \x7b\"levels\": 2\x7d\x7d\x7d"

def realmFiles : FileSystem :=
  FileSystem.fresh.put ["work", "config.json"] (.file realmText.toUTF8)

/-- The document after the realm was cleared. -/
def clearedTree : Json := .object [("realm", .object [("ldap", .object [])])]

/-- The files after the first of the two changes. -/
def halfwayFiles : FileSystem :=
  { realmFiles.put ["work", "config.json.tmp"]
      (.file (written clearedTree).toUTF8) with
    changes := [.write "config.json.tmp" (written clearedTree).toUTF8] }

/-- A run that is completed, and one that is stopped between its two
changes. -/
theorem apply_never_damages_sample :
    (∃ after,
      (clearedFile.apply clearingTransform).runFrom realmFiles =
          (.ok (), after) ∧
        after.read "config.json" = .ok clearedTree.prettyText.toUTF8 ∧
        after.changes = clearedFile.replacement clearedTree) ∧
    clearedFile.CanEnd clearingTransform realmFiles .stopped halfwayFiles ∧
    halfwayFiles.read "config.json" = .ok realmText.toUTF8 ∧
    clearedFile.TouchesOwnFiles realmFiles halfwayFiles := by
  have loads : clearedFile.load realmFiles = .ok (.object [("realm", .object
      [("ldap", .object [("levels", .number (.integer 2))])])]) :=
    load_eq_ok_iff.mpr
      ⟨realmText, readText_of_read rfl, by decide +kernel⟩
  have isOk : clearedFile.transformed realmFiles clearingTransform =
      .ok clearedTree := transformed_eq_ok_iff.mpr ⟨_, loads, rfl⟩
  obtain ⟨isCourse, isSafe⟩ :=
    apply_never_damages clearedFile clearingTransform realmFiles
  constructor
  · obtain ⟨after, ran, -, -⟩ := runFrom_apply_of_transformed isOk loads
      ⟨["work", "config.json.tmp"], rfl⟩
    obtain ⟨-, isRenewed, -⟩ := isSafe _ _ (isCourse _ _ ran)
    obtain ⟨old, changed, isOld, isChanged, isRead⟩ := isRenewed rfl
    cases loads.symm.trans isOld
    cases isChanged
    exact ⟨after, ran, isRead, changes_of_apply_eq_ok isOk ran⟩
  · have isWritten : realmFiles.CanEnd
        (.write "config.json.tmp" (written clearedTree).toUTF8)
        (.returned (.ok ())) halfwayFiles := .made rfl (by simp)
    have noRename : halfwayFiles.CanEnd
        (.rename "config.json.tmp" "config.json") .stopped halfwayFiles :=
      .untouched (by simp)
    have course : realmFiles.CanEndAll (clearedFile.replacement clearedTree)
        .stopped halfwayFiles := .next isWritten (.last noRename (by simp))
    have isStopped :
        clearedFile.CanEnd clearingTransform realmFiles .stopped halfwayFiles :=
      .replacing isOk course
    obtain ⟨-, -, -, ownFiles, -⟩ := isSafe _ _ isStopped
    exact ⟨isStopped, rfl, ownFiles⟩

end DocumentFile

end Provision
