import Provision.Document.File
import Provision.Proofs.Document.Insertion
import Provision.Proofs.Files.Replacement
import Provision.Proofs.Json.Rereading

/-!
Contract: what a transform does to the document in a file.

A document that was read is written in a form that is read as the same
document.  So the file holds after each transform what the transform makes of
the document in memory.

Owns:
- the room that the addition of a resource needs in a document;
- the files that hold a document, and the law of one transform for them.

Does not own: batches of transforms.
-/

namespace Provision

/-! ## Room for a resource -/

theorem ValueSet.Carried.fits_record {values : ValueSet}
    (carried : values.Carried) (accepts : Json.Number → Prop) (depth : Nat) :
    values.record.Fits accepts (depth + 1) := by
  refine .object ?_ fun member isMember => ?_
  · have sameNames : Members.names (values.map fun member =>
        (member.1, Json.string member.2.parameter)) = Members.names values := by
      simp [Members.names]
    rw [Members.Distinct, sameNames]
    exact carried.distinct
  · obtain ⟨value, -, rfl⟩ := List.mem_map.mp isMember
    exact .string _

theorem Document.fits_container {accepts : Json.Number → Prop} {depth : Nat}
    {kind : String} {container subtree : Members Json}
    (fits : (Json.object subtree).Fits accepts (depth + 2))
    (holds : Document.container? kind subtree = some container) :
    (Json.object container).Fits accepts (depth + 1) := by
  unfold Document.container? at holds
  split at holds
  · next isObject =>
      cases holds
      cases found : Members.get? kind subtree with
      | none =>
          rw [found, Option.getD_none] at isObject
          cases isObject
          exact .object List.nodup_nil fun _ isMember => by cases isMember
      | some part =>
          rw [found, Option.getD_some] at isObject
          subst isObject
          exact fits.child? found
  · cases holds

/-- A document has room for a resource wherever one is added: it stands in the
third of its levels, and has one level itself. -/
theorem Resource.fits_of_apply_transform {resource : Resource} {id : String}
    (isId : resource.kind.transformId? = some id)
    {accepts : Json.Number → Prop} {document changed : Json}
    (fits : document.Fits accepts Json.greatestDepth)
    (applied : offlineTransforms.apply document (resource.transform id) =
      .ok changed) : changed.Fits accepts Json.greatestDepth := by
  obtain ⟨container, subtree, located, holds, rfl⟩ :=
    located_of_apply_transform_eq_ok isId applied
  -- Two levels lead to the subtree, and the container is one level below it.
  have subtreeFits : (Json.object subtree).Fits accepts 125 :=
    Json.Fits.at? fits located
  have containerFits : (Json.object container).Fits accepts 124 :=
    Document.fits_container subtreeFits holds
  have recordFits : resource.values.record.Fits accepts 123 :=
    (carried_values isId).fits_record accepts 122
  have changedFits := subtreeFits.put resource.kind.text
    (containerFits.put resource.name.text recordFits)
  have room : document.Fits accepts (125 + Document.subsystemPath.length) :=
    fits
  exact room.replaceAt changedFits

/-! ## Documents in files -/

namespace DocumentFile

variable {document : DocumentFile} {files : FileSystem} {tree : Json}

theorem load_eq_ok_iff :
    document.load files = .ok tree ↔ ∃ text,
      files.readText document.path = .ok text ∧ Json.parse text = some tree := by
  unfold load
  cases files.readText document.path with
  | error cause => simp
  | ok text =>
      cases parsed : Json.parse text <;> simp [parsed]

theorem exists_read_of_readText {path text : String}
    (isText : files.readText path = .ok text) :
    ∃ content, files.read path = .ok content := by
  unfold FileSystem.readText at isText
  cases isRead : files.read path with
  | ok content => exact ⟨content, rfl⟩
  | error cause =>
      rw [isRead] at isText
      cases isText

/-- A text that is in a file is read from it. -/
theorem readText_of_read {path text : String}
    (isRead : files.read path = .ok text.toUTF8) :
    files.readText path = .ok text := by
  have isValid : text.toUTF8.IsValidUTF8 := text.isValidUTF8
  have isText : String.fromUTF8? text.toUTF8 = some text := by
    rw [String.fromUTF8?, dif_pos isValid]
    rfl
  unfold FileSystem.readText
  rw [isRead]
  simp only [bind, Except.bind, isText]
  rfl

/-- The file holds a document whose text can be read again, and the changed
document can be written next to it. -/
structure Holds (document : DocumentFile) (files : FileSystem)
    (tree : Json) : Prop where
  loads : document.load files = .ok tree
  hasRoom : ∃ place, files.target document.temporaryPath = .ok place
  fits : tree.Fits Json.Number.ReadsBack Json.greatestDepth

/-- A document that was read is changed in memory first. -/
theorem transformed_of_loads (loads : document.load files = .ok tree)
    (transform : Document.Transform) :
    document.transformed files transform =
      (document.registry.apply tree transform).mapError .refused := by
  rw [transformed, loads]
  simp only [bind, Except.bind]
  cases document.registry.apply tree transform <;> rfl

/-- Where there is nothing to put in place, the files stay as they are, and
else what comes of the transform is what comes of the changes. -/
theorem runFrom_apply (document : DocumentFile)
    (transform : Document.Transform) (files : FileSystem) :
    (document.apply transform).runFrom files =
      match document.transformed files transform with
      | .error cause => (.error cause, files)
      | .ok changed =>
          let ran := (performAll (document.replacement changed)).runFrom files
          (ran.1.mapError fun cause => .write document.path cause.message,
            ran.2) := by
  rw [apply, Attempt.runFrom_bind, Attempt.runFrom_get]
  dsimp only
  cases document.transformed files transform <;> rfl

/-- A transform that is refused leaves the files as they are. -/
theorem runFrom_apply_of_refused (loads : document.load files = .ok tree)
    {transform : Document.Transform} {cause : Document.Refusal}
    (refused : document.registry.apply tree transform = .error cause) :
    (document.apply transform).runFrom files =
      (.error (.refused cause), files) := by
  rw [runFrom_apply, transformed_of_loads loads, refused]
  rfl

/-- A transform that can be carried out leaves the text of the changed document
in the file, and no directory is another one then. -/
theorem runFrom_apply_of_transformed {transform : Document.Transform}
    {changed : Json}
    (isOk : document.transformed files transform = .ok changed)
    (loads : document.load files = .ok tree)
    (hasRoom : ∃ place, files.target document.temporaryPath = .ok place) :
    ∃ after, (document.apply transform).runFrom files = (.ok (), after) ∧
      FileSystem.SameDirectories files after ∧
      after.read document.path = .ok (written changed).toUTF8 := by
  obtain ⟨text, isText, -⟩ := load_eq_ok_iff.mp loads
  obtain ⟨content, isContent⟩ := exists_read_of_readText isText
  obtain ⟨place, isPlace, -⟩ := FileSystem.read_eq_ok_iff.mp isContent
  obtain ⟨temporaryPlace, isTemporary⟩ := hasRoom
  obtain ⟨between, after, isWritten, isRenamed, same, isRead⟩ :=
    FileSystem.replaced isTemporary isPlace (written changed).toUTF8
  refine ⟨after, ?_, same, isRead⟩
  rw [runFrom_apply, isOk]
  simp only [replacement, performAll, Attempt.runFrom_bind, isWritten,
    isRenamed, Attempt.runFrom_pure]
  rfl

/-- A transform that is accepted leaves the changed document in the file. -/
theorem Holds.runFrom_apply (holds : document.Holds files tree)
    {transform : Document.Transform} {changed : Json}
    (accepted : document.registry.apply tree transform = .ok changed)
    (fits : changed.Fits Json.Number.ReadsBack Json.greatestDepth) :
    ∃ after, (document.apply transform).runFrom files = (.ok (), after) ∧
      document.Holds after changed := by
  have isOk : document.transformed files transform = .ok changed := by
    rw [transformed_of_loads holds.loads, accepted]
    rfl
  obtain ⟨temporaryPlace, isTemporary⟩ := holds.hasRoom
  obtain ⟨after, ran, same, isRead⟩ :=
    runFrom_apply_of_transformed isOk holds.loads ⟨temporaryPlace, isTemporary⟩
  refine ⟨after, ran, ?_, ⟨temporaryPlace, same.target isTemporary⟩, fits⟩
  exact load_eq_ok_iff.mpr
    ⟨written changed, readText_of_read isRead, Json.parse_prettyText fits⟩

end DocumentFile

end Provision
