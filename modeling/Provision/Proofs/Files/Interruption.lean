import Provision.Proofs.Files.Replacement

/-!
Contract: changes to files on a machine on which anything may go wrong.

A change may be refused for reasons of the machine, a write may break off with
anything in its file, and the program may be stopped at any moment.  Only a
rename is made as a whole or not at all.

Owns:
- what one change can come to, and what changes in a row can come to;
- the run of changes as one of these courses;
- the places that a change leaves alone;
- the place of a path with more characters in its last name.

Does not own: which changes are made.
-/

namespace Provision

/-- How something that was begun ends: it returns, or the program is stopped
before it can. -/
inductive Conclusion (ε : Type) where
  | returned (outcome : Except ε Unit)
  | stopped

namespace Conclusion

variable {ε ε' : Type} {change : ε → ε'} {conclusion : Conclusion ε}

/-- The same ending with the error in other words. -/
def reworded (change : ε → ε') : Conclusion ε → Conclusion ε'
  | .returned outcome => .returned (outcome.mapError change)
  | .stopped => .stopped

theorem reworded_eq_ok_iff :
    conclusion.reworded change = .returned (.ok ()) ↔
      conclusion = .returned (.ok ()) := by
  cases conclusion with
  | stopped => simp [reworded]
  | returned outcome => cases outcome <;> simp [reworded]

theorem reworded_eq_error_iff {cause : ε'} :
    conclusion.reworded change = .returned (.error cause) ↔
      ∃ fault, conclusion = .returned (.error fault) ∧
        change fault = cause := by
  cases conclusion with
  | stopped => simp [reworded]
  | returned outcome => cases outcome <;> simp [reworded]

end Conclusion

namespace FileSystem

/-- What one change can come to.  It is made, and then returns unless the
program is stopped first; or nothing is done; or a write breaks off, and then
any content may be in its file. -/
inductive CanEnd (files : FileSystem) :
    FileChange → Conclusion FileError → FileSystem → Prop where
  | made {change : FileChange} {after : FileSystem}
      {conclusion : Conclusion FileError}
      (isChanged : files.changed change = .ok after)
      (noError : ∀ cause, conclusion ≠ .returned (.error cause)) :
      CanEnd files change conclusion
        { after with changes := files.changes ++ [change] }
  | untouched {change : FileChange} {conclusion : Conclusion FileError}
      (noSuccess : conclusion ≠ .returned (.ok ())) :
      CanEnd files change conclusion files
  | brokenOff {path : String} {content : ByteArray} {place : Place}
      {conclusion : Conclusion FileError}
      (isPlace : files.target path = .ok place) (left : ByteArray)
      (noSuccess : conclusion ≠ .returned (.ok ())) :
      CanEnd files (.write path content) conclusion
        (files.put place (.file left))

/-- What changes in a row can come to: they end with the first of them that
does not return with success. -/
inductive CanEndAll : FileSystem → List FileChange → Conclusion FileError →
    FileSystem → Prop where
  | done (files : FileSystem) : CanEndAll files [] (.returned (.ok ())) files
  | next {files between after : FileSystem} {change : FileChange}
      {rest : List FileChange} {conclusion : Conclusion FileError}
      (first : files.CanEnd change (.returned (.ok ())) between)
      (others : CanEndAll between rest conclusion after) :
      CanEndAll files (change :: rest) conclusion after
  | last {files after : FileSystem} {change : FileChange}
      {rest : List FileChange} {conclusion : Conclusion FileError}
      (first : files.CanEnd change conclusion after)
      (noSuccess : conclusion ≠ .returned (.ok ())) :
      CanEndAll files (change :: rest) conclusion after

variable {files between after : FileSystem}

/-! ## Changes that are tried -/

/-- A change that is tried is made or refused. -/
theorem canEnd_perform {change : FileChange}
    {outcome : Except FileError Unit}
    (ran : (perform change).runFrom files = (outcome, after)) :
    files.CanEnd change (.returned outcome) after := by
  cases isChanged : files.changed change with
  | ok changed =>
      rw [runFrom_perform isChanged] at ran
      cases ran
      exact .made isChanged (by simp)
  | error cause =>
      rw [perform, Attempt.runFrom_bind, Attempt.runFrom_get] at ran
      simp only [isChanged, Attempt.runFrom_throw] at ran
      cases ran
      exact .untouched (by simp)

/-! ## Changes that are made -/

theorem changed_write_eq_ok_iff {path : String} {content : ByteArray} :
    files.changed (.write path content) = .ok after ↔
      ∃ place, files.target path = .ok place ∧
        files.put place (.file content) = after := by
  rw [changed]
  cases files.target path <;> simp [Except.map]

theorem changed_rename_eq_ok_iff {source target : String} :
    files.changed (.rename source target) = .ok after ↔
      ∃ content sourcePlace targetPlace, files.read source = .ok content ∧
        files.target source = .ok sourcePlace ∧
        files.target target = .ok targetPlace ∧
        (files.drop sourcePlace).put targetPlace (.file content) = after := by
  rw [changed]
  cases files.read source with
  | error cause => simp [bind, Except.bind]
  | ok content =>
      cases files.target source with
      | error cause => simp [bind, Except.bind]
      | ok sourcePlace =>
          cases files.target target <;>
            simp [bind, Except.bind, pure, Except.pure]

/-! ## Places that are left alone -/

/-- A file that no change reached is read as before. -/
theorem SameDirectories.read (same : SameDirectories files after)
    {path : String} {content : ByteArray}
    (isRead : files.read path = .ok content)
    (isLeft : ∀ place, files.target path = .ok place →
      after.node? place = files.node? place) :
    after.read path = .ok content := by
  obtain ⟨place, isPlace, isFile⟩ := read_eq_ok_iff.mp isRead
  exact read_eq_ok_iff.mpr
    ⟨place, same.target isPlace, (isLeft place isPlace).trans isFile⟩

theorem SameDirectories.symm (same : SameDirectories files after) :
    SameDirectories after files :=
  ⟨same.here.symm, fun place => (same.directory_iff place).symm⟩

/-- The places that paths lead to are the same where the directories are. -/
theorem SameDirectories.target_iff (same : SameDirectories files after)
    {path : String} {place : Place} :
    after.target path = .ok place ↔ files.target path = .ok place :=
  ⟨same.symm.target, same.target⟩

/-- A file that is put where a path leads touches no other place. -/
theorem node?_put_of_target {path : String} {place other : Place}
    (isPlace : files.target path = .ok place)
    (isOther : files.target path ≠ .ok other) (node : FileNode) :
    (files.put place node).node? other = files.node? other := by
  have isElsewhere : other ≠ place := by
    intro same
    exact isOther (same ▸ isPlace)
  rw [node?_put files (ne_nil_of_target isPlace), if_neg isElsewhere]

/-- However a write ends, it touches its own file only. -/
theorem CanEnd.of_write {path : String} {content : ByteArray}
    {conclusion : Conclusion FileError}
    (ended : files.CanEnd (.write path content) conclusion after) :
    SameDirectories files after ∧ ∀ place, files.target path ≠ .ok place →
      after.node? place = files.node? place := by
  cases ended with
  | made isChanged noError =>
      obtain ⟨place, isPlace, rfl⟩ := changed_write_eq_ok_iff.mp isChanged
      have isRecorded := SameDirectories.recorded
        (files.put place (.file content)) (files.changes ++ [.write path content])
      exact ⟨(SameDirectories.put isPlace content).trans isRecorded,
        fun other isOther => node?_put_of_target isPlace isOther _⟩
  | untouched noSuccess => exact ⟨⟨rfl, fun _ => Iff.rfl⟩, fun _ _ => rfl⟩
  | brokenOff isPlace left noSuccess =>
      exact ⟨SameDirectories.put isPlace left,
        fun other isOther => node?_put_of_target isPlace isOther _⟩

/-- A write that returns with success leaves the content in its file. -/
theorem CanEnd.read_of_write {path : String} {content : ByteArray}
    (ended : files.CanEnd (.write path content) (.returned (.ok ())) after) :
    after.read path = .ok content := by
  cases ended with
  | made isChanged noError =>
      obtain ⟨place, isPlace, rfl⟩ := changed_write_eq_ok_iff.mp isChanged
      exact (SameDirectories.recorded _ _).read (read_put isPlace content)
        fun _ _ => rfl
  | untouched noSuccess => exact absurd rfl noSuccess
  | brokenOff isPlace left noSuccess => exact absurd rfl noSuccess

/-- A rename is made as a whole or not at all. -/
theorem CanEnd.of_rename {source target : String} {content : ByteArray}
    {conclusion : Conclusion FileError}
    (isRead : files.read source = .ok content)
    (ended : files.CanEnd (.rename source target) conclusion after) :
    after = files ∧ conclusion ≠ .returned (.ok ()) ∨
      after.read target = .ok content ∧
        (∀ cause, conclusion ≠ .returned (.error cause)) ∧
        ∀ place, files.target source ≠ .ok place →
          files.target target ≠ .ok place →
          after.node? place = files.node? place := by
  cases ended with
  | untouched noSuccess => exact Or.inl ⟨rfl, noSuccess⟩
  | made isChanged noError =>
      obtain ⟨found, sourcePlace, targetPlace, isFound, isSource, isTarget,
        rfl⟩ := changed_rename_eq_ok_iff.mp isChanged
      have isContent : found = content := by
        rw [isRead] at isFound
        exact (Except.ok.inj isFound).symm
      subst isContent
      have afterDrop := SameDirectories.drop isSource
      have isOpen := afterDrop.target isTarget
      refine Or.inr ⟨?_, noError, fun place notSource notTarget => ?_⟩
      · exact (SameDirectories.recorded _ _).read (read_put isOpen found)
          fun _ _ => rfl
      · have isElsewhere : place ≠ sourcePlace := by
          intro same
          exact notSource (same ▸ isSource)
        have stillOther : (files.drop sourcePlace).target target ≠ .ok place :=
          fun isPlace => notTarget (afterDrop.target_iff.mp isPlace)
        calc
          _ = ((files.drop sourcePlace).put targetPlace
                (.file found)).node? place := rfl
          _ = (files.drop sourcePlace).node? place :=
            node?_put_of_target isOpen stillOther _
          _ = files.node? place := by
            rw [node?_drop files (ne_nil_of_target isSource),
              if_neg isElsewhere]

/-! ## Longer paths -/

/-- The last name of a path that does not end in a slash, and that of the path
with more characters behind it. -/
theorem exists_getLast?_pathNames {path added : String}
    (isOpen : (Text.splitAt '/' path).getLast? ≠ some "")
    (isFree : '/' ∉ added.toList) :
    ∃ last, (pathNames path).getLast? = some last ∧
      (pathNames (path ++ added)).getLast? = some (last ++ added) := by
  obtain ⟨before, last, isPath, isLonger⟩ :=
    Text.exists_pieces_append path.toList isFree
  have isSplit : Text.splitAt '/' path =
      before.map String.ofList ++ [String.ofList last] := by
    simp [Text.splitAt, isPath]
  have isSplitLonger : Text.splitAt '/' (path ++ added) =
      before.map String.ofList ++ [String.ofList last ++ added] := by
    simp [Text.splitAt, isLonger, String.ofList_append]
  have isNamed : String.ofList last ≠ "" := by
    simpa [isSplit] using isOpen
  have isLongerNamed : String.ofList last ++ added ≠ "" := by
    simp [isNamed]
  refine ⟨String.ofList last, ?_, ?_⟩
  · simp [pathNames, isSplit, List.filter_append, isNamed]
  · simp [pathNames, isSplitLonger, List.filter_append, isLongerNamed]

theorem eq_getLast?_of_follow {path : String} {ending : PathEnd}
    (followed : files.follow path = .ok ending) :
    ending.name = (pathNames path).getLast?.getD "." ∧
      ending.closed = decide ((Text.splitAt '/' path).getLast? = some "") := by
  rw [follow_eq] at followed
  split at followed
  · cases followed
  · split at followed
    · cases followed
    · split at followed
      · cases followed
      · cases entered : (pathNames path).dropLast.foldlM files.enter
            (files.pathStart path) with
        | error cause => rw [entered] at followed; cases followed
        | ok parent =>
            rw [entered] at followed
            cases followed
            exact ⟨rfl, rfl⟩

/-- More characters in the last name of a path lead to another place. -/
theorem place_ne_of_append {path added : String} {place longer : Place}
    (isPlace : files.target path = .ok place)
    (isLonger : files.target (path ++ added) = .ok longer)
    (isFree : '/' ∉ added.toList) (isMore : added ≠ "") : longer ≠ place := by
  obtain ⟨ending, followed, isOpen, rfl, -⟩ := target_eq_ok_iff.mp isPlace
  obtain ⟨other, alsoFollowed, -, rfl, -⟩ := target_eq_ok_iff.mp isLonger
  obtain ⟨isName, isClosed⟩ := eq_getLast?_of_follow followed
  obtain ⟨isOtherName, -⟩ := eq_getLast?_of_follow alsoFollowed
  rw [Bool.or_eq_false_iff, isClosed, decide_eq_false_iff_not] at isOpen
  obtain ⟨last, isLast, isOtherLast⟩ :=
    exists_getLast?_pathNames isOpen.1 isFree
  rw [isLast, Option.getD_some] at isName
  rw [isOtherLast, Option.getD_some] at isOtherName
  intro same
  have sameName : other.name = ending.name := by
    simpa using congrArg List.getLast? same
  rw [isName, isOtherName, String.append_eq_left_iff] at sameName
  exact isMore sameName

end FileSystem

end Provision
