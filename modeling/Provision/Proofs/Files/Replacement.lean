import Provision.Files.System

/-!
Contract: putting a new file in the place of an old one.

How a path is followed depends on the directories only.  Writing and renaming
files leaves all directories alone, so that every path still leads where it
led before.

Owns:
- file systems with the same directories;
- the laws of writing, dropping and reading a file;
- the writing of a second file that then takes the place of the first.

Does not own: what is in the files.
-/

namespace Provision.FileSystem

/-- The same directories, with the same one among them to start from. -/
structure SameDirectories (files after : FileSystem) : Prop where
  here : after.here = files.here
  directory_iff : ∀ place, after.node? place = some .directory ↔
    files.node? place = some .directory

variable {files after : FileSystem}

/-! ## Following a path -/

/-- The last name of a place is not too long. -/
def IsShort (place : Place) : Prop :=
  (place.getLast?.any fun name => greatestName < name.utf8ByteSize) = false

/-- A place with a name that is not too long is found where something is. -/
theorem find_eq_ok_iff {place : Place} {node : FileNode} :
    files.find place = .ok node ↔
      IsShort place ∧ files.node? place = some node := by
  unfold find IsShort
  cases place.getLast?.any fun name => greatestName < name.utf8ByteSize with
  | true => simp
  | false => cases files.node? place <;> simp

theorem find_eq_notFound_iff {place : Place} :
    files.find place = .error .notFound ↔
      IsShort place ∧ files.node? place = none := by
  unfold find IsShort
  cases place.getLast?.any fun name => greatestName < name.utf8ByteSize with
  | true => simp
  | false => cases files.node? place <;> simp

theorem SameDirectories.enter (same : SameDirectories files after)
    {place inner : Place} {name : String}
    (entered : files.enter place name = .ok inner) :
    after.enter place name = .ok inner := by
  unfold FileSystem.enter at entered ⊢
  by_cases isHere : name = "."
  · rwa [if_pos isHere] at entered ⊢
  · by_cases isAbove : name = ".."
    · rwa [if_neg isHere, if_pos isAbove] at entered ⊢
    · rw [if_neg isHere, if_neg isAbove] at entered ⊢
      split at entered
      · next found =>
          obtain ⟨isShort, isDirectory⟩ := find_eq_ok_iff.mp found
          have isFound := find_eq_ok_iff.mpr
            ⟨isShort, (same.directory_iff _).mpr isDirectory⟩
          rwa [isFound]
      · cases entered
      · cases entered

theorem SameDirectories.foldlM_enter (same : SameDirectories files after)
    {names : List String} {start inner : Place}
    (entered : names.foldlM files.enter start = .ok inner) :
    names.foldlM after.enter start = .ok inner := by
  induction names generalizing start with
  | nil => exact entered
  | cons name rest inductionHypothesis =>
      rw [List.foldlM_cons] at entered ⊢
      cases isFirst : files.enter start name with
      | error cause => rw [isFirst] at entered; cases entered
      | ok next =>
          rw [isFirst] at entered
          rw [same.enter isFirst]
          exact inductionHypothesis entered

/-- The names in a path. -/
def pathNames (path : String) : List String :=
  (Text.splitAt '/' path).filter (· ≠ "")

/-- The directory that a path starts from. -/
def pathStart (files : FileSystem) (path : String) : Place :=
  if (Text.splitAt '/' path).head? = some "" then [] else files.here

theorem follow_eq (files : FileSystem) (path : String) :
    files.follow path =
      if path.toList.contains '\x00' then .error .nulCharacter
      else if path = "" then .error .notFound
      else if pathLimit ≤ path.utf8ByteSize then .error .nameTooLong
      else
        ((pathNames path).dropLast.foldlM files.enter
          (files.pathStart path)).map fun parent =>
            ⟨parent, (pathNames path).getLast?.getD ".",
              (Text.splitAt '/' path).getLast? = some ""⟩ := by
  unfold follow
  by_cases hasNul : path.toList.contains '\x00' = true
  · rw [if_pos hasNul, if_pos hasNul]
    rfl
  · rw [if_neg hasNul, if_neg hasNul]
    by_cases isEmpty : path = ""
    · rw [if_pos isEmpty, if_pos isEmpty]
      rfl
    · rw [if_neg isEmpty, if_neg isEmpty]
      by_cases isLong : pathLimit ≤ path.utf8ByteSize
      · rw [if_pos isLong, if_pos isLong]
        rfl
      · rw [if_neg isLong, if_neg isLong]
        rfl

theorem SameDirectories.follow (same : SameDirectories files after)
    {path : String} {ending : PathEnd}
    (followed : files.follow path = .ok ending) :
    after.follow path = .ok ending := by
  rw [follow_eq] at followed ⊢
  split at followed
  · cases followed
  · split at followed
    · cases followed
    · split at followed
      · cases followed
      · next noNul notEmpty isShort =>
          have sameStart : after.pathStart path = files.pathStart path := by
            rw [pathStart, pathStart, same.here]
          rw [if_neg noNul, if_neg notEmpty, if_neg isShort, sameStart]
          cases entered : (pathNames path).dropLast.foldlM files.enter
              (files.pathStart path) with
          | error cause => rw [entered] at followed; cases followed
          | ok parent =>
              rw [entered] at followed
              rw [same.foldlM_enter entered]
              exact followed

/-! ## The place of a file -/

theorem target_of_follow {path : String} {ending : PathEnd}
    (followed : files.follow path = .ok ending) :
    files.target path =
      if ending.closed || isDots ending.name then .error .isDirectory
      else
        match files.find (ending.parent ++ [ending.name]) with
        | .ok .directory => .error .isDirectory
        | .ok (.file _) => .ok (ending.parent ++ [ending.name])
        | .error .notFound => .ok (ending.parent ++ [ending.name])
        | .error cause => .error cause := by
  unfold target
  rw [followed]
  simp only [bind, Except.bind]
  by_cases isClosed : (ending.closed || isDots ending.name) = true
  · rw [if_pos isClosed, if_pos isClosed]
    rfl
  · rw [if_neg isClosed, if_neg isClosed]
    rfl

/-- A file can be written where a name is not too long and no directory is. -/
theorem target_eq_ok_iff {path : String} {place : Place} :
    files.target path = .ok place ↔
      ∃ ending, files.follow path = .ok ending ∧
        (ending.closed || isDots ending.name) = false ∧
        ending.parent ++ [ending.name] = place ∧ IsShort place ∧
        files.node? place ≠ some .directory := by
  constructor
  · intro isPlace
    cases followed : files.follow path with
    | error cause =>
        unfold target at isPlace
        rw [followed] at isPlace
        cases isPlace
    | ok ending =>
        rw [target_of_follow followed] at isPlace
        split at isPlace
        · cases isPlace
        · next isOpen =>
            have isOpen := Bool.eq_false_iff.mpr isOpen
            split at isPlace
            · cases isPlace
            · next found =>
                cases isPlace
                obtain ⟨isShort, isFile⟩ := find_eq_ok_iff.mp found
                exact ⟨ending, rfl, isOpen, rfl, isShort, by simp [isFile]⟩
            · next unfound =>
                cases isPlace
                obtain ⟨isShort, isNone⟩ := find_eq_notFound_iff.mp unfound
                exact ⟨ending, rfl, isOpen, rfl, isShort, by simp [isNone]⟩
            · cases isPlace
  · rintro ⟨ending, followed, isOpen, rfl, isShort, notDirectory⟩
    rw [target_of_follow followed, if_neg (by simp [isOpen])]
    cases isNode : files.node? (ending.parent ++ [ending.name]) with
    | none => rw [find_eq_notFound_iff.mpr ⟨isShort, isNode⟩]
    | some node =>
        rw [find_eq_ok_iff.mpr ⟨isShort, isNode⟩]
        cases node with
        | file content => rfl
        | directory => exact absurd isNode notDirectory

theorem read_of_follow {path : String} {ending : PathEnd}
    (followed : files.follow path = .ok ending) :
    files.read path =
      if isDots ending.name then .error .isDirectory
      else
        match files.find (ending.parent ++ [ending.name]) with
        | .error cause => .error cause
        | .ok .directory => .error .isDirectory
        | .ok (.file content) =>
            if ending.closed then .error .notDirectory else .ok content := by
  unfold read
  rw [followed]
  simp only [bind, Except.bind]
  by_cases isDots : isDots ending.name = true
  · rw [if_pos isDots, if_pos isDots]
    rfl
  · rw [if_neg isDots, if_neg isDots]
    cases files.find (ending.parent ++ [ending.name]) with
    | error cause => rfl
    | ok node => cases node <;> rfl

/-- What can be read can also be written: the file stands at the place. -/
theorem read_eq_ok_iff {path : String} {content : ByteArray} :
    files.read path = .ok content ↔
      ∃ place, files.target path = .ok place ∧
        files.node? place = some (.file content) := by
  constructor
  · intro isRead
    cases followed : files.follow path with
    | error cause =>
        unfold read at isRead
        rw [followed] at isRead
        cases isRead
    | ok ending =>
        rw [read_of_follow followed] at isRead
        split at isRead
        · cases isRead
        · next notDots =>
            split at isRead
            · cases isRead
            · cases isRead
            · next found =>
                split at isRead
                · cases isRead
                · next notClosed =>
                    cases isRead
                    obtain ⟨isShort, isFile⟩ := find_eq_ok_iff.mp found
                    refine ⟨_, target_eq_ok_iff.mpr ⟨ending, followed, ?_, rfl,
                      isShort, ?_⟩, isFile⟩
                    · simp [notClosed, notDots]
                    · simp [isFile]
  · rintro ⟨place, isPlace, isFile⟩
    obtain ⟨ending, followed, isOpen, rfl, isShort, -⟩ :=
      target_eq_ok_iff.mp isPlace
    rw [Bool.or_eq_false_iff] at isOpen
    rw [read_of_follow followed, isOpen.2,
      find_eq_ok_iff.mpr ⟨isShort, isFile⟩, isOpen.1]
    rfl

theorem SameDirectories.target (same : SameDirectories files after)
    {path : String} {place : Place} (isPlace : files.target path = .ok place) :
    after.target path = .ok place := by
  obtain ⟨ending, followed, isOpen, isEnd, isShort, notDirectory⟩ :=
    target_eq_ok_iff.mp isPlace
  exact target_eq_ok_iff.mpr ⟨ending, same.follow followed, isOpen, isEnd,
    isShort, fun isDirectory =>
      notDirectory ((same.directory_iff place).mp isDirectory)⟩

/-! ## Changes to files -/

theorem node?_put (files : FileSystem) {place : Place} (notRoot : place ≠ [])
    (node : FileNode) (other : Place) :
    (files.put place node).node? other =
      if other = place then some node else files.node? other := by
  unfold node? put
  by_cases isPlace : other = place
  · simp [isPlace, notRoot, Members.get?_put]
  · simp [isPlace, Members.get?_put]

theorem node?_drop (files : FileSystem) {place : Place} (notRoot : place ≠ [])
    (other : Place) :
    (files.drop place).node? other =
      if other = place then none else files.node? other := by
  unfold node? drop
  by_cases isPlace : other = place
  · simp [isPlace, notRoot, Members.get?_erase]
  · simp [isPlace, Members.get?_erase]

theorem ne_nil_of_target {path : String} {place : Place}
    (isPlace : files.target path = .ok place) : place ≠ [] := by
  obtain ⟨ending, -, -, rfl, -⟩ := target_eq_ok_iff.mp isPlace
  simp

theorem notDirectory_of_target {path : String} {place : Place}
    (isPlace : files.target path = .ok place) :
    files.node? place ≠ some .directory := by
  obtain ⟨ending, -, -, -, -, notDirectory⟩ := target_eq_ok_iff.mp isPlace
  exact notDirectory

theorem SameDirectories.put {path : String} {place : Place}
    (isPlace : files.target path = .ok place) (content : ByteArray) :
    SameDirectories files (files.put place (.file content)) := by
  refine ⟨rfl, fun other => ?_⟩
  rw [node?_put files (ne_nil_of_target isPlace)]
  split
  · next isHere =>
      have notDirectory := notDirectory_of_target isPlace
      simp [isHere, notDirectory]
  · exact Iff.rfl

theorem SameDirectories.drop {path : String} {place : Place}
    (isPlace : files.target path = .ok place) :
    SameDirectories files (files.drop place) := by
  refine ⟨rfl, fun other => ?_⟩
  rw [node?_drop files (ne_nil_of_target isPlace)]
  split
  · next isHere =>
      have notDirectory := notDirectory_of_target isPlace
      simp [isHere, notDirectory]
  · exact Iff.rfl

theorem SameDirectories.trans {last : FileSystem}
    (same : SameDirectories files after) (later : SameDirectories after last) :
    SameDirectories files last :=
  ⟨later.here.trans same.here, fun place =>
    (later.directory_iff place).trans (same.directory_iff place)⟩

/-- A file that is written is read back. -/
theorem read_put {path : String} {place : Place}
    (isPlace : files.target path = .ok place) (content : ByteArray) :
    (files.put place (.file content)).read path = .ok content := by
  refine read_eq_ok_iff.mpr ⟨place, (SameDirectories.put isPlace content).target
    isPlace, ?_⟩
  rw [node?_put files (ne_nil_of_target isPlace), if_pos rfl]

/-- The record of the changes does not matter to any path. -/
theorem SameDirectories.recorded (files : FileSystem)
    (changes : List FileChange) :
    SameDirectories files { files with changes } :=
  ⟨rfl, fun _ => Iff.rfl⟩

theorem runFrom_perform {change : FileChange}
    (isChanged : files.changed change = .ok after) :
    (perform change).runFrom files =
      (.ok (), { after with changes := files.changes ++ [change] }) := by
  rw [perform, Attempt.runFrom_bind, Attempt.runFrom_get]
  simp only [isChanged]
  rfl

theorem changed_write {path : String} {place : Place}
    (isPlace : files.target path = .ok place) (content : ByteArray) :
    files.changed (.write path content) =
      .ok (files.put place (.file content)) := by
  rw [changed, isPlace]
  rfl

theorem changed_rename {source target : String} {content : ByteArray}
    {sourcePlace targetPlace : Place}
    (isRead : files.read source = .ok content)
    (isSource : files.target source = .ok sourcePlace)
    (isTarget : files.target target = .ok targetPlace) :
    files.changed (.rename source target) =
      .ok ((files.drop sourcePlace).put targetPlace (.file content)) := by
  rw [changed, isRead, isSource, isTarget]
  rfl

/-- Where both paths lead to a file that can be written, a second file that is
written takes the place of the first, and both paths go on to do so. -/
theorem replaced {temporary path : String} {temporaryPlace place : Place}
    (isTemporary : files.target temporary = .ok temporaryPlace)
    (isPlace : files.target path = .ok place) (content : ByteArray) :
    ∃ written after, (perform (.write temporary content)).runFrom files =
        (.ok (), written) ∧
      (perform (.rename temporary path)).runFrom written = (.ok (), after) ∧
      SameDirectories files after ∧ after.read path = .ok content := by
  -- None of the changes is one of directories, so both paths lead through all
  -- of them to the places that they lead to now.
  have afterWrite := SameDirectories.put isTemporary content
  let written : FileSystem :=
    { files.put temporaryPlace (.file content) with
      changes := files.changes ++ [.write temporary content] }
  have isRecorded : SameDirectories (files.put temporaryPlace (.file content))
      written := .recorded _ _
  have toWritten := afterWrite.trans isRecorded
  have isRead : written.read temporary = .ok content := by
    obtain ⟨there, isThere, isFile⟩ :=
      read_eq_ok_iff.mp (read_put isTemporary content)
    exact read_eq_ok_iff.mpr ⟨there, isRecorded.target isThere, isFile⟩
  have isSource := toWritten.target isTemporary
  have isTarget := toWritten.target isPlace
  have afterDrop := SameDirectories.drop isSource
  have isOpen := afterDrop.target isTarget
  have afterRename := SameDirectories.put isOpen content
  have toAfter := toWritten.trans ((afterDrop.trans afterRename).trans
    (.recorded _ (written.changes ++ [.rename temporary path])))
  refine ⟨written, _, runFrom_perform (changed_write isTemporary content),
    runFrom_perform (changed_rename isRead isSource isTarget), toAfter,
    read_eq_ok_iff.mpr ⟨place, toAfter.target isPlace, ?_⟩⟩
  exact (node?_put _ (ne_nil_of_target isPlace) _ _).trans (if_pos rfl)

end Provision.FileSystem
