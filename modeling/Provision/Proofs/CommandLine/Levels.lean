import Provision.Proofs.CommandLine.Spelling

/-!
Contract: how a level is read, told by what its words spell.

Owns:
- the words that end a level;
- `Settles`, which is that a level is read and nothing stays pending;
- the settings that are given by a level.

Does not own: what a word sets.
-/

namespace Provision.CommandLine

/-- The word that ends the reading of what stands before it. -/
def Next.text : Next → String
  | .subcommand found => found.text
  | .help => "help"

/-- The words that end a level, and the word behind which reading goes on at
another one. -/
inductive LevelEnd (level : Level) :
    List String → Option (Next × List String) → Prop
  | words : LevelEnd level [] none
  | separator : LevelEnd level ["--"] none
  | next {text : String} {next : Next} {rest : List String}
      (isTop : level = .top)
      (isNext : Next.ofText? text = some next) :
      LevelEnd level (text :: rest) (some (next, rest))

/-- A level is read up to its end, and what is pending there is settled. -/
def Settles (level : Level) (given : Given) (words : List String)
    (next : Option (Next × List String)) (after : Given) : Prop :=
  ∃ held, readLevel level false given words = .ok (held, next) ∧
    held.settle = .ok after

variable {level : Level} {given start after : Given} {option : ValueOption}
  {spelled : Spelled} {text : String} {settings : List Setting}
  {words rest tail : List String} {next found : Option (Next × List String)}

/-! ## Words of a level -/

theorem Next.ofText?_eq_some_iff {next : Next} :
    Next.ofText? text = some next ↔ text = next.text := by
  constructor
  · intro isNext
    unfold Next.ofText? at isNext
    split at isNext
    · cases isNext
      assumption
    · obtain ⟨subcommand, isFound, rfl⟩ := Option.map_eq_some_iff.mp isNext
      have isText := List.find?_some isFound
      exact (of_decide_eq_true isText).symm
  · rintro rfl
    rcases next with ⟨⟨⟩⟩ | _ <;> decide

theorem ofText_text (next : Next) : Word.ofText next.text = .plain := by
  rcases next with ⟨⟨⟩⟩ | _ <;> decide

theorem next?_eq_none_of_not_plain (isOption : Word.ofText text ≠ .plain) :
    level.next? given text = none := by
  unfold Level.next?
  split
  · by_contra isFound
    obtain ⟨next, isNext⟩ := Option.ne_none_iff_exists'.mp isFound
    rw [Next.ofText?_eq_some_iff.mp isNext] at isOption
    exact isOption (ofText_text next)
  · rfl

theorem ofText_ne_letters_nil : Word.ofText text ≠ .letters [] := by
  unfold Word.ofText
  split
  · nofun
  · split <;> nofun
  · nofun
  · nofun

/-- A word that sets something is read by adding what it sets. -/
theorem readLevel_word
    (isSpelled : Spelled.ofWord? level (Word.ofText text) = some spelled) :
    readLevel level false given (text :: rest) =
      given.settle >>= fun start =>
        start.addSpelled level spelled >>= fun held =>
          readLevel level false held rest := by
  conv_lhs => unfold readLevel
  rw [← bind_assoc]
  cases isForm : Word.ofText text with
  | separator =>
      rw [isForm] at isSpelled
      cases isSpelled
  | plain =>
      rw [isForm] at isSpelled
      cases isSpelled
  | long name attached =>
      rw [isForm] at isSpelled
      rw [next?_eq_none_of_not_plain (isForm ▸ nofun), ← readLong_eq isSpelled]
  | letters letters =>
      rw [isForm] at isSpelled
      rw [next?_eq_none_of_not_plain (isForm ▸ nofun)]
      cases letters with
      | nil => exact absurd isForm ofText_ne_letters_nil
      | cons letter letters =>
          rw [← readLetters_cons_eq isSpelled]

theorem next?_eq_none_of_waiting (isWaiting : given.waiting = some option) :
    level.next? given text = none := by
  unfold Level.next?
  rw [Given.awaits_eq, isWaiting]
  simp

/-- Words that end a level are not looked at. -/
theorem readLevel_end
    (isIdle : given.waiting = none)
    (ends : LevelEnd level tail next) :
    readLevel level false given tail = .ok (given, next) := by
  cases ends with
  | words => rfl
  | separator =>
      have isSeparator : Word.ofText "--" = .separator := by decide
      unfold readLevel
      rw [next?_eq_none_of_not_plain (isSeparator ▸ nofun), isSeparator]
      rfl
  | @next text next rest isTop isNext =>
      have isFound : level.next? given text = some next := by
        unfold Level.next?
        rw [Given.awaits_eq, isIdle, isTop, isNext]
        rfl
      unfold readLevel
      rw [isFound]
      rfl

theorem settles_end_iff
    (isIdle : given.waiting = none)
    (ends : LevelEnd level tail next) :
    Settles level given tail found after ↔
      found = next ∧ given.settle = .ok after := by
  unfold Settles
  rw [readLevel_end isIdle ends]
  constructor
  · rintro ⟨held, isRead, isSettled⟩
    cases isRead
    exact ⟨rfl, isSettled⟩
  · rintro ⟨rfl, isSettled⟩
    exact ⟨given, rfl, isSettled⟩

/-- A word that an option waits for is its value. -/
theorem settles_value_iff (isPlain : Word.ofText text = .plain) :
    Settles level (start.waitFor (some option)) (text :: rest) found after ↔
      Settles level { start with pending := some (option, some text) } rest
        found after := by
  have isRead : readLevel level false (start.waitFor (some option))
      (text :: rest) = readLevel level false
        { start with pending := some (option, some text) } rest := by
    conv_lhs => unfold readLevel
    rw [next?_eq_none_of_waiting Given.waiting_waitFor, isPlain]
    rfl
  unfold Settles
  rw [isRead]

/-- A word that sets something adds it. -/
theorem settles_word_iff
    (isSpelled : Spelled.ofWord? level (Word.ofText text) = some spelled) :
    Settles level given (text :: rest) found after ↔
      ∃ start, given.settle = .ok start ∧
        ∃ added, start.addAll level spelled.settings = .ok added ∧
          Settles level (added.waitFor spelled.waiting) rest found after := by
  unfold Settles
  rw [readLevel_word isSpelled]
  simp only [bind_eq_ok_iff, Given.addSpelled_eq_ok_iff]
  constructor
  · rintro ⟨held, ⟨start, isStart, _, ⟨added, areAdded, rfl⟩, isRead⟩,
      isSettled⟩
    exact ⟨start, isStart, added, areAdded, held, isRead, isSettled⟩
  · rintro ⟨start, isStart, added, areAdded, held, isRead, isSettled⟩
    exact ⟨held, ⟨start, isStart, _, ⟨added, areAdded, rfl⟩, isRead⟩,
      isSettled⟩

/-- What words spell is added before the level ends, and reading goes on where
it ends. -/
theorem settles_append_iff_of_waiting
    (areSpelled : settingsFrom level given.waiting words = some settings)
    (ends : LevelEnd level tail next) :
    Settles level given (words ++ tail) found after ↔
      found = next ∧ ∃ start, given.taken = .ok start ∧
        start.addAll level settings = .ok after := by
  induction words generalizing given settings with
  | nil =>
      cases isWaiting : given.waiting with
      | some option =>
          rw [isWaiting] at areSpelled
          cases areSpelled
      | none =>
          rw [isWaiting] at areSpelled
          cases areSpelled
          rw [List.nil_append, settles_end_iff isWaiting ends,
            Given.taken_of_waiting_eq_none isWaiting]
          change _ ↔ found = next ∧ ∃ start, given.settle = .ok start ∧
            Except.ok start = Except.ok after
          simp only [Except.ok.injEq, exists_eq_right]
  | cons text rest inductionHypothesis =>
      cases isWaiting : given.waiting with
      | some option =>
          rw [isWaiting, settingsFrom_some_cons_iff] at areSpelled
          obtain ⟨isPlain, others, areSpelled, rfl⟩ := areSpelled
          obtain ⟨idle, isIdle, rfl⟩ := Given.eq_waitFor_of_waiting isWaiting
          let valued : Given :=
            { idle with pending := some (option, some text) }
          have isValue : valued.taken = idle.add level (.value option text) := by
            rw [← Given.waitFor_none isIdle]
            rfl
          have isRest : settingsFrom level valued.waiting rest = some others :=
            areSpelled
          rw [List.cons_append, settles_value_iff isPlain,
            inductionHypothesis isRest, isValue, Given.taken_waitFor isIdle]
          simp only [Given.addAll_cons, bind_eq_ok_iff, Except.ok.injEq,
            exists_eq_left']
      | none =>
          rw [isWaiting, settingsFrom_none_cons_iff] at areSpelled
          obtain ⟨spelled, isSpelled, others, areSpelled, rfl⟩ := areSpelled
          have isRest (start added : Given) (isStart : given.settle = .ok start)
              (areAdded : start.addAll level spelled.settings = .ok added) :
              Settles level (added.waitFor spelled.waiting) (rest ++ tail)
                  found after ↔
                found = next ∧ added.addAll level others = .ok after := by
            have isIdle := Given.pending_of_addAll
              (Given.pending_of_settle isStart) areAdded
            rw [inductionHypothesis (by rw [Given.waiting_waitFor, areSpelled]),
              Given.taken_waitFor isIdle]
            simp only [Except.ok.injEq, exists_eq_left']
          rw [List.cons_append, settles_word_iff isSpelled,
            Given.taken_of_waiting_eq_none isWaiting]
          simp only [Given.addAll_append, bind_eq_ok_iff]
          constructor
          · rintro ⟨start, isStart, added, areAdded, settles⟩
            obtain ⟨isFound, isAfter⟩ :=
              (isRest start added isStart areAdded).mp settles
            exact ⟨isFound, start, isStart, added, areAdded, isAfter⟩
          · rintro ⟨isFound, start, isStart, added, areAdded, isAfter⟩
            exact ⟨start, isStart, added, areAdded,
              (isRest start added isStart areAdded).mpr ⟨isFound, isAfter⟩⟩

/-- What the first word is that is read at a level. -/
inductive FirstWord (level : Level) (given : Given) (text : String)
    (rest : List String) (next : Option (Next × List String)) : Prop where
  | ending
      (isIdle : given.waiting = none)
      (ends : LevelEnd level (text :: rest) next)
  | option (spelled : Spelled)
      (isSpelled : Spelled.ofWord? level (Word.ofText text) = some spelled)
  | value (option : ValueOption)
      (isWaiting : given.waiting = some option)
      (isPlain : Word.ofText text = .plain)

theorem eq_of_isSeparator (isSeparator : Word.ofText text = .separator) :
    text = "--" := by
  unfold Word.ofText at isSeparator
  split at isSeparator
  · rename_i areDashes
    exact String.toList_inj.mp areDashes
  · split at isSeparator <;> cases isSeparator
  · cases isSeparator
  · cases isSeparator

theorem firstWord_of_settles
    (settles : Settles level given (text :: rest) next after) :
    FirstWord level given text rest next := by
  obtain ⟨held, isRead, isSettled⟩ := settles
  unfold readLevel at isRead
  split at isRead
  · rename_i isNext
    cases isRead
    unfold Level.next? at isNext
    split at isNext
    · rename_i isTop
      rw [Bool.and_eq_true, decide_eq_true_eq] at isTop
      exact .ending (Given.waiting_of_settle isSettled) (.next isTop.1 isNext)
    · cases isNext
  · rename_i isSeparator
    cases rest with
    | nil =>
        cases isRead
        rw [eq_of_isSeparator isSeparator]
        exact .ending (Given.waiting_of_settle isSettled) .separator
    | cons other others => cases isRead
  · rename_i name attached isLong
    obtain ⟨mid, isMid, -⟩ := bind_eq_ok_iff.mp isRead
    obtain ⟨spelled, isSpelled⟩ :=
      Option.isSome_iff_exists.mp (isSome_ofLong?_of_readLong isMid)
    exact .option spelled (isLong ▸ isSpelled)
  · rename_i letters areLetters
    obtain ⟨mid, isMid, -⟩ := bind_eq_ok_iff.mp isRead
    obtain ⟨spelled, isSpelled⟩ :=
      Option.isSome_iff_exists.mp (isSome_ofLetters?_of_readLetters isMid)
    exact .option spelled (areLetters ▸ isSpelled)
  · rename_i isPlain
    split at isRead
    · rename_i option isPending
      refine .value option ?_ isPlain
      unfold Given.waiting
      rw [isPending]
    · cases isRead

/-- The words of a level that is settled spell something. -/
theorem exists_settingsFrom_of_settles
    (settles : Settles level given words next after) :
    ∃ front tail settings, words = front ++ tail ∧ LevelEnd level tail next ∧
      settingsFrom level given.waiting front = some settings := by
  induction words generalizing given with
  | nil =>
      obtain ⟨held, isRead, isSettled⟩ := settles
      cases isRead
      refine ⟨[], [], [], rfl, .words, ?_⟩
      rw [Given.waiting_of_settle isSettled]
      rfl
  | cons text rest inductionHypothesis =>
      cases firstWord_of_settles settles with
      | ending isIdle ends =>
          refine ⟨[], text :: rest, [], rfl, ends, ?_⟩
          rw [isIdle]
          rfl
      | option spelled isSpelled =>
          obtain ⟨start, isStart, added, -, settles⟩ :=
            (settles_word_iff isSpelled).mp settles
          obtain ⟨front, tail, settings, rfl, ends, areSpelled⟩ :=
            inductionHypothesis settles
          rw [Given.waiting_waitFor] at areSpelled
          refine ⟨text :: front, tail, spelled.settings ++ settings, rfl, ends,
            ?_⟩
          rw [Given.waiting_of_settle isStart]
          exact settingsFrom_none_cons_iff.mpr
            ⟨spelled, isSpelled, settings, areSpelled, rfl⟩
      | value option isWaiting isPlain =>
          obtain ⟨idle, isIdle, rfl⟩ := Given.eq_waitFor_of_waiting isWaiting
          rw [settles_value_iff isPlain] at settles
          obtain ⟨front, tail, settings, rfl, ends, areSpelled⟩ :=
            inductionHypothesis settles
          refine ⟨text :: front, tail, .value option text :: settings, rfl,
            ends, ?_⟩
          rw [isWaiting]
          exact settingsFrom_some_cons_iff.mpr
            ⟨isPlain, settings, areSpelled, rfl⟩

/-- Where words spell settings, the level is settled if the settings are given
once and pass their checks; they are what is given. -/
theorem settles_append_iff
    (areSpelled : settingsFrom level none words = some settings)
    (ends : LevelEnd level tail next) :
    Settles level { } (words ++ tail) found after ↔
      found = next ∧ (∀ setting ∈ settings, setting.IsAdmissible) ∧
        GivenOnce settings ∧ after = .ofSettings settings := by
  have isSpelled : settingsFrom level ({ } : Given).waiting words =
      some settings := areSpelled
  have isStart : ({ } : Given).taken = .ok { } := rfl
  rw [settles_append_iff_of_waiting isSpelled ends, isStart]
  simp only [Except.ok.injEq, exists_eq_left', Given.addAll_eq_ok_iff]

end Provision.CommandLine
