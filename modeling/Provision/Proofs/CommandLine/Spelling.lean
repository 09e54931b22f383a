import Provision.Proofs.CommandLine.Settings

/-!
Contract: the words that spell settings, apart from whether the settings are
accepted.

A word sets options; the last of them may wait for the next word, which is its
value.  A level is read as if its words were spelled out first and the settings
were added in turn then.  Only a value that is a word of its own is added
later, at the next option or at the end.

Owns:
- `settingsFrom`, which is what the words of a level spell;
- `readLevel`, told by what the words spell.

Does not own: which settings are accepted.
-/

namespace Provision.CommandLine

/-- What a word sets, and the option that waits for the next word. -/
structure Spelled where
  settings : List Setting := []
  waiting : Option ValueOption := none
deriving DecidableEq, Repr

/-- An option sets its value, or waits for it. -/
def Spelled.ofOption (option : ValueOption) : Option String → Spelled
  | some text => { settings := [.value option text] }
  | none => { waiting := some option }

/-- Letters in one word: flags, and perhaps an option with the rest of the
word as its value. -/
def Spelled.ofLetters? (level : Level) : List Char → Option Spelled
  | [] => some { }
  | letter :: rest =>
      match level.letter? letter with
      | none => none
      | some (.valued option) => some (.ofOption option (attachedTo rest))
      | some (.flag raised) =>
          (ofLetters? level rest).map fun spelled =>
            { spelled with settings := .flag raised :: spelled.settings }

/-- A long name, with no value attached to it where it is a flag. -/
def Spelled.ofLong? (level : Level) (name : String)
    (attached : Option String) : Option Spelled :=
  match level.long? name, attached with
  | none, _ => none
  | some (.valued option), _ => some (.ofOption option attached)
  | some (.flag _), some _ => none
  | some (.flag raised), none => some { settings := [.flag raised] }

def Spelled.ofWord? (level : Level) : Word → Option Spelled
  | .long name attached => ofLong? level name attached
  | .letters letters => ofLetters? level letters
  | .separator | .plain => none

/-- What the words of a level spell, where an option may wait for the first of
them.  No option is left waiting. -/
def settingsFrom (level : Level) :
    Option ValueOption → List String → Option (List Setting)
  | none, [] => some []
  | some _, [] => none
  | some option, text :: rest =>
      if Word.ofText text = .plain then
        (settingsFrom level none rest).map fun settings =>
          .value option text :: settings
      else none
  | none, text :: rest =>
      (Spelled.ofWord? level (Word.ofText text)).bind fun spelled =>
        (settingsFrom level spelled.waiting rest).map fun settings =>
          spelled.settings ++ settings

namespace Given

/-- The option that waits for its value. -/
def waiting (given : Given) : Option ValueOption :=
  match given.pending with
  | some (option, none) => some option
  | _ => none

/-- The same with an option that waits for its value. -/
def waitFor (given : Given) (waiting : Option ValueOption) : Given :=
  { given with pending := waiting.map fun option => (option, none) }

/-- What is given without the option that waits, and with the value that has
come. -/
def taken (given : Given) : Except Interruption Given :=
  match given.waiting with
  | some _ => .ok { given with pending := none }
  | none => given.settle

/-- Adds what a word sets. -/
def addSpelled (level : Level) (given : Given) (spelled : Spelled) :
    Except Interruption Given := do
  let held ← given.addAll level spelled.settings
  return held.waitFor spelled.waiting

end Given

variable {level : Level} {given after : Given} {option : ValueOption}
  {waiting : Option ValueOption} {attached : Option String} {spelled : Spelled}
  {text : String} {raised : Flag} {setting : Setting}
  {settings others : List Setting} {words rest : List String}

/-! ## Options that are pending -/

namespace Given

theorem pending_of_addValue
    (isAdded : given.addValue option text = .ok after) :
    after.pending = given.pending := by
  unfold addValue at isAdded
  split at isAdded
  · cases isAdded
  · split at isAdded
    · cases isAdded
    · cases isAdded
      rfl

theorem pending_of_settle (isSettled : given.settle = .ok after) :
    after.pending = none := by
  unfold settle at isSettled
  split at isSettled
  · cases isSettled
    assumption
  · cases isSettled
  · exact pending_of_addValue isSettled

theorem settle_of_pending (isSettled : given.pending = none) :
    given.settle = .ok given := by
  unfold settle
  rw [isSettled]

/-- What follows the settling meets nothing that is pending. -/
theorem settle_bind_congr {α : Type}
    {next other : Given → Except Interruption α}
    (agree : ∀ start : Given, start.pending = none → next start = other start) :
    (given.settle >>= next) = given.settle >>= other := by
  cases isSettled : given.settle with
  | error cause => rfl
  | ok start => exact agree start (pending_of_settle isSettled)

theorem pending_of_add (isSettled : given.pending = none)
    (isAdded : given.add level setting = .ok after) :
    after.pending = none := by
  cases setting with
  | value option text => rw [pending_of_addValue isAdded, isSettled]
  | flag raised =>
      change given.raiseFlag level raised = .ok after at isAdded
      rw [raiseFlag_eq_of_isAdmissible (isAdmissible_of_raiseFlag isAdded)]
        at isAdded
      obtain ⟨settled, areSettled, isAdded⟩ := bind_eq_ok_iff.mp isAdded
      have isIdle := pending_of_settle areSettled
      split at isAdded
      · cases isAdded
      · cases isAdded
        exact isIdle

theorem pending_of_addAll (isSettled : given.pending = none)
    (areAdded : given.addAll level settings = .ok after) :
    after.pending = none := by
  induction settings generalizing given with
  | nil =>
      cases areAdded
      exact isSettled
  | cons setting rest inductionHypothesis =>
      obtain ⟨held, isAdded, areAdded⟩ := bind_eq_ok_iff.mp areAdded
      exact inductionHypothesis (pending_of_add isSettled isAdded) areAdded

theorem waitFor_none (isSettled : given.pending = none) :
    given.waitFor none = given := by
  unfold waitFor
  rw [Option.map_none, ← isSettled]

@[simp]
theorem waiting_waitFor : (given.waitFor waiting).waiting = waiting := by
  cases waiting <;> rfl

theorem taken_waitFor (isSettled : given.pending = none) :
    (given.waitFor waiting).taken = .ok given := by
  unfold taken
  rw [waiting_waitFor]
  cases waiting with
  | none =>
      rw [waitFor_none isSettled]
      exact settle_of_pending isSettled
  | some option =>
      change Except.ok { given with pending := none } = _
      rw [← isSettled]

theorem taken_of_waiting_eq_none (isIdle : given.waiting = none) :
    given.taken = given.settle := by
  unfold taken
  rw [isIdle]

theorem waiting_of_settle (isSettled : given.settle = .ok after) :
    given.waiting = none := by
  obtain ⟨values, flags, pending⟩ := given
  rcases pending with _ | ⟨option, _ | text⟩
  · rfl
  · cases isSettled
  · rfl

theorem awaits_eq : given.awaits = given.waiting.isSome := by
  obtain ⟨values, flags, pending⟩ := given
  rcases pending with _ | ⟨option, _ | text⟩ <;> rfl

theorem eq_waitFor_of_waiting (isWaiting : given.waiting = some option) :
    ∃ idle : Given,
      idle.pending = none ∧ given = idle.waitFor (some option) := by
  obtain ⟨values, flags, pending⟩ := given
  rcases pending with _ | ⟨other, _ | text⟩
  · cases isWaiting
  · cases isWaiting
    exact ⟨{ values, flags }, rfl, rfl⟩
  · cases isWaiting

theorem addSpelled_eq_ok_iff :
    given.addSpelled level spelled = .ok after ↔
      ∃ held, given.addAll level spelled.settings = .ok held ∧
        held.waitFor spelled.waiting = after := by
  unfold addSpelled
  rw [bind_eq_ok_iff]
  simp only [pure, Except.pure, Except.ok.injEq]

/-- A word that sets one thing adds it. -/
theorem addSpelled_singleton (isSettled : given.pending = none) :
    given.addSpelled level { settings := [setting] } =
      given.add level setting := by
  unfold addSpelled
  rw [addAll_cons]
  cases isAdded : given.add level setting with
  | error cause => rfl
  | ok held =>
      exact congrArg Except.ok (waitFor_none (pending_of_add isSettled isAdded))

end Given

/-! ## Words that set options -/

theorem beginOption_settle :
    given.beginOption option attached = given.settle >>= fun start =>
      start.beginOption option attached := by
  refine Given.settle_bind_congr fun start isSettled => ?_
  unfold Given.beginOption
  rw [Given.settle_of_pending isSettled]
  rfl

theorem raiseFlag_settle :
    given.raiseFlag level raised = given.settle >>= fun start =>
      start.raiseFlag level raised := by
  refine Given.settle_bind_congr fun start isSettled => ?_
  unfold Given.raiseFlag
  rw [Given.settle_of_pending isSettled]
  rfl

theorem beginOption_eq (isSettled : given.pending = none) :
    given.beginOption option attached =
      given.addSpelled level (.ofOption option attached) := by
  unfold Given.beginOption
  rw [Given.settle_of_pending isSettled]
  cases attached with
  | none => rfl
  | some text =>
      change given.add level (.value option text) = _
      exact (Given.addSpelled_singleton isSettled).symm

/-- Letters add what they set, once nothing is pending. -/
theorem readLetters_eq {letters : List Char}
    (isSpelled : Spelled.ofLetters? level letters = some spelled)
    (isSettled : given.pending = none) :
    readLetters level given letters = given.addSpelled level spelled := by
  induction letters generalizing given spelled with
  | nil =>
      cases isSpelled
      exact congrArg Except.ok (Given.waitFor_none isSettled).symm
  | cons letter rest inductionHypothesis =>
      unfold readLetters
      unfold Spelled.ofLetters? at isSpelled
      cases isLetter : level.letter? letter with
      | none =>
          rw [isLetter] at isSpelled
          cases isSpelled
      | some switch =>
          rw [isLetter] at isSpelled
          cases switch with
          | valued option =>
              cases isSpelled
              exact beginOption_eq isSettled
          | flag raised =>
              obtain ⟨others, areSpelled, rfl⟩ :=
                Option.map_eq_some_iff.mp isSpelled
              change (given.add level (.flag raised) >>= fun held =>
                readLetters level held rest) = _
              unfold Given.addSpelled
              rw [Given.addAll_cons]
              cases isAdded : given.add level (.flag raised) with
              | error cause => rfl
              | ok held =>
                  exact inductionHypothesis areSpelled
                    (Given.pending_of_add isSettled isAdded)

/-- What is pending is settled before the first letter. -/
theorem readLetters_cons_eq {letter : Char} {letters : List Char}
    (isSpelled : Spelled.ofLetters? level (letter :: letters) = some spelled) :
    readLetters level given (letter :: letters) =
      given.settle >>= fun start => start.addSpelled level spelled := by
  have settlesFirst : readLetters level given (letter :: letters) =
      given.settle >>= fun start =>
        readLetters level start (letter :: letters) := by
    unfold readLetters
    unfold Spelled.ofLetters? at isSpelled
    cases isLetter : level.letter? letter with
    | none =>
        rw [isLetter] at isSpelled
        cases isSpelled
    | some switch =>
        cases switch with
        | valued option => exact beginOption_settle
        | flag raised =>
            change (given.raiseFlag level raised >>= fun held =>
              readLetters level held letters) = _
            rw [raiseFlag_settle, bind_assoc]
  rw [settlesFirst]
  exact Given.settle_bind_congr fun start => readLetters_eq isSpelled

theorem readLong_eq {name : String}
    (isSpelled : Spelled.ofLong? level name attached = some spelled) :
    readLong level given name attached =
      given.settle >>= fun start => start.addSpelled level spelled := by
  unfold readLong
  unfold Spelled.ofLong? at isSpelled
  cases isName : level.long? name with
  | none =>
      rw [isName] at isSpelled
      cases isSpelled
  | some switch =>
      rw [isName] at isSpelled
      cases switch with
      | valued option =>
          cases isSpelled
          change given.beginOption option attached = _
          rw [beginOption_settle]
          exact Given.settle_bind_congr fun start => beginOption_eq
      | flag raised =>
          cases attached with
          | some text => cases isSpelled
          | none =>
              cases isSpelled
              change given.raiseFlag level raised = _
              rw [raiseFlag_settle]
              refine Given.settle_bind_congr fun start isSettled => ?_
              change start.add level (.flag raised) = _
              exact (Given.addSpelled_singleton isSettled).symm

/-- Letters that are read set something. -/
theorem isSome_ofLetters?_of_readLetters {letters : List Char}
    (isRead : readLetters level given letters = .ok after) :
    (Spelled.ofLetters? level letters).isSome := by
  induction letters generalizing given with
  | nil => rfl
  | cons letter rest inductionHypothesis =>
      unfold readLetters at isRead
      unfold Spelled.ofLetters?
      cases isLetter : level.letter? letter with
      | none =>
          rw [isLetter] at isRead
          cases isRead
      | some switch =>
          rw [isLetter] at isRead
          cases switch with
          | valued option => rfl
          | flag raised =>
              obtain ⟨held, -, isRead⟩ := bind_eq_ok_iff.mp isRead
              change ((Spelled.ofLetters? level rest).map _).isSome = true
              rw [Option.isSome_map]
              exact inductionHypothesis isRead

theorem isSome_ofLong?_of_readLong {name : String}
    (isRead : readLong level given name attached = .ok after) :
    (Spelled.ofLong? level name attached).isSome := by
  unfold readLong at isRead
  unfold Spelled.ofLong?
  cases isName : level.long? name with
  | none =>
      rw [isName] at isRead
      cases isRead
  | some switch =>
      rw [isName] at isRead
      cases switch with
      | valued option => rfl
      | flag raised =>
          cases attached with
          | some text => cases isRead
          | none => rfl

/-! ## What words spell -/

theorem settingsFrom_some_cons_iff :
    settingsFrom level (some option) (text :: rest) = some settings ↔
      Word.ofText text = .plain ∧
        ∃ others, settingsFrom level none rest = some others ∧
          .value option text :: others = settings := by
  rw [settingsFrom]
  split
  · rename_i isPlain
    rw [Option.map_eq_some_iff]
    exact (and_iff_right isPlain).symm
  · rename_i isOption
    exact ⟨nofun, fun ⟨isPlain, _⟩ => absurd isPlain isOption⟩

theorem settingsFrom_none_cons_iff :
    settingsFrom level none (text :: rest) = some settings ↔
      ∃ spelled, Spelled.ofWord? level (Word.ofText text) = some spelled ∧
        ∃ others, settingsFrom level spelled.waiting rest = some others ∧
          spelled.settings ++ others = settings := by
  rw [settingsFrom, Option.bind_eq_some_iff]
  simp only [Option.map_eq_some_iff]

/-- Words that spell settings at a level. -/
structure Spelling (level : Level) where
  words : List String
  settings : List Setting
  spells : settingsFrom level none words = some settings

end Provision.CommandLine
