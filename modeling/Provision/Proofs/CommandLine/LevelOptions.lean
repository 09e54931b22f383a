import Provision.Proofs.CommandLine.Spelling

/-!
Contract: the options that the words of a level can set.

Owns:
- that a word of a level sets options of that level only, and waits for no
  other one;
- the same for all words of a level together.

Does not own: how a level is read.
-/

namespace Provision.CommandLine

variable {level : Level} {waiting : Option ValueOption}
  {attached : Option String} {spelled : Spelled} {settings : List Setting}
  {words : List String}

/-- Everything that a word sets may stand at a level, and so may the option
that waits. -/
structure Spelled.MayStandAt (spelled : Spelled) (level : Level) : Prop where
  settings : ∀ setting ∈ spelled.settings, setting.switch ∈ level.switches
  waiting : ∀ option, spelled.waiting = some option →
    .valued option ∈ level.switches

namespace Spelled

theorem ofOption_mayStandAt {option : ValueOption}
    (isMember : .valued option ∈ level.switches) :
    (ofOption option attached).MayStandAt level := by
  cases attached with
  | none =>
      refine ⟨nofun, ?_⟩
      rintro _ ⟨⟩
      exact isMember
  | some text => exact ⟨List.forall_mem_singleton.mpr isMember, nofun⟩

theorem ofLetters?_mayStandAt {letters : List Char}
    (isSpelled : ofLetters? level letters = some spelled) :
    spelled.MayStandAt level := by
  induction letters generalizing spelled with
  | nil =>
      cases isSpelled
      exact ⟨nofun, nofun⟩
  | cons letter rest inductionHypothesis =>
      unfold ofLetters? at isSpelled
      cases isLetter : level.letter? letter with
      | none =>
          rw [isLetter] at isSpelled
          cases isSpelled
      | some switch =>
          have isMember := List.mem_of_find?_eq_some isLetter
          rw [isLetter] at isSpelled
          cases switch with
          | valued option =>
              cases isSpelled
              exact ofOption_mayStandAt isMember
          | flag raised =>
              obtain ⟨others, areSpelled, rfl⟩ :=
                Option.map_eq_some_iff.mp isSpelled
              obtain ⟨maySet, mayWait⟩ := inductionHypothesis areSpelled
              exact ⟨List.forall_mem_cons.mpr ⟨isMember, maySet⟩, mayWait⟩

theorem ofLong?_mayStandAt {name : String}
    (isSpelled : ofLong? level name attached = some spelled) :
    spelled.MayStandAt level := by
  unfold ofLong? at isSpelled
  cases isName : level.long? name with
  | none =>
      rw [isName] at isSpelled
      cases isSpelled
  | some switch =>
      have isMember := List.mem_of_find?_eq_some isName
      rw [isName] at isSpelled
      cases switch with
      | valued option =>
          cases isSpelled
          exact ofOption_mayStandAt isMember
      | flag raised =>
          cases attached with
          | some text => cases isSpelled
          | none =>
              cases isSpelled
              exact ⟨List.forall_mem_singleton.mpr isMember, nofun⟩

theorem ofWord?_mayStandAt {word : Word}
    (isSpelled : ofWord? level word = some spelled) :
    spelled.MayStandAt level := by
  cases word with
  | separator => cases isSpelled
  | long name attached => exact ofLong?_mayStandAt isSpelled
  | letters letters => exact ofLetters?_mayStandAt isSpelled
  | plain => cases isSpelled

end Spelled

/-- What words of a level spell may stand there. -/
theorem mem_switches_of_settingsFrom
    (areSpelled : settingsFrom level waiting words = some settings)
    (mayWait : ∀ option, waiting = some option →
      .valued option ∈ level.switches) :
    ∀ setting ∈ settings, setting.switch ∈ level.switches := by
  induction words generalizing waiting settings with
  | nil =>
      cases waiting with
      | none =>
          cases areSpelled
          nofun
      | some option => cases areSpelled
  | cons text rest inductionHypothesis =>
      cases waiting with
      | none =>
          obtain ⟨spelled, isSpelled, others, restSpelled, rfl⟩ :=
            settingsFrom_none_cons_iff.mp areSpelled
          have mayStand := Spelled.ofWord?_mayStandAt isSpelled
          exact List.forall_mem_append.mpr ⟨mayStand.settings,
            inductionHypothesis restSpelled mayStand.waiting⟩
      | some option =>
          obtain ⟨-, others, restSpelled, rfl⟩ :=
            settingsFrom_some_cons_iff.mp areSpelled
          exact List.forall_mem_cons.mpr ⟨mayWait option rfl,
            inductionHypothesis restSpelled nofun⟩

end Provision.CommandLine
