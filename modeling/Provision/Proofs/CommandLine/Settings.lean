import Mathlib.Data.List.Induction
import Mathlib.Data.List.Nodup
import Mathlib.Data.List.Pairwise
import Provision.CommandLine
import Provision.Proofs.Resource.Building

/-!
Contract: what is given on a command line, one setting after the other.

A setting is a value of an option, or a flag.  Settings that are added in turn
are all kept, in their order, if each passes its check and none is given again
that may be given only once.

Owns:
- settings, the check of each, and the ones that may be given only once;
- `addAll`, which adds settings in turn, and what it comes to.

Does not own: the words that spell a setting.
-/

namespace Provision.CommandLine

/-- A value of an option, or a flag. -/
inductive Setting where
  | value (option : ValueOption) (text : String)
  | flag (flag : Flag)
deriving DecidableEq, Repr

namespace Setting

/-- What is set. -/
def switch : Setting → Switch
  | .value option _ => .valued option
  | .flag raised => .flag raised

/-- What is set, if it may not be set again. -/
def single? : Setting → Option Switch
  | .value option _ => if option.repeats then none else some (.valued option)
  | .flag raised => some (.flag raised)

/-- A value that passes its check, or a flag that does not ask for a text. -/
def IsAdmissible : Setting → Prop
  | .value option text => option.misuse? text = none
  | .flag raised => raised ≠ .help ∧ raised ≠ .version

/-- An option with the text that it is set to. -/
def value? : Setting → Option (ValueOption × String)
  | .value option text => some (option, text)
  | .flag _ => none

/-- The text that one option is set to. -/
def textOf? (option : ValueOption) (setting : Setting) : Option String :=
  setting.value?.bind fun value =>
    if value.1 = option then some value.2 else none

def flag? : Setting → Option Flag
  | .value _ _ => none
  | .flag raised => some raised

variable {setting : Setting} {option : ValueOption} {text : String}
  {raised : Flag}

theorem textOf?_eq_some_iff :
    setting.textOf? option = some text ↔ setting = .value option text := by
  cases setting with
  | value other found => simp [textOf?, value?]
  | flag raised => simp [textOf?, value?]

theorem flag?_eq_some_iff :
    setting.flag? = some raised ↔ setting = .flag raised := by
  cases setting <;> simp [flag?]

theorem single?_eq_flag_iff :
    setting.single? = some (.flag raised) ↔ setting = .flag raised := by
  cases setting with
  | value other found => simp [single?]
  | flag other => simp [single?]

theorem single?_eq_valued_iff (isSingle : option.repeats = false) :
    setting.single? = some (.valued option) ↔
      ∃ text, setting = .value option text := by
  cases setting with
  | value other found =>
      rw [single?]
      constructor
      · intro isSwitch
        split at isSwitch
        · cases isSwitch
        · cases isSwitch
          exact ⟨found, rfl⟩
      · rintro ⟨text, isValue⟩
        cases isValue
        rw [isSingle]
        rfl
  | flag raised => simp [single?]

end Setting

/-- The texts that an option is set to, in their order. -/
def textsOf (option : ValueOption) (settings : List Setting) : List String :=
  settings.filterMap (Setting.textOf? option)

/-- No option that may be set only once, and no flag, is set again. -/
def GivenOnce (settings : List Setting) : Prop :=
  (settings.filterMap Setting.single?).Nodup

namespace Given

/-- All settings, none of which is pending. -/
def ofSettings (settings : List Setting) : Given where
  values := settings.filterMap Setting.value?
  flags := settings.filterMap Setting.flag?

/-- Adds a setting, which is checked. -/
def add (level : Level) (given : Given) : Setting → Except Interruption Given
  | .value option text => given.addValue option text
  | .flag raised => given.raiseFlag level raised

/-- Adds settings in turn. -/
def addAll (level : Level) (given : Given) (settings : List Setting) :
    Except Interruption Given :=
  settings.foldlM (add level) given

end Given

variable {level : Level} {given after : Given} {option : ValueOption}
  {text : String} {raised : Flag} {setting : Setting}
  {settings others : List Setting}

/-- Where what is found in a list is all different, it is found once. -/
theorem eq_of_nodup_filterMap {α β : Type} {find : α → Option β}
    {items : List α} (areDifferent : (items.filterMap find).Nodup)
    {one other : α} {found : β}
    (isMember : one ∈ items) (isOther : other ∈ items)
    (isFound : find one = some found) (isAlike : find other = some found) :
    one = other := by
  by_contra areTwo
  rw [List.Nodup, List.pairwise_filterMap] at areDifferent
  have isSymmetric : Std.Symm fun left right =>
      ∀ one, find left = some one → ∀ other, find right = some other →
        one ≠ other :=
    ⟨fun _ _ differ one isOne other isOther =>
      (differ other isOther one isOne).symm⟩
  exact areDifferent.forall isMember isOther areTwo found isFound found isAlike
    rfl

/-! ## What is given by settings -/

instance : Decidable setting.IsAdmissible := by
  unfold Setting.IsAdmissible
  cases setting <;> infer_instance

instance : Decidable (GivenOnce settings) := by
  unfold GivenOnce
  infer_instance

theorem mem_textsOf_iff :
    text ∈ textsOf option settings ↔ .value option text ∈ settings := by
  unfold textsOf
  rw [List.mem_filterMap]
  simp only [Setting.textOf?_eq_some_iff, exists_eq_right]

theorem textsOf_append :
    textsOf option (settings ++ others) =
      textsOf option settings ++ textsOf option others :=
  List.filterMap_append

theorem mem_single?_valued_iff (isSingle : option.repeats = false) :
    .valued option ∈ settings.filterMap Setting.single? ↔
      ∃ text, .value option text ∈ settings := by
  rw [List.mem_filterMap]
  simp only [Setting.single?_eq_valued_iff isSingle]
  constructor
  · rintro ⟨setting, isMember, text, rfl⟩
    exact ⟨text, isMember⟩
  · rintro ⟨text, isMember⟩
    exact ⟨.value option text, isMember, text, rfl⟩

theorem mem_single?_flag_iff :
    .flag raised ∈ settings.filterMap Setting.single? ↔
      .flag raised ∈ settings := by
  rw [List.mem_filterMap]
  simp only [Setting.single?_eq_flag_iff, exists_eq_right]

/-- One more setting is given once if those before it are, and none of them
sets the same. -/
theorem givenOnce_concat_iff :
    GivenOnce (settings ++ [setting]) ↔
      GivenOnce settings ∧
        ∀ switch, setting.single? = some switch →
          switch ∉ settings.filterMap Setting.single? := by
  unfold GivenOnce
  rw [List.filterMap_append]
  cases isSingle : setting.single? with
  | none => simp [isSingle]
  | some switch =>
      rw [List.filterMap_cons_some isSingle, List.filterMap_nil,
        ← List.concat_eq_append, List.nodup_concat, and_comm]
      simp only [Option.some.injEq, forall_eq']

namespace Given

@[simp]
theorem allValues_ofSettings :
    (ofSettings settings).allValues option = textsOf option settings := by
  unfold allValues ofSettings textsOf
  rw [List.filter_filterMap, List.map_filterMap]
  congr 1
  funext setting
  unfold Setting.textOf?
  cases setting.value? with
  | none => rfl
  | some value =>
      by_cases isOption : value.1 = option
      · simp only [isOption, Option.bind_some, if_true, Option.filter,
          decide_true, Option.map_some]
      · simp only [isOption, Option.bind_some, if_false, Option.filter,
          decide_false, Bool.false_eq_true, Option.map_none]

@[simp]
theorem has_ofSettings_iff :
    (ofSettings settings).has raised = true ↔ .flag raised ∈ settings := by
  unfold has ofSettings
  rw [List.contains_iff_mem, List.mem_filterMap]
  simp only [Setting.flag?_eq_some_iff, exists_eq_right]

/-- No value is found where none is set. -/
theorem value?_ofSettings_eq_none_iff :
    (ofSettings settings).value? option = none ↔
      ∀ text, .value option text ∉ settings := by
  unfold value?
  rw [allValues_ofSettings, List.head?_eq_none_iff,
    List.eq_nil_iff_forall_not_mem]
  simp only [mem_textsOf_iff]

/-! ## Settings that are added in turn -/

theorem ofSettings_concat_value :
    ofSettings (settings ++ [.value option text]) =
      { ofSettings settings with
        values := (ofSettings settings).values ++ [(option, text)] } := by
  simp [ofSettings, Setting.value?, Setting.flag?]

theorem ofSettings_concat_flag :
    ofSettings (settings ++ [.flag raised]) =
      { ofSettings settings with
        flags := (ofSettings settings).flags ++ [raised] } := by
  simp [ofSettings, Setting.value?, Setting.flag?]

theorem givenOnce_concat_value_iff :
    GivenOnce (settings ++ [.value option text]) ↔
      GivenOnce settings ∧
        (!option.repeats && ((ofSettings settings).value? option).isSome) =
          false := by
  rw [givenOnce_concat_iff]
  cases repeats : option.repeats with
  | true => simp [Setting.single?, repeats]
  | false =>
      simp only [Setting.single?, repeats, Bool.false_eq_true, if_false,
        Option.some.injEq, forall_eq', mem_single?_valued_iff repeats,
        Bool.not_false, Bool.true_and, Option.isSome_eq_false_iff,
        Option.isNone_iff_eq_none, value?_ofSettings_eq_none_iff, not_exists]

theorem givenOnce_concat_flag_iff :
    GivenOnce (settings ++ [.flag raised]) ↔
      GivenOnce settings ∧ (ofSettings settings).has raised = false := by
  rw [givenOnce_concat_iff, ← Bool.not_eq_true, has_ofSettings_iff,
    ← mem_single?_flag_iff]
  simp only [Setting.single?, Option.some.injEq, forall_eq']

/-- A value is added if it passes its check and its option is not given
again. -/
theorem addValue_ofSettings_eq_ok_iff (areOnce : GivenOnce settings) :
    (ofSettings settings).addValue option text = .ok after ↔
      (Setting.value option text).IsAdmissible ∧
        GivenOnce (settings ++ [.value option text]) ∧
        after = ofSettings (settings ++ [.value option text]) := by
  rw [givenOnce_concat_value_iff, ofSettings_concat_value]
  unfold addValue
  split
  · rename_i isAgain
    simp only [isAgain, Bool.true_eq_false, and_false, false_and, reduceCtorEq]
  · rename_i isNew
    rw [Bool.not_eq_true] at isNew
    cases misuse : option.misuse? text with
    | some cause =>
        simp only [Setting.IsAdmissible, misuse, reduceCtorEq, false_and]
    | none =>
        simp only [Setting.IsAdmissible, misuse, isNew, areOnce, and_self,
          true_and, Except.ok.injEq, eq_comm]

/-- A flag that asks for no text is raised unless it is raised already. -/
theorem raiseFlag_eq_of_isAdmissible
    (isAdmissible : (Setting.flag raised).IsAdmissible) :
    given.raiseFlag level raised = given.settle >>= fun settled =>
      if settled.has raised then .error (.misuse .argumentConflict)
      else .ok { settled with flags := settled.flags ++ [raised] } := by
  obtain ⟨notHelp, notVersion⟩ := isAdmissible
  cases raised with
  | dryRun => rfl
  | verbose => rfl
  | help => exact absurd rfl notHelp
  | version => exact absurd rfl notVersion

theorem isAdmissible_of_raiseFlag
    (isRaised : given.raiseFlag level raised = .ok after) :
    (Setting.flag raised).IsAdmissible := by
  unfold raiseFlag at isRaised
  obtain ⟨settled, -, isRaised⟩ := bind_eq_ok_iff.mp isRaised
  cases raised with
  | dryRun => exact ⟨nofun, nofun⟩
  | verbose => exact ⟨nofun, nofun⟩
  | help => cases isRaised
  | version => cases isRaised

theorem raiseFlag_ofSettings_eq_ok_iff (areOnce : GivenOnce settings) :
    (ofSettings settings).raiseFlag level raised = .ok after ↔
      (Setting.flag raised).IsAdmissible ∧
        GivenOnce (settings ++ [.flag raised]) ∧
        after = ofSettings (settings ++ [.flag raised]) := by
  rw [givenOnce_concat_flag_iff, ofSettings_concat_flag]
  constructor
  · intro isRaised
    have isAdmissible := isAdmissible_of_raiseFlag isRaised
    rw [raiseFlag_eq_of_isAdmissible isAdmissible] at isRaised
    obtain ⟨settled, isSettled, isRaised⟩ := bind_eq_ok_iff.mp isRaised
    cases isSettled
    split at isRaised
    · cases isRaised
    · rename_i isNew
      cases isRaised
      exact ⟨isAdmissible, ⟨areOnce, Bool.not_eq_true _ ▸ isNew⟩, rfl⟩
  · rintro ⟨isAdmissible, ⟨-, isNew⟩, rfl⟩
    rw [raiseFlag_eq_of_isAdmissible isAdmissible]
    refine bind_eq_ok_iff.mpr ⟨ofSettings settings, rfl, ?_⟩
    rw [isNew]
    rfl

theorem add_ofSettings_eq_ok_iff (areOnce : GivenOnce settings) :
    (ofSettings settings).add level setting = .ok after ↔
      setting.IsAdmissible ∧ GivenOnce (settings ++ [setting]) ∧
        after = ofSettings (settings ++ [setting]) := by
  cases setting with
  | value option text => exact addValue_ofSettings_eq_ok_iff areOnce
  | flag raised => exact raiseFlag_ofSettings_eq_ok_iff areOnce

theorem addAll_cons :
    given.addAll level (setting :: settings) =
      given.add level setting >>= fun held => held.addAll level settings :=
  rfl

theorem addAll_append :
    given.addAll level (settings ++ others) =
      given.addAll level settings >>= fun held => held.addAll level others :=
  List.foldlM_append

theorem addAll_concat :
    given.addAll level (settings ++ [setting]) =
      given.addAll level settings >>= fun held => held.add level setting := by
  rw [addAll_append]
  congr 1
  funext held
  exact bind_pure _

/-- Settings are added in turn if each passes its check and none is given
again that may not be; then they are what is given. -/
theorem addAll_eq_ok_iff :
    ({ } : Given).addAll level settings = .ok after ↔
      (∀ setting ∈ settings, setting.IsAdmissible) ∧ GivenOnce settings ∧
        after = ofSettings settings := by
  induction settings using List.reverseRecOn generalizing after with
  | nil =>
      have isEmpty : ({ } : Given).addAll level [] = .ok (ofSettings []) := rfl
      rw [isEmpty, Except.ok.injEq, eq_comm (a := ofSettings [])]
      exact ⟨fun isAfter => ⟨nofun, List.nodup_nil, isAfter⟩,
        fun ⟨_, _, isAfter⟩ => isAfter⟩
  | append_singleton settings setting inductionHypothesis =>
      rw [addAll_concat, bind_eq_ok_iff, List.forall_mem_append,
        List.forall_mem_singleton]
      constructor
      · rintro ⟨held, isHeld, isAdded⟩
        obtain ⟨areAdmissible, areOnce, rfl⟩ := inductionHypothesis.mp isHeld
        obtain ⟨isAdmissible, isOnce, isAfter⟩ :=
          (add_ofSettings_eq_ok_iff areOnce).mp isAdded
        exact ⟨⟨areAdmissible, isAdmissible⟩, isOnce, isAfter⟩
      · rintro ⟨⟨areAdmissible, isAdmissible⟩, isOnce, isAfter⟩
        have areOnce := (givenOnce_concat_iff.mp isOnce).1
        exact ⟨ofSettings settings,
          inductionHypothesis.mpr ⟨areAdmissible, areOnce, rfl⟩,
          (add_ofSettings_eq_ok_iff areOnce).mpr
            ⟨isAdmissible, isOnce, isAfter⟩⟩

end Given

end Provision.CommandLine
