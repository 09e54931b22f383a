import Provision.Proofs.CommandLine.Levels

/-!
Contract: a command line with a subcommand, as settings on both sides of it.

Owns:
- layouts, each of which is the words of a command line;
- what a layout is read as, and that every command line with a subcommand has
  a layout.

Does not own: how two layouts of the same settings compare.
-/

namespace Provision.CommandLine

/-- A command line with a subcommand, by what stands on both sides of it.  A
separator may end it. -/
structure Layout where
  subcommand : Subcommand
  front : Spelling .top
  back : Spelling (.behind subcommand)
  isSeparated : Bool := false

namespace Layout

/-- What ends the words behind the subcommand. -/
def ending (layout : Layout) : List String :=
  if layout.isSeparated then ["--"] else []

def words (layout : Layout) : List String :=
  layout.front.words ++
    layout.subcommand.text :: (layout.back.words ++ layout.ending)

/-- What is set on both sides. -/
def settings (layout : Layout) : List Setting :=
  layout.front.settings ++ layout.back.settings

/-- The headers behind the subcommand, or else the ones in front of it. -/
def headers (layout : Layout) : List String :=
  let behind := textsOf .header layout.back.settings
  if behind.isEmpty then textsOf .header layout.front.settings else behind

end Layout

variable {layout : Layout} {line : CommandLine} {given : Given}
  {text : String} {words : List String} {subcommand : Subcommand}
  {next : Option (Next × List String)}

/-! ## How a command line is read -/

/-- What a command line is read as: what is given without a subcommand, or on
both sides of one. -/
inductive ReadAs (words : List String) (line : CommandLine) : Prop where
  | alone (before : Given)
      (settles : Settles .top { } words none before)
      (isLine : line = ofGiven none before { })
  | asked (subcommand : Subcommand) (rest : List String)
      (before behind : Given) (next : Option (Next × List String))
      (action : Action)
      (settles : Settles .top { } words
        (some (.subcommand subcommand, rest)) before)
      (settlesBehind : Settles (.behind subcommand) { } rest next behind)
      (isAction : actionOf behind subcommand = .ok action)
      (isLine : line = ofGiven (some action) before behind)

theorem read_eq_ok_iff : read words = .ok line ↔ ReadAs words line := by
  unfold read
  rw [bind_eq_ok_iff]
  constructor
  · rintro ⟨⟨held, _ | ⟨⟨subcommand⟩ | _, rest⟩⟩, isRead, isLine⟩
    · obtain ⟨before, isSettled, isLine⟩ := bind_eq_ok_iff.mp isLine
      cases isLine
      exact .alone before ⟨held, isRead, isSettled⟩ rfl
    · obtain ⟨⟨heldBehind, next⟩, isReadBehind, isLine⟩ :=
        bind_eq_ok_iff.mp isLine
      obtain ⟨behind, isSettledBehind, isLine⟩ := bind_eq_ok_iff.mp isLine
      obtain ⟨action, isAction, isLine⟩ := bind_eq_ok_iff.mp isLine
      obtain ⟨before, isSettled, isLine⟩ := bind_eq_ok_iff.mp isLine
      cases isLine
      exact .asked subcommand rest before behind next action
        ⟨held, isRead, isSettled⟩ ⟨heldBehind, isReadBehind, isSettledBehind⟩
        isAction rfl
    · cases isLine
  · rintro (⟨before, ⟨held, isRead, isSettled⟩, rfl⟩ |
      ⟨subcommand, rest, before, behind, next, action,
        ⟨held, isRead, isSettled⟩, ⟨heldBehind, isReadBehind, isSettledBehind⟩,
        isAction, rfl⟩)
    · refine ⟨(held, none), isRead, ?_⟩
      exact bind_eq_ok_iff.mpr ⟨before, isSettled, rfl⟩
    · refine ⟨(held, some (.subcommand subcommand, rest)), isRead, ?_⟩
      refine bind_eq_ok_iff.mpr ⟨(heldBehind, next), isReadBehind, ?_⟩
      refine bind_eq_ok_iff.mpr ⟨behind, isSettledBehind, ?_⟩
      refine bind_eq_ok_iff.mpr ⟨action, isAction, ?_⟩
      exact bind_eq_ok_iff.mpr ⟨before, isSettled, rfl⟩

/-! ## How a layout is read -/

namespace Layout

theorem ending_ends :
    LevelEnd (.behind layout.subcommand) layout.ending none := by
  unfold ending
  split
  · exact .separator
  · exact .words

theorem front_ends :
    LevelEnd .top (layout.subcommand.text :: (layout.back.words ++ layout.ending))
      (some (.subcommand layout.subcommand, layout.back.words ++ layout.ending)) :=
  .next rfl (Next.ofText?_eq_some_iff.mpr rfl)

theorem settles_words_iff :
    Settles .top { } layout.words next given ↔
      next = some (.subcommand layout.subcommand,
          layout.back.words ++ layout.ending) ∧
        (∀ setting ∈ layout.front.settings, setting.IsAdmissible) ∧
        GivenOnce layout.front.settings ∧ given = .ofSettings layout.front.settings :=
  settles_append_iff layout.front.spells front_ends

theorem settles_back_iff :
    Settles (.behind layout.subcommand) { } (layout.back.words ++ layout.ending)
        next given ↔
      next = none ∧ (∀ setting ∈ layout.back.settings, setting.IsAdmissible) ∧
        GivenOnce layout.back.settings ∧ given = .ofSettings layout.back.settings :=
  settles_append_iff layout.back.spells ending_ends

/-- A layout is read as what it sets, if that passes its checks and each side
gives once what may be given once. -/
theorem read_words_eq_ok_iff :
    read layout.words = .ok line ↔
      (∀ setting ∈ layout.settings, setting.IsAdmissible) ∧
        GivenOnce layout.front.settings ∧ GivenOnce layout.back.settings ∧
        ∃ action,
          actionOf (.ofSettings layout.back.settings) layout.subcommand =
            .ok action ∧
          line = ofGiven (some action) (.ofSettings layout.front.settings)
            (.ofSettings layout.back.settings) := by
  rw [read_eq_ok_iff, settings, List.forall_mem_append]
  constructor
  · rintro (⟨before, settles, -⟩ |
      ⟨subcommand, rest, before, behind, next, action, settles, settlesBehind,
        isAction, isLine⟩)
    · cases (settles_words_iff.mp settles).1
    · obtain ⟨isNext, areAdmissible, areOnce, rfl⟩ :=
        settles_words_iff.mp settles
      cases isNext
      obtain ⟨-, areAdmissibleBehind, areOnceBehind, rfl⟩ :=
        settles_back_iff.mp settlesBehind
      exact ⟨⟨areAdmissible, areAdmissibleBehind⟩, areOnce, areOnceBehind,
        action, isAction, isLine⟩
  · rintro ⟨⟨areAdmissible, areAdmissibleBehind⟩, areOnce, areOnceBehind,
      action, isAction, isLine⟩
    exact .asked _ _ _ _ _ action
      (settles_words_iff.mpr ⟨rfl, areAdmissible, areOnce, rfl⟩)
      (settles_back_iff.mpr ⟨rfl, areAdmissibleBehind, areOnceBehind, rfl⟩)
      isAction isLine

end Layout

/-- Every command line with a subcommand has a layout. -/
theorem exists_layout
    (isAccepted : read words = .ok line)
    (isAsked : line.action.isSome) :
    ∃ layout : Layout, layout.words = words := by
  cases read_eq_ok_iff.mp isAccepted with
  | alone before settles isLine =>
      rw [isLine] at isAsked
      cases isAsked
  | asked subcommand rest before behind next action settles settlesBehind
      isAction isLine =>
      obtain ⟨front, tail, settings, rfl, ends, areSpelled⟩ :=
        exists_settingsFrom_of_settles settles
      obtain ⟨back, tailBehind, settingsBehind, rfl, endsBehind,
        areSpelledBehind⟩ := exists_settingsFrom_of_settles settlesBehind
      cases ends with
      | next isTop isNext =>
          rw [Next.ofText?_eq_some_iff.mp isNext]
          let front : Spelling .top := ⟨front, settings, areSpelled⟩
          let back : Spelling (.behind subcommand) :=
            ⟨back, settingsBehind, areSpelledBehind⟩
          cases endsBehind with
          | words => exact ⟨{ subcommand, front, back }, rfl⟩
          | separator =>
              exact ⟨{ subcommand, front, back, isSeparated := true }, rfl⟩
          | next isTop isNext => cases isTop

end Provision.CommandLine
