import Provision.Proofs.CommandLine.Layout
import Provision.Proofs.CommandLine.LevelOptions

/-!
Contract: the side of the subcommand on which an option stands.

A command line that gives every option once is read as all of its settings
together, whichever side each stands on.  Only the headers are an exception:
those behind the subcommand count, and the ones in front of it only where there
are none behind it.

Owns:
- what settings come to that are given once, in any order;
- command lines of the same settings, on other sides of the subcommand;
- the headers of a command line that has some on both sides.

Does not own: how a command line is read.
-/

namespace Provision.CommandLine

variable {option : ValueOption} {raised : Flag} {text : String}
  {settings others : List Setting} {layout moved : Layout}
  {line : CommandLine} {subcommand : Subcommand} {action : Action}

/-! ## Settings that are given once -/

theorem GivenOnce.perm (areOnce : GivenOnce settings)
    (isPerm : others.Perm settings) : GivenOnce others :=
  (isPerm.filterMap _).nodup_iff.mpr areOnce

theorem GivenOnce.of_append (areOnce : GivenOnce (settings ++ others)) :
    GivenOnce settings ∧ GivenOnce others := by
  unfold GivenOnce at areOnce
  rw [List.filterMap_append] at areOnce
  exact ⟨areOnce.of_append_left, areOnce.of_append_right⟩

theorem GivenOnce.value?_eq_some_iff (areOnce : GivenOnce settings)
    (isSingle : option.repeats = false) :
    (Given.ofSettings settings).value? option = some text ↔
      .value option text ∈ settings := by
  have isMember {found : String}
      (isFound : (Given.ofSettings settings).value? option = some found) :
      .value option found ∈ settings := by
    unfold Given.value? at isFound
    rw [Given.allValues_ofSettings] at isFound
    exact mem_textsOf_iff.mp (List.mem_of_head? isFound)
  refine ⟨isMember, fun isSet => ?_⟩
  cases isFound : (Given.ofSettings settings).value? option with
  | none => exact absurd isSet (Given.value?_ofSettings_eq_none_iff.mp isFound _)
  | some found =>
      have isOne := eq_of_nodup_filterMap areOnce (isMember isFound) isSet
        ((Setting.single?_eq_valued_iff isSingle).mpr ⟨found, rfl⟩)
        ((Setting.single?_eq_valued_iff isSingle).mpr ⟨text, rfl⟩)
      cases isOne
      rfl

/-- Settings that are given once come to the same in every order. -/
theorem GivenOnce.value?_eq_of_perm (areOnce : GivenOnce settings)
    (isPerm : others.Perm settings) (isSingle : option.repeats = false) :
    (Given.ofSettings others).value? option =
      (Given.ofSettings settings).value? option := by
  refine Option.ext fun text => ?_
  rw [areOnce.value?_eq_some_iff isSingle,
    (areOnce.perm isPerm).value?_eq_some_iff isSingle, isPerm.mem_iff]

theorem has_eq_of_perm (isPerm : others.Perm settings) :
    (Given.ofSettings others).has raised =
      (Given.ofSettings settings).has raised := by
  rw [Bool.eq_iff_iff, Given.has_ofSettings_iff, Given.has_ofSettings_iff,
    isPerm.mem_iff]

theorem value?_append :
    (Given.ofSettings (settings ++ others)).value? option =
      ((Given.ofSettings settings).value? option).or
        ((Given.ofSettings others).value? option) := by
  unfold Given.value?
  rw [Given.allValues_ofSettings, Given.allValues_ofSettings,
    Given.allValues_ofSettings, textsOf_append, List.head?_append]

theorem has_append :
    (Given.ofSettings (settings ++ others)).has raised =
      ((Given.ofSettings settings).has raised ||
        (Given.ofSettings others).has raised) := by
  rw [Bool.eq_iff_iff, Bool.or_eq_true]
  simp only [Given.has_ofSettings_iff, List.mem_append]

/-! ## Both sides together -/

/-- Requests of the same values and flags differ in their headers only. -/
theorem ofGiven_congr {before behind moved movedBehind : Given}
    (sameValues : ∀ option : ValueOption, option.repeats = false →
      (movedBehind.value? option).or (moved.value? option) =
        (behind.value? option).or (before.value? option))
    (sameFlags : ∀ raised, (moved.has raised || movedBehind.has raised) =
      (before.has raised || behind.has raised))
    (headers : List String) :
    { ofGiven (some action) moved movedBehind with headers } =
      { ofGiven (some action) before behind with headers } := by
  unfold ofGiven
  simp only [sameValues .config rfl, sameValues .url rfl,
    sameValues .document rfl, sameValues .bearer rfl,
    sameValues .reloadTimeout rfl, sameFlags]

theorem actionOf_congr {one other : Given}
    (sameValues : ∀ option : ValueOption, .valued option ∉ Level.top.switches →
      one.value? option = other.value? option) :
    actionOf one subcommand = actionOf other subcommand := by
  cases subcommand with
  | apply => rfl
  | init =>
      unfold actionOf
      rw [sameValues .output (by decide)]
  | query =>
      unfold actionOf
      rw [sameValues .address (by decide), sameValues .attributeName (by decide)]

namespace Layout

/-- What the subcommand alone takes is not given in front of it. -/
theorem value?_settings_of_not_top
    (notTop : .valued option ∉ Level.top.switches) :
    (Given.ofSettings layout.settings).value? option =
      (Given.ofSettings layout.back.settings).value? option := by
  have isNone :
      (Given.ofSettings layout.front.settings).value? option = none := by
    refine Given.value?_ofSettings_eq_none_iff.mpr fun text isMember => ?_
    exact notTop
      (mem_switches_of_settingsFrom layout.front.spells nofun _ isMember)
  rw [settings, value?_append, isNone, Option.none_or]

theorem headers_ofGiven :
    (ofGiven (some action) (.ofSettings layout.front.settings)
      (.ofSettings layout.back.settings)).headers = layout.headers := by
  unfold ofGiven headers
  simp only [Given.allValues_ofSettings]

theorem headers_eq_of_read (isRead : read layout.words = .ok line) :
    line.headers = layout.headers := by
  obtain ⟨-, -, -, action, -, rfl⟩ := read_words_eq_ok_iff.mp isRead
  exact headers_ofGiven

section Moved

variable (areOnce : GivenOnce layout.settings)
  (areMoved : moved.settings.Perm layout.settings)

include areOnce areMoved

theorem value?_eq_of_moved (isSingle : option.repeats = false) :
    ((Given.ofSettings moved.back.settings).value? option).or
        ((Given.ofSettings moved.front.settings).value? option) =
      ((Given.ofSettings layout.back.settings).value? option).or
        ((Given.ofSettings layout.front.settings).value? option) := by
  have areAll (layout : Layout) :
      (layout.back.settings ++ layout.front.settings).Perm layout.settings :=
    List.perm_append_comm
  rw [← value?_append, ← value?_append,
    areOnce.value?_eq_of_perm (areAll layout) isSingle,
    areOnce.value?_eq_of_perm ((areAll moved).trans areMoved) isSingle]

theorem actionOf_eq_of_moved :
    actionOf (.ofSettings moved.back.settings) subcommand =
      actionOf (.ofSettings layout.back.settings) subcommand := by
  refine actionOf_congr fun option notTop => ?_
  have isSingle : option.repeats = false := by
    cases option with
    | header => exact absurd (by decide) notTop
    | _ => rfl
  rw [← value?_settings_of_not_top notTop, ← value?_settings_of_not_top notTop,
    areOnce.value?_eq_of_perm areMoved isSingle]

/-- The same settings on other sides of the subcommand make the same request,
but for the headers. -/
theorem read_moved (sameSubcommand : moved.subcommand = layout.subcommand)
    (isRead : read layout.words = .ok line) :
    read moved.words = .ok { line with headers := moved.headers } := by
  obtain ⟨areAdmissible, -, -, action, isAction, rfl⟩ :=
    read_words_eq_ok_iff.mp isRead
  obtain ⟨onceBefore, onceBehind⟩ := (areOnce.perm areMoved).of_append
  refine read_words_eq_ok_iff.mpr ⟨?_, onceBefore, onceBehind, action, ?_, ?_⟩
  · intro setting isMember
    exact areAdmissible setting (areMoved.mem_iff.mp isMember)
  · rw [actionOf_eq_of_moved areOnce areMoved, sameSubcommand, isAction]
  · have sameFlags (raised : Flag) :
        ((Given.ofSettings moved.front.settings).has raised ||
            (Given.ofSettings moved.back.settings).has raised) =
          ((Given.ofSettings layout.front.settings).has raised ||
            (Given.ofSettings layout.back.settings).has raised) := by
      rw [← has_append, ← has_append]
      exact has_eq_of_perm areMoved
    rw [← ofGiven_congr
      (fun option isSingle => value?_eq_of_moved areOnce areMoved isSingle)
      sameFlags, ← headers_ofGiven]

end Moved

/-- All headers count, in their order, where they stand on one side. -/
theorem headers_eq_textsOf_settings_iff :
    layout.headers = textsOf .header layout.settings ↔
      textsOf .header layout.front.settings = [] ∨
        textsOf .header layout.back.settings = [] := by
  unfold headers settings
  rw [textsOf_append]
  cases textsOf .header layout.back.settings with
  | nil => simp
  | cons header headers => simp

end Layout

/-! ## Every command line with a subcommand -/

/-- Options may stand on either side of a subcommand.  A command line that is
accepted, and gives everything once, stays accepted wherever they stand and
asks for the same.  Only its headers are the ones behind the subcommand if
there are any; so all of them count exactly where one side has none. -/
theorem moved_options_keep_all_but_headers
    {words : List String}
    (isAccepted : read words = .ok line)
    (isAsked : line.action.isSome) :
    (∃ layout : Layout, layout.words = words) ∧
      ∀ layout : Layout, layout.words = words →
        line.headers = layout.headers ∧
        (layout.headers = textsOf .header layout.settings ↔
          textsOf .header layout.front.settings = [] ∨
            textsOf .header layout.back.settings = []) ∧
        (GivenOnce layout.settings → ∀ moved : Layout,
          moved.subcommand = layout.subcommand →
          moved.settings.Perm layout.settings →
            read moved.words = .ok { line with headers := moved.headers }) := by
  refine ⟨exists_layout isAccepted isAsked, ?_⟩
  rintro layout rfl
  refine ⟨Layout.headers_eq_of_read isAccepted,
    Layout.headers_eq_textsOf_settings_iff, ?_⟩
  intro areOnce moved sameSubcommand areMoved
  exact Layout.read_moved areOnce areMoved sameSubcommand isAccepted

/-- A header on each side of the subcommand. -/
def headerOnEachSide : Layout where
  subcommand := .apply
  front := ⟨["--header", "A=1"], [.value .header "A=1"], by decide +kernel⟩
  back := ⟨["--header", "B=2"], [.value .header "B=2"], by decide +kernel⟩

/-- The same headers behind the subcommand. -/
def headersBehind : Layout where
  subcommand := .apply
  front := ⟨[], [], rfl⟩
  back := ⟨["--header", "A=1", "--header", "B=2"],
    [.value .header "A=1", .value .header "B=2"], by decide +kernel⟩

theorem read_headerOnEachSide :
    read headerOnEachSide.words =
      .ok { action := some .apply, headers := ["B=2"] } := by
  refine Layout.read_words_eq_ok_iff.mpr ⟨?_, ?_, ?_, .apply, rfl, ?_⟩ <;>
    decide

theorem moved_options_keep_all_but_headers_sample :
    read ["--header", "A=1", "apply", "--header", "B=2"] =
        .ok { action := some .apply, headers := ["B=2"] } ∧
      read ["apply", "--header", "A=1", "--header", "B=2"] =
        .ok { action := some .apply, headers := ["A=1", "B=2"] } := by
  obtain ⟨-, keeps⟩ :=
    moved_options_keep_all_but_headers read_headerOnEachSide rfl
  obtain ⟨-, -, isKept⟩ := keeps headerOnEachSide rfl
  exact ⟨read_headerOnEachSide,
    isKept (by decide) headersBehind rfl (.refl _)⟩

/-- A header that is moved can change the request although the headers keep
their order, and some headers do not count: neither holds of every command
line. -/
theorem not_every_move_keeps_headers :
    ¬∀ (layout moved : Layout) (line : CommandLine),
      read layout.words = .ok line →
      GivenOnce layout.settings →
      moved.subcommand = layout.subcommand →
      moved.settings.Perm layout.settings →
      textsOf .header moved.settings = textsOf .header layout.settings →
        read moved.words = .ok line ∨
          line.headers = textsOf .header layout.settings := by
  intro keeps
  rcases keeps headerOnEachSide headersBehind _ read_headerOnEachSide
    (by decide) rfl (.refl _) rfl with isRead | areAll
  · have areTwo := Layout.headers_eq_of_read isRead
    revert areTwo
    decide
  · revert areAll
    decide

end Provision.CommandLine
