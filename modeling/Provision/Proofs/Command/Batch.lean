import Provision.Command.Batch
import Provision.Proofs.Document.Insertion

/-!
Contract: the commands of a batch and their offline forms.

Owns:
- the commands that settings of given kinds make;
- the offline forms of a batch, and the first command without one;
- the run of a batch on a document, one transform after the other.

Does not own: what a single command does.
-/

namespace Provision

/-! ## Commands that settings make -/

/-- A resource has the kind of the settings that make it. -/
theorem ResourceDraft.kind_of_build {draft : ResourceDraft}
    {resource : Resource} (built : draft.build = .ok resource) :
    resource.kind = draft.kind := by
  have keepsKind : ∀ {α : Type} (wrap : α → Resource) (kind : ResourceKind),
      (∀ made, (wrap made).kind = kind) → ∀ outcome : Except BuildError α,
      outcome.map wrap = .ok resource → resource.kind = kind := by
    intro α wrap kind sameKind outcome isMade
    cases outcome with
    | error fault => simp [Except.map] at isMade
    | ok made =>
        rw [← Except.ok.inj isMade]
        exact sameKind made
  cases draft <;> exact keepsKind _ _ (fun _ => rfl) _ built

namespace Command

/-- The command is made from settings of one of the kinds. -/
def IsBuiltFrom (kinds : List ResourceKind) (command : Command) : Prop :=
  ∃ draft : ResourceDraft, draft.kind ∈ kinds ∧ draft.command = .ok command

/-- Such a command is that of a resource of one of the kinds. -/
theorem IsBuiltFrom.exists_resource {kinds : List ResourceKind}
    {command : Command} (isBuilt : command.IsBuiltFrom kinds) :
    ∃ resource : Resource, resource.kind ∈ kinds ∧
      resource.command = command := by
  obtain ⟨draft, isKind, made⟩ := isBuilt
  unfold ResourceDraft.command at made
  cases built : draft.build with
  | error fault => simp [built, Except.map] at made
  | ok resource =>
      rw [built] at made
      exact ⟨resource, ResourceDraft.kind_of_build built ▸ isKind,
        Except.ok.inj made⟩

/-- The commands that settings of some kinds make are such commands. -/
theorem isBuiltFrom_of_mem_filterMap {kinds : List ResourceKind}
    {drafts : List ResourceDraft}
    (allOfKind : ∀ draft ∈ drafts, draft.kind ∈ kinds) :
    ∀ command ∈ drafts.filterMap fun draft => draft.command.toOption,
      command.IsBuiltFrom kinds := by
  intro command isMember
  obtain ⟨draft, isDraft, made⟩ := List.mem_filterMap.mp isMember
  refine ⟨draft, allOfKind draft isDraft, ?_⟩
  cases outcome : draft.command with
  | error fault => simp [outcome, Except.toOption] at made
  | ok other =>
      rw [outcome] at made
      exact congrArg Except.ok (Option.some.inj made)

end Command

/-! ## Offline forms -/

namespace Batch

/-- The commands that have an offline form, each with that form. -/
def resolved (batch : Batch) : List (Command × Document.Transform) :=
  batch.filterMap fun command =>
    command.offline.map fun transform => (command, transform)

theorem exists_of_mem_resolved {batch : Batch}
    {item : Command × Document.Transform} (isItem : item ∈ batch.resolved) :
    ∃ command ∈ batch, command.offline = some item.2 := by
  obtain ⟨command, isMember, isResolved⟩ := List.mem_filterMap.mp isItem
  obtain ⟨transform, isOffline, rfl⟩ := Option.map_eq_some_iff.mp isResolved
  exact ⟨command, isMember, isOffline⟩

theorem map_snd_resolved (batch : Batch) :
    batch.resolved.map Prod.snd = batch.filterMap Command.offline := by
  rw [resolved, List.map_filterMap]
  congr 1
  funext command
  cases command.offline <;> rfl

theorem length_resolved {batch : Batch}
    (allOffline : ∀ command ∈ batch, command.offline.isSome) :
    batch.resolved.length = batch.length := by
  induction batch with
  | nil => rfl
  | cons command rest inductionHypothesis =>
      obtain ⟨transform, isOffline⟩ :=
        Option.isSome_iff_exists.mp (allOffline command (by simp))
      have isRest := inductionHypothesis
        fun other isOther => allOffline other (by simp [isOther])
      simpa [resolved, isOffline] using isRest

/-- A batch with a command that has no offline form has a first one. -/
theorem exists_first_liveOnly {batch : Batch}
    (isThere : ∃ command ∈ batch, command.offline = none) :
    ∃ before command rest, batch = before ++ command :: rest ∧
      (∀ earlier ∈ before, earlier.offline.isSome) ∧
      command.offline = none := by
  obtain ⟨command, isMember, isLiveOnly⟩ := isThere
  induction batch with
  | nil => cases isMember
  | cons first others inductionHypothesis =>
      cases isFirst : first.offline with
      | none => exact ⟨[], first, others, rfl, by simp, isFirst⟩
      | some transform =>
          rcases List.mem_cons.mp isMember with rfl | isLater
          · rw [isFirst] at isLiveOnly
            cases isLiveOnly
          · obtain ⟨before, found, rest, rfl, allOffline, isFound⟩ :=
              inductionHypothesis isLater
            refine ⟨first :: before, found, rest, rfl, ?_, isFound⟩
            intro earlier isEarlier
            rcases List.mem_cons.mp isEarlier with rfl | isLater
            · simp [isFirst]
            · exact allOffline earlier isLater

/-- Where every command has an offline form, all of them are found. -/
theorem transformsFrom_of_all {batch : Batch}
    (allOffline : ∀ command ∈ batch, command.offline.isSome) (index : Nat) :
    transformsFrom index batch = .ok batch.resolved := by
  induction batch generalizing index with
  | nil => rfl
  | cons command rest inductionHypothesis =>
      obtain ⟨transform, isOffline⟩ :=
        Option.isSome_iff_exists.mp (allOffline command (by simp))
      have others := inductionHypothesis
        (fun other isOther => allOffline other (by simp [isOther]))
        (index + 1)
      simp [transformsFrom, Command.transform, isOffline, others, Except.map,
        resolved]

/-- The first command without an offline form is the one that is told. -/
theorem transformsFrom_of_first {before rest : Batch} {command : Command}
    (allOffline : ∀ earlier ∈ before, earlier.offline.isSome)
    (isLiveOnly : command.offline = none) (index : Nat) :
    transformsFrom index (before ++ command :: rest) =
      .error ⟨index + before.length, command.kind,
        .unsupported command.kind command.address⟩ := by
  induction before generalizing index with
  | nil => simp [transformsFrom, Command.transform, isLiveOnly]
  | cons first others inductionHypothesis =>
      obtain ⟨transform, isOffline⟩ :=
        Option.isSome_iff_exists.mp (allOffline first (by simp))
      have later := inductionHypothesis
        (fun earlier isEarlier => allOffline earlier (by simp [isEarlier]))
        (index + 1)
      simp [transformsFrom, Command.transform, isOffline, later, Except.map]
      omega

end Batch

end Provision
