import Mathlib.Data.List.Forall2
import Provision.Program

/-!
Contract: secrets do not flow into what a dry run shows.

Two configurations may differ in the secrets that their commands refer to and
in the headers of a server.  Whoever sees a dry run cannot tell them apart: the
attribute with the secret is shown by its name only, and nothing else depends
on it.

Owns:
- sets of attributes that look the same, and the steps that keep them so;
- resources, commands and configurations that are equal except for secrets;
- the law of dry runs of such configurations.

Does not own: runs that work on a server or a document.
-/

namespace Provision

/-! ## Attributes that look the same -/

/-- The same names in order, with the same values except under the names of
secret attributes. -/
def ValueSet.LooksLike (values other : ValueSet) : Prop :=
  List.Forall₂ (fun member otherMember =>
    member.1 = otherMember.1 ∧
      (member.1 ∉ Command.secretAttributes → member.2 = otherMember.2))
    values other

namespace ValueSet.LooksLike

variable {values other : ValueSet}

theorem refl (values : ValueSet) : values.LooksLike values := by
  induction values with
  | nil => exact .nil
  | cons member rest inductionHypothesis =>
      exact .cons ⟨rfl, fun _ => rfl⟩ inductionHypothesis

/-- What is put under one name may differ only if the name is secret. -/
theorem put (alike : values.LooksLike other) {name : String}
    {value otherValue : Value}
    (same : name ∉ Command.secretAttributes → value = otherValue) :
    (values.set name value).LooksLike (other.set name otherValue) := by
  induction alike with
  | nil => exact .cons ⟨rfl, same⟩ .nil
  | @cons member otherMember rest others first restAlike
      inductionHypothesis =>
      by_cases isHere : member.1 = name
      · have isThere : otherMember.1 = name := first.1 ▸ isHere
        simp only [ValueSet.set, Members.put, if_pos isHere, if_pos isThere]
        exact .cons ⟨rfl, same⟩ restAlike
      · have notThere : otherMember.1 ≠ name := first.1 ▸ isHere
        simp only [ValueSet.set, Members.put, if_neg isHere, if_neg notThere]
        exact .cons first inductionHypothesis

theorem set (alike : values.LooksLike other) (name : String) (value : Value) :
    (values.set name value).LooksLike (other.set name value) :=
  alike.put fun _ => rfl

theorem setScalar (alike : values.LooksLike other) (name : String)
    (value : Option Scalar) :
    (values.setScalar name value).LooksLike (other.setScalar name value) := by
  unfold ValueSet.setScalar
  split
  · split
    · exact alike
    · exact alike.set name _
  · exact alike

theorem setList (alike : values.LooksLike other) (name : String)
    (items : List Value) :
    (values.setList name items).LooksLike (other.setList name items) := by
  unfold ValueSet.setList
  split
  · exact alike
  · exact alike.set name _

theorem setNested (alike : values.LooksLike other) (name : String)
    (nested : Option ValueSet) :
    (values.setNested name nested).LooksLike (other.setNested name nested) := by
  unfold ValueSet.setNested
  split
  · split
    · exact alike
    · exact alike.set name _
  · exact alike

theorem identity (alike : values.LooksLike other)
    (identity : Option AuthenticationIdentity) :
    (identity.elim values (·.addTo values)).LooksLike
      (identity.elim other (·.addTo other)) := by
  cases identity with
  | none => exact alike
  | some identity => cases identity <;> exact alike.set _ _

theorem mechanismPolicy (alike : values.LooksLike other)
    (policy : Option MechanismPolicy) :
    (policy.elim values (·.addTo values)).LooksLike
      (policy.elim other (·.addTo other)) := by
  cases policy with
  | none => exact alike
  | some policy =>
      cases policy with
      | allowAll => exact alike.set _ _
      | allowSasl mechanisms => exact alike.setList _ _

/-- Attributes that look the same are described in the same words. -/
theorem describe_eq (alike : values.LooksLike other) :
    values.map Command.describeAttribute =
      other.map Command.describeAttribute := by
  induction alike with
  | nil => rfl
  | @cons member otherMember rest others first restAlike
      inductionHypothesis =>
      have sameFirst : Command.describeAttribute member =
          Command.describeAttribute otherMember := by
        unfold Command.describeAttribute
        rw [← first.1]
        by_cases isSecret : member.1 ∈ Command.secretAttributes
        · rw [if_pos (List.contains_iff_mem.mpr isSecret),
            if_pos (List.contains_iff_mem.mpr isSecret)]
        · rw [first.2 isSecret]
      rw [List.map_cons, List.map_cons, sameFirst, inductionHypothesis]

end ValueSet.LooksLike

/-! ## Resources with another secret -/

open ValueSet in
theorem AuthenticationConfiguration.looksLike_values
    (configuration : AuthenticationConfiguration)
    (reference : CredentialReference) :
    configuration.values.LooksLike
      { configuration with credentialReference := reference }.values := by
  unfold values
  dsimp only
  -- From the last attribute to the first, which is the secret one.
  apply LooksLike.setNested
  apply LooksLike.setList
  apply LooksLike.setScalar
  apply LooksLike.setScalar
  apply LooksLike.mechanismPolicy
  apply LooksLike.identity
  iterate 6 apply LooksLike.setScalar
  apply (LooksLike.refl empty).put
  intro notSecret
  exact absurd (by decide) notSecret

open ValueSet in
theorem CredentialStore.looksLike_values (store : CredentialStore)
    (reference : CredentialReference) :
    store.values.LooksLike
      { store with credentialReference := reference }.values := by
  unfold values
  iterate 7 apply LooksLike.setScalar
  apply ((LooksLike.refl empty).set "uri" (.text store.uri)).put
  intro notSecret
  exact absurd (by decide) notSecret

/-- The resource with another reference to a secret, where it has one. -/
def Resource.withCredential (reference : CredentialReference) :
    Resource → Resource
  | .authenticationConfiguration resource =>
      .authenticationConfiguration
        { resource with credentialReference := reference }
  | .credentialStore resource =>
      .credentialStore { resource with credentialReference := reference }
  | resource => resource

/-- The attributes of a resource look the same with another secret. -/
theorem Resource.looksLike_values (resource : Resource)
    (reference : CredentialReference) :
    resource.values.LooksLike (resource.withCredential reference).values := by
  cases resource with
  | authenticationConfiguration resource =>
      exact resource.looksLike_values reference
  | credentialStore resource => exact resource.looksLike_values reference
  | _ => exact .refl _

/-! ## Configurations with other secrets -/

/-- The commands of a resource with two references to a secret. -/
def Command.EqualButSecret (command other : Command) : Prop :=
  ∃ (resource : Resource) (reference : CredentialReference),
    resource.command = command ∧
      (resource.withCredential reference).command = other

namespace Command.EqualButSecret

variable {command other : Command}

/-- A resource with a secret has no offline form, and the other ones have no
secret. -/
theorem offline_eq (same : command.EqualButSecret other) :
    command.offline = other.offline := by
  obtain ⟨resource, reference, rfl, rfl⟩ := same
  cases resource <;> rfl

theorem kind_eq (same : command.EqualButSecret other) :
    command.kind = other.kind := by
  obtain ⟨resource, reference, rfl, rfl⟩ := same
  cases resource <;> rfl

theorem address_eq (same : command.EqualButSecret other) :
    command.address = other.address := by
  obtain ⟨resource, reference, rfl, rfl⟩ := same
  cases resource <;> rfl

theorem replaceExisting_eq (same : command.EqualButSecret other) :
    command.replaceExisting = other.replaceExisting := by
  obtain ⟨resource, reference, rfl, rfl⟩ := same
  cases resource <;> rfl

theorem describe_eq (same : command.EqualButSecret other) :
    command.values.map describeAttribute =
      other.values.map describeAttribute := by
  obtain ⟨resource, reference, rfl, rfl⟩ := same
  exact (resource.looksLike_values reference).describe_eq

theorem description_eq (same : command.EqualButSecret other) :
    command.description = other.description := by
  rw [description, description, same.kind_eq, same.address_eq,
    same.replaceExisting_eq, same.describe_eq]

theorem transform_eq (same : command.EqualButSecret other) :
    command.transform = other.transform := by
  rw [transform, transform, same.offline_eq, same.kind_eq, same.address_eq]

end Command.EqualButSecret

/-- The same server with other headers, or the same document. -/
inductive Target.EqualButHeaders : Target → Target → Prop where
  | live (url : Endpoint.Url) (headers otherHeaders : Endpoint.Headers) :
      EqualButHeaders (.live url headers) (.live url otherHeaders)
  | offline (document : String) :
      EqualButHeaders (.offline document) (.offline document)

/-- The same configuration except for the secrets that commands refer to and
for the headers of a server, of which a bearer token is one. -/
structure Configuration.EqualButSecrets
    (configuration other : Configuration) : Prop where
  target : configuration.target.EqualButHeaders other.target
  reload : configuration.reload = other.reload
  batch : List.Forall₂ Command.EqualButSecret configuration.batch other.batch
  query : configuration.query = other.query
  dryRun : configuration.dryRun = other.dryRun
  verbose : configuration.verbose = other.verbose

namespace Target.EqualButHeaders

variable {target other : Target}

theorem shown_eq (same : target.EqualButHeaders other) :
    target.shown = other.shown := by
  cases same <;> rfl

theorem isOffline_eq (same : target.EqualButHeaders other) :
    target.isOffline = other.isOffline := by
  cases same <;> rfl

end Target.EqualButHeaders

namespace Batch

variable {batch other : Batch}

/-- What is the same for commands that differ in a secret is the same all
along two batches of them. -/
theorem map_eq_of_equalButSecret {β : Type} {view : Command → β}
    (same : List.Forall₂ Command.EqualButSecret batch other)
    (view_eq : ∀ {command otherCommand : Command},
      command.EqualButSecret otherCommand →
        view command = view otherCommand) :
    batch.map view = other.map view := by
  induction same with
  | nil => rfl
  | cons first _ inductionHypothesis =>
      rw [List.map_cons, List.map_cons, view_eq first, inductionHypothesis]

/-- As many transforms are found, or the look-up fails at the same command. -/
theorem transformsFrom_cases
    (same : List.Forall₂ Command.EqualButSecret batch other) (index : Nat) :
    (∃ error, transformsFrom index batch = .error error ∧
        transformsFrom index other = .error error) ∨
      ∃ resolved others, transformsFrom index batch = .ok resolved ∧
        transformsFrom index other = .ok others ∧
        resolved.length = others.length := by
  induction same generalizing index with
  | nil => exact Or.inr ⟨[], [], rfl, rfl, rfl⟩
  | @cons command otherCommand rest others first _ inductionHypothesis =>
      simp only [transformsFrom, first.transform_eq, first.kind_eq]
      cases otherCommand.transform with
      | error cause => exact Or.inl ⟨_, rfl, rfl⟩
      | ok transform =>
          rcases inductionHypothesis (index + 1) with
            ⟨error, found, alsoFound⟩ |
            ⟨resolved, otherResolved, found, alsoFound, sameLength⟩
          · rw [found, alsoFound]
            exact Or.inl ⟨error, rfl, rfl⟩
          · rw [found, alsoFound]
            refine Or.inr ⟨_, _, rfl, rfl, ?_⟩
            rw [List.length_cons, List.length_cons, sameLength]

end Batch

namespace Configuration

variable {configuration other : Configuration}

theorem shown_eq (same : configuration.EqualButSecrets other) :
    configuration.shown = other.shown := by
  unfold shown
  rw [same.target.shown_eq, same.batch.length_eq, same.reload, same.dryRun]

theorem rehearse_eq (same : configuration.EqualButSecrets other) :
    configuration.rehearse = other.rehearse := by
  have sameEvents : configuration.batch.map Command.rehearsed =
      other.batch.map Command.rehearsed := by
    apply Batch.map_eq_of_equalButSecret same.batch
    intro command otherCommand sameCommand
    rw [Command.rehearsed, Command.rehearsed, sameCommand.description_eq]
  unfold rehearse Batch.transforms
  rw [same.target.isOffline_eq, sameEvents]
  rcases Batch.transformsFrom_cases same.batch 0 with
    ⟨error, found, alsoFound⟩ |
    ⟨resolved, others, found, alsoFound, sameLength⟩
  · rw [found, alsoFound]
  · simp only [found, alsoFound, sameLength]

/-- **Secrets do not flow into a dry run.**  Two configurations with dry runs
that are equal except for the secrets that their commands refer to and for the
headers of a server are shown in the same line; their commands are described
in the same words; and whatever the servers and the files are, their runs
report the same events with the same result and end the program in the same
way. -/
theorem dryRun_hides_secrets (configuration other : Configuration)
    (isDryRun : configuration.dryRun = true)
    (same : configuration.EqualButSecrets other)
    (transport otherTransport : Transport) (files : FileSystem) :
    let ran := configuration.execute transport files
    let otherRan := other.execute otherTransport files
    configuration.shown = other.shown ∧
      configuration.batch.map Command.description =
        other.batch.map Command.description ∧
      ran = otherRan ∧
      Program.finished configuration ran.1 =
        Program.finished other otherRan.1 := by
  have otherIsDryRun : other.dryRun = true := same.dryRun ▸ isDryRun
  have sameShown := shown_eq same
  have sameRun : configuration.execute transport files =
      other.execute otherTransport files := by
    rw [execute, execute, if_pos isDryRun, if_pos otherIsDryRun,
      rehearse_eq same]
  refine ⟨sameShown, Batch.map_eq_of_equalButSecret same.batch
    (·.description_eq), sameRun, ?_⟩
  rw [sameRun]
  unfold Program.finished Program.events reported
  rw [sameShown, same.verbose]

/-- A credential store that is opened with a secret. -/
def guardedStore (reference : CredentialReference) : Resource :=
  .credentialStore
    { name := ⟨"vault", by decide⟩
      uri := "cr-store://vault"
      credentialReference := reference
      create := some true
      replaceExisting := false }

/-- A dry run against a server, with a secret for a store and one for the
server. -/
def guarded (reference : CredentialReference) (token : String) :
    Configuration where
  target := .live
    { scheme := .https
      user := ⟨"", ""⟩
      host := .name "localhost"
      port := some 9993
      path := ["management"]
      query := none
      fragment := none }
    [(.authorization, ⟨"Bearer " ++ token⟩)]
  reload := { }
  batch := [(guardedStore reference).command]
  query := none
  dryRun := true
  verbose := true

theorem equalButSecrets_guarded (reference other : CredentialReference)
    (token otherToken : String) :
    (guarded reference token).EqualButSecrets (guarded other otherToken) where
  target := .live _ _ _
  reload := rfl
  batch := .cons ⟨guardedStore reference, other, rfl, rfl⟩ .nil
  query := rfl
  dryRun := rfl
  verbose := rfl

theorem dryRun_hides_secrets_sample :
    let configuration := guarded (.clearText "open sesame") "first"
    let other := guarded (.store "" "key" none) "second"
    let ran := configuration.execute (fun _ => .error .timeout)
      FileSystem.fresh
    let otherRan := other.execute (fun _ => .error (.connection "refused"))
      FileSystem.fresh
    configuration.dryRun = true ∧ configuration.EqualButSecrets other ∧
      configuration.shown = other.shown ∧
      configuration.batch.map Command.description =
        other.batch.map Command.description ∧
      ran = otherRan ∧
      Program.finished configuration ran.1 =
        Program.finished other otherRan.1 := by
  have same := equalButSecrets_guarded (.clearText "open sesame")
    (.store "" "key" none) "first" "second"
  exact ⟨rfl, same, dryRun_hides_secrets _ _ rfl same _ _ _⟩

end Configuration

end Provision
