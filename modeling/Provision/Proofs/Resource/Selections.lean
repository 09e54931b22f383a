import Provision.Proofs.Entry.Commands
import Provision.Proofs.Resource.Conditions
import Provision.Proofs.Value.Lookups

/-!
Contract: the identity and the mechanism policy of a configuration.

Five settings lead to an identity or to a policy.  A text without characters,
a list without items and a flag that is switched off select nothing.

Owns:
- which identity and which policy settings select;
- the conditions on settings, in the order in which they are looked at;
- the attributes that tell an identity or a policy, and a flag that is
  switched off;
- that a configuration holds and sends the one selection of each sort.

Does not own: the settings that exclude nothing.
-/

namespace Provision

/-- The attribute that an identity stands for. -/
def AuthenticationIdentity.attribute :
    AuthenticationIdentity → String × Value
  | .authenticationName name => ("authentication-name", .text name)
  | .anonymous => ("anonymous", .boolean true)
  | .securityDomain name => ("security-domain", .text name)

/-- The attribute that a policy stands for. -/
def MechanismPolicy.attribute : MechanismPolicy → String × Value
  | .allowAll => ("allow-all-mechanisms", .boolean true)
  | .allowSasl mechanisms =>
      ("allow-sasl-mechanisms", .list (mechanisms.map Value.text))

/-- At most one is selected. -/
def AtMostOne {α : Type} (isSelected : α → Prop) : Prop :=
  ∀ ⦃first second⦄, isSelected first → isSelected second → first = second

/-- Attributes tell what was chosen among options, one of which is a flag.

The attribute of a choice is there where it was chosen, and never two of them
are.  The flag is there as off where it was switched off.  Nothing else stands
under the options. -/
structure ValueSet.Tells {Choice : Type}
    (values : ValueSet)
    (attributeOf : Choice → String × Value)
    (chosen : Option Choice)
    (options : List String)
    (flag : String)
    (state : Option Bool) : Prop where
  sent_iff : ∀ choice, attributeOf choice ∈ values ↔ chosen = some choice
  single : AtMostOne fun choice => attributeOf choice ∈ values
  off_iff : (flag, .boolean false) ∈ values ↔ state = some false
  nothingElse : ∀ name ∈ options, ∀ value, (name, value) ∈ values →
    (∃ choice, attributeOf choice = (name, value)) ∨
      (name, value) = (flag, .boolean false)

/-- What is sent only where it was chosen is sent for one choice. -/
theorem ValueSet.atMostOne_of_sent_iff {Choice : Type} {values : ValueSet}
    {attributeOf : Choice → String × Value} {chosen : Option Choice}
    (sent_iff : ∀ choice, attributeOf choice ∈ values ↔
      chosen = some choice) :
    AtMostOne fun choice => attributeOf choice ∈ values := by
  intro first second isFirst isSecond
  rw [sent_iff] at isFirst isSecond
  exact Option.some.inj (isFirst.symm.trans isSecond)

namespace AuthenticationConfiguration

/-- The options that select an identity. -/
def identityOptions : List String :=
  ["authentication-name", "anonymous", "security-domain"]

/-- The options that select a policy. -/
def policyOptions : List String :=
  ["allow-all-mechanisms", "allow-sasl-mechanisms"]

namespace Draft

/-! ## Selections -/

/-- The settings select an identity. -/
inductive SelectsIdentity (draft : Draft) : AuthenticationIdentity → Prop
  | authenticationName {name : String}
      (isName : draft.authenticationName = some name)
      (isFilled : name ≠ "") :
      SelectsIdentity draft (.authenticationName name)
  | anonymous
      (isOn : draft.anonymous = some true) :
      SelectsIdentity draft .anonymous
  | securityDomain {name : String}
      (isDomain : draft.securityDomain = some name)
      (isFilled : name ≠ "") :
      SelectsIdentity draft (.securityDomain name)

/-- The settings select a policy. -/
inductive SelectsPolicy (draft : Draft) : MechanismPolicy → Prop
  | allowAll
      (isOn : draft.allowAllMechanisms = some true) :
      SelectsPolicy draft .allowAll
  | allowSasl
      (isFilled : draft.allowSaslMechanisms ≠ []) :
      SelectsPolicy draft (.allowSasl draft.allowSaslMechanisms)

/-- The option of a name selects an identity or a policy. -/
def Selects (draft : Draft) (option : String) : Prop :=
  (∃ identity, draft.SelectsIdentity identity ∧
    identity.attribute.1 = option) ∨
  ∃ policy, draft.SelectsPolicy policy ∧ policy.attribute.1 = option

/-- Two options are not both selected. -/
def apart (draft : Draft) (first second : String) : Condition :=
  .apart first (draft.Selects first) second (draft.Selects second)

/-- The conditions on settings, in the order in which they are looked at. -/
def conditions (draft : Draft) : List Condition :=
  [.named .authenticationConfiguration draft.name,
    .given "credential-reference" draft.credentialReference,
    draft.apart "authentication-name" "anonymous",
    draft.apart "authentication-name" "security-domain",
    draft.apart "anonymous" "security-domain",
    draft.apart "allow-all-mechanisms" "allow-sasl-mechanisms"]

section

variable {draft : Draft}

theorem given_eq_some_iff {setting : Option String} {text : String} :
    given setting = some text ↔ setting = some text ∧ text ≠ "" :=
  Value.filter_eq_some_iff

theorem isSome_given_iff {setting : Option String} :
    (given setting).isSome = true ↔ ∃ text, setting = some text ∧ text ≠ "" := by
  simp only [Option.isSome_iff_exists, given_eq_some_iff]

/-- The five settings that select something, each under its option. -/
theorem selects_iff {option : String} :
    draft.Selects option ↔
      (given draft.authenticationName).isSome = true ∧
          option = "authentication-name" ∨
        draft.anonymous = some true ∧ option = "anonymous" ∨
        (given draft.securityDomain).isSome = true ∧
          option = "security-domain" ∨
        draft.allowAllMechanisms = some true ∧
          option = "allow-all-mechanisms" ∨
        draft.allowSaslMechanisms ≠ [] ∧ option = "allow-sasl-mechanisms" := by
  rw [isSome_given_iff, isSome_given_iff]
  constructor
  · rintro (⟨_, isName | isOn | isDomain, rfl⟩ | ⟨_, isOn | isList, rfl⟩)
    · exact Or.inl ⟨⟨_, isName, ‹_›⟩, rfl⟩
    · exact Or.inr (Or.inl ⟨isOn, rfl⟩)
    · exact Or.inr (Or.inr (Or.inl ⟨⟨_, isDomain, ‹_›⟩, rfl⟩))
    · exact Or.inr (Or.inr (Or.inr (Or.inl ⟨isOn, rfl⟩)))
    · exact Or.inr (Or.inr (Or.inr (Or.inr ⟨isList, rfl⟩)))
  · rintro (⟨⟨name, isName, isFilled⟩, rfl⟩ | ⟨isOn, rfl⟩ |
      ⟨⟨name, isDomain, isFilled⟩, rfl⟩ | ⟨isOn, rfl⟩ | ⟨isList, rfl⟩)
    · exact Or.inl ⟨_, .authenticationName isName isFilled, rfl⟩
    · exact Or.inl ⟨_, .anonymous isOn, rfl⟩
    · exact Or.inl ⟨_, .securityDomain isDomain isFilled, rfl⟩
    · exact Or.inr ⟨_, .allowAll isOn, rfl⟩
    · exact Or.inr ⟨_, .allowSasl isList, rfl⟩

/-- An identity that is held is selected. -/
theorem selectsIdentity_of_identity_eq {identity : AuthenticationIdentity}
    (isHeld : draft.identity = some identity) :
    draft.SelectsIdentity identity := by
  unfold Draft.identity at isHeld
  split at isHeld
  case h_1 name isName =>
      cases isHeld
      obtain ⟨isGiven, isFilled⟩ := given_eq_some_iff.mp isName
      exact .authenticationName isGiven isFilled
  case h_2 noName isOn =>
      cases isHeld
      exact .anonymous isOn
  case h_3 name noName isDomain notOn =>
      cases isHeld
      obtain ⟨isGiven, isFilled⟩ := given_eq_some_iff.mp isDomain
      exact .securityDomain isGiven isFilled
  case h_4 => cases isHeld

/-- Where an identity is selected, one is held. -/
theorem exists_identity_eq {identity : AuthenticationIdentity}
    (isSelected : draft.SelectsIdentity identity) :
    ∃ held, draft.identity = some held := by
  rw [Draft.identity]
  split
  case h_4 noName noDomain notOn =>
      -- All three settings select nothing.
      cases isSelected with
      | authenticationName isName isFilled =>
          rw [given_eq_some_iff.mpr ⟨isName, isFilled⟩] at noName
          cases noName
      | anonymous isOn => exact (notOn isOn).elim
      | securityDomain isDomain isFilled =>
          rw [given_eq_some_iff.mpr ⟨isDomain, isFilled⟩] at noDomain
          cases noDomain
  all_goals exact ⟨_, rfl⟩

/-- If at most one identity is selected, it is held. -/
theorem identity_eq_some_iff
    (single : AtMostOne draft.SelectsIdentity)
    {identity : AuthenticationIdentity} :
    draft.identity = some identity ↔ draft.SelectsIdentity identity := by
  refine ⟨selectsIdentity_of_identity_eq, fun isSelected => ?_⟩
  obtain ⟨held, isHeld⟩ := exists_identity_eq isSelected
  rw [isHeld, single (selectsIdentity_of_identity_eq isHeld) isSelected]

/-- If at most one policy is selected, it is held. -/
theorem mechanismPolicy_eq_some_iff
    (single : AtMostOne draft.SelectsPolicy)
    {policy : MechanismPolicy} :
    draft.mechanismPolicy = some policy ↔ draft.SelectsPolicy policy := by
  by_cases isOn : draft.allowAllMechanisms = some true
  · rw [Draft.mechanismPolicy, if_pos isOn, Option.some.injEq]
    exact ⟨fun same => same ▸ .allowAll isOn, single (.allowAll isOn)⟩
  · rw [Draft.mechanismPolicy, if_neg isOn]
    by_cases isEmpty : draft.allowSaslMechanisms = []
    · rw [if_pos (by rw [isEmpty]; rfl)]
      refine iff_of_false (fun isHeld => by cases isHeld) ?_
      rintro (isOnToo | isFilled)
      · exact isOn isOnToo
      · exact isFilled isEmpty
    · rw [if_neg (isEmpty ∘ List.isEmpty_iff.mp), Option.some.injEq]
      constructor
      · exact fun same => same ▸ .allowSasl isEmpty
      · rintro (isOnToo | _)
        · exact absurd isOnToo isOn
        · rfl

/-! ## Conditions -/

/-- At most one identity is selected where no two options select one. -/
theorem atMostOne_selectsIdentity_iff :
    AtMostOne draft.SelectsIdentity ↔
      (draft.apart "authentication-name" "anonymous").isMet ∧
      (draft.apart "authentication-name" "security-domain").isMet ∧
      (draft.apart "anonymous" "security-domain").isMet := by
  simp only [apart, Condition.apart, selects_iff, isSome_given_iff,
    String.reduceEq, and_true, and_false, or_false, false_or]
  constructor
  · intro single
    refine ⟨?_, ?_, ?_⟩
    · rintro ⟨⟨name, isName, isFilled⟩, isOn⟩
      cases single (.authenticationName isName isFilled) (.anonymous isOn)
    · rintro ⟨⟨name, isName, isFilled⟩, domain, isDomain, isFilledToo⟩
      cases single (.authenticationName isName isFilled)
        (.securityDomain isDomain isFilledToo)
    · rintro ⟨isOn, domain, isDomain, isFilled⟩
      cases single (.anonymous isOn) (.securityDomain isDomain isFilled)
  · rintro ⟨notOn, notDomain, notEither⟩ first second isFirst isSecond
    -- Two selections by one option agree, and two options are excluded.
    cases isFirst <;> cases isSecond <;> grind

/-- At most one policy is selected where not both options select one. -/
theorem atMostOne_selectsPolicy_iff :
    AtMostOne draft.SelectsPolicy ↔
      (draft.apart "allow-all-mechanisms" "allow-sasl-mechanisms").isMet := by
  simp only [apart, Condition.apart, selects_iff, String.reduceEq, and_true,
    and_false, or_false, false_or]
  constructor
  · rintro single ⟨isOn, isFilled⟩
    cases single (.allowAll isOn) (.allowSasl isFilled)
  · intro notBoth first second isFirst isSecond
    cases isFirst <;> cases isSecond <;> grind

theorem decidedBy_checkIdentity :
    DecidedBy
      [draft.apart "authentication-name" "anonymous",
        draft.apart "authentication-name" "security-domain",
        draft.apart "anonymous" "security-domain"]
      draft.checkIdentity := by
  have name_iff : (given draft.authenticationName).isSome = true ↔
      draft.Selects "authentication-name" := by simp [selects_iff]
  have anonymous_iff : decide (draft.anonymous = some true) = true ↔
      draft.Selects "anonymous" := by simp [selects_iff]
  have domain_iff : (given draft.securityDomain).isSome = true ↔
      draft.Selects "security-domain" := by simp [selects_iff]
  exact (decidedBy_exclude name_iff anonymous_iff).andThen fun _ _ =>
    (decidedBy_exclude name_iff domain_iff).andThen fun _ _ =>
      decidedBy_exclude anonymous_iff domain_iff

theorem decidedBy_checkPolicy :
    DecidedBy [draft.apart "allow-all-mechanisms" "allow-sasl-mechanisms"]
      draft.checkPolicy :=
  decidedBy_exclude (by simp [selects_iff]) (by simp [selects_iff])

theorem decidedBy_conditions (draft : Draft) :
    DecidedBy draft.conditions draft.build :=
  (decidedBy_requireName _ _).andThen fun _ _ =>
    (decidedBy_require _ _).andThen fun _ _ =>
      decidedBy_checkIdentity.andThen fun _ _ =>
        decidedBy_checkPolicy.andThen fun _ _ => .ok _

/-- Settings are accepted where there are a name, a credential reference and
at most one selection of each sort. -/
theorem exists_build_eq_ok_iff (draft : Draft) :
    (∃ configuration, draft.build = .ok configuration) ↔
      draft.name ≠ "" ∧
      draft.credentialReference ≠ none ∧
      AtMostOne draft.SelectsIdentity ∧
      AtMostOne draft.SelectsPolicy := by
  rw [(decidedBy_conditions draft).exists_ok_iff,
    atMostOne_selectsIdentity_iff, atMostOne_selectsPolicy_iff]
  simp only [conditions, List.forall_mem_cons, List.not_mem_nil,
    false_imp_iff, implies_true, and_true, and_assoc, Condition.named,
    Condition.given]

/-- The options that a conflict names are two, and both are selected. -/
theorem selects_of_conflict {first second : String}
    (failed : draft.build = .error (.conflict first second)) :
    first ≠ second ∧ draft.Selects first ∧ draft.Selects second := by
  obtain ⟨condition, isCondition, notMet, isFault⟩ :=
    exists_unmet_of_firstOf ((decidedBy_conditions draft _).mp failed)
  simp only [conditions, List.mem_cons, List.not_mem_nil, or_false]
    at isCondition
  rcases isCondition with rfl | rfl | rfl | rfl | rfl | rfl
  case inl => cases isFault
  case inr.inl => cases isFault
  all_goals
    obtain ⟨rfl, rfl⟩ := BuildError.conflict.inj isFault
    exact ⟨by decide, not_not.mp notMet⟩

/-! ## Attributes -/

section

variable {configuration : AuthenticationConfiguration}
  (built : draft.build = .ok configuration)
include built

/-- The attributes are what the settings hold under their names. -/
theorem mem_values_iff {name : String} {value : Value} :
    (name, value) ∈ configuration.values ↔
      ValueSet.held (Datum.slotsOf settings draft) name = some value := by
  have isMade : (entry.wrap draft).command =
      .ok (Resource.authenticationConfiguration configuration).command :=
    map_eq_ok_iff.mpr ⟨_, map_eq_ok_iff.mpr ⟨_, built, rfl⟩, rfl⟩
  have makes := entry.makes_of_command isMade
  have isHeld : Members.get? name configuration.values =
      ValueSet.held (Datum.slotsOf settings draft) name :=
    makes.get?_values name
  rw [← isHeld]
  exact Members.mem_iff_get?_eq_some makes.distinct_values

theorem authenticationName_mem_values_iff {value : Value} :
    ("authentication-name", value) ∈ configuration.values ↔
      ∃ name, (draft.authenticationName = some name ∧ name ≠ "") ∧
        value = .text name :=
  (mem_values_iff built).trans Value.ofText?_eq_some_iff

theorem anonymous_mem_values_iff {value : Value} :
    ("anonymous", value) ∈ configuration.values ↔
      ∃ state, draft.anonymous = some state ∧ value = .boolean state :=
  (mem_values_iff built).trans Value.ofBoolean?_eq_some_iff

theorem securityDomain_mem_values_iff {value : Value} :
    ("security-domain", value) ∈ configuration.values ↔
      ∃ name, (draft.securityDomain = some name ∧ name ≠ "") ∧
        value = .text name :=
  (mem_values_iff built).trans Value.ofText?_eq_some_iff

theorem allowAllMechanisms_mem_values_iff {value : Value} :
    ("allow-all-mechanisms", value) ∈ configuration.values ↔
      ∃ state, draft.allowAllMechanisms = some state ∧
        value = .boolean state :=
  (mem_values_iff built).trans Value.ofBoolean?_eq_some_iff

theorem allowSaslMechanisms_mem_values_iff {value : Value} :
    ("allow-sasl-mechanisms", value) ∈ configuration.values ↔
      draft.allowSaslMechanisms ≠ [] ∧
        value = .list (draft.allowSaslMechanisms.map Value.text) := by
  refine (mem_values_iff built).trans (Value.ofItems?_eq_some_iff.trans ?_)
  rw [ne_eq, List.map_eq_nil_iff]
  exact Iff.rfl

/-- The attribute of an identity is sent where the identity is selected. -/
theorem identity_attribute_mem_values_iff {identity : AuthenticationIdentity} :
    identity.attribute ∈ configuration.values ↔
      draft.SelectsIdentity identity := by
  constructor
  · intro isSent
    cases identity with
    | authenticationName name =>
        obtain ⟨text, ⟨isName, isFilled⟩, same⟩ :=
          (authenticationName_mem_values_iff built).mp isSent
        cases same
        exact .authenticationName isName isFilled
    | anonymous =>
        obtain ⟨state, isState, same⟩ :=
          (anonymous_mem_values_iff built).mp isSent
        cases same
        exact .anonymous isState
    | securityDomain name =>
        obtain ⟨text, ⟨isDomain, isFilled⟩, same⟩ :=
          (securityDomain_mem_values_iff built).mp isSent
        cases same
        exact .securityDomain isDomain isFilled
  · rintro (⟨isName, isFilled⟩ | isOn | ⟨isDomain, isFilled⟩)
    · exact (authenticationName_mem_values_iff built).mpr
        ⟨_, ⟨isName, isFilled⟩, rfl⟩
    · exact (anonymous_mem_values_iff built).mpr ⟨_, isOn, rfl⟩
    · exact (securityDomain_mem_values_iff built).mpr
        ⟨_, ⟨isDomain, isFilled⟩, rfl⟩

/-- The attribute of a policy is sent where the policy is selected. -/
theorem policy_attribute_mem_values_iff {policy : MechanismPolicy} :
    policy.attribute ∈ configuration.values ↔ draft.SelectsPolicy policy := by
  constructor
  · intro isSent
    cases policy with
    | allowAll =>
        obtain ⟨state, isState, same⟩ :=
          (allowAllMechanisms_mem_values_iff built).mp isSent
        cases same
        exact .allowAll isState
    | allowSasl mechanisms =>
        obtain ⟨isFilled, same⟩ :=
          (allowSaslMechanisms_mem_values_iff built).mp isSent
        have sameTexts := Value.list.inj same
        obtain rfl :=
          List.map_injective_iff.mpr Value.text_injective sameTexts
        exact .allowSasl isFilled
  · rintro (isOn | isFilled)
    · exact (allowAllMechanisms_mem_values_iff built).mpr ⟨_, isOn, rfl⟩
    · exact (allowSaslMechanisms_mem_values_iff built).mpr ⟨isFilled, rfl⟩

/-- A configuration holds the identity that is selected. -/
theorem identity_eq_some_iff_of_build {identity : AuthenticationIdentity} :
    configuration.identity = some identity ↔
      draft.SelectsIdentity identity := by
  obtain ⟨-, -, single, -⟩ :=
    (exists_build_eq_ok_iff draft).mp ⟨configuration, built⟩
  obtain ⟨name, -, reference, -, -, -, rfl⟩ := build_eq_ok_iff.mp built
  exact identity_eq_some_iff single

/-- A configuration holds the policy that is selected. -/
theorem mechanismPolicy_eq_some_iff_of_build {policy : MechanismPolicy} :
    configuration.mechanismPolicy = some policy ↔
      draft.SelectsPolicy policy := by
  obtain ⟨-, -, -, single⟩ :=
    (exists_build_eq_ok_iff draft).mp ⟨configuration, built⟩
  obtain ⟨name, -, reference, -, -, -, rfl⟩ := build_eq_ok_iff.mp built
  exact mechanismPolicy_eq_some_iff single

theorem attribute_mem_values_iff_identity_eq
    (identity : AuthenticationIdentity) :
    identity.attribute ∈ configuration.values ↔
      configuration.identity = some identity := by
  rw [identity_attribute_mem_values_iff built,
    identity_eq_some_iff_of_build built]

theorem attribute_mem_values_iff_mechanismPolicy_eq
    (policy : MechanismPolicy) :
    policy.attribute ∈ configuration.values ↔
      configuration.mechanismPolicy = some policy := by
  rw [policy_attribute_mem_values_iff built,
    mechanismPolicy_eq_some_iff_of_build built]

theorem values_tell_identity :
    configuration.values.Tells AuthenticationIdentity.attribute
      configuration.identity identityOptions "anonymous" draft.anonymous where
  sent_iff := attribute_mem_values_iff_identity_eq built
  single := ValueSet.atMostOne_of_sent_iff
    (attribute_mem_values_iff_identity_eq built)
  off_iff := by
    rw [anonymous_mem_values_iff built]
    simp [Value.boolean]
  nothingElse name isOption value isSent := by
    simp only [identityOptions, List.mem_cons, List.not_mem_nil, or_false]
      at isOption
    rcases isOption with rfl | rfl | rfl
    · obtain ⟨text, -, rfl⟩ :=
        (authenticationName_mem_values_iff built).mp isSent
      exact Or.inl ⟨.authenticationName text, rfl⟩
    · obtain ⟨state, -, rfl⟩ := (anonymous_mem_values_iff built).mp isSent
      cases state with
      | false => exact Or.inr rfl
      | true => exact Or.inl ⟨.anonymous, rfl⟩
    · obtain ⟨text, -, rfl⟩ := (securityDomain_mem_values_iff built).mp isSent
      exact Or.inl ⟨.securityDomain text, rfl⟩

theorem values_tell_mechanismPolicy :
    configuration.values.Tells MechanismPolicy.attribute
      configuration.mechanismPolicy policyOptions "allow-all-mechanisms"
      draft.allowAllMechanisms where
  sent_iff := attribute_mem_values_iff_mechanismPolicy_eq built
  single := ValueSet.atMostOne_of_sent_iff
    (attribute_mem_values_iff_mechanismPolicy_eq built)
  off_iff := by
    rw [allowAllMechanisms_mem_values_iff built]
    simp [Value.boolean]
  nothingElse name isOption value isSent := by
    simp only [policyOptions, List.mem_cons, List.not_mem_nil, or_false]
      at isOption
    rcases isOption with rfl | rfl
    · obtain ⟨state, -, rfl⟩ :=
        (allowAllMechanisms_mem_values_iff built).mp isSent
      cases state with
      | false => exact Or.inr rfl
      | true => exact Or.inl ⟨.allowAll, rfl⟩
    · obtain ⟨-, rfl⟩ := (allowSaslMechanisms_mem_values_iff built).mp isSent
      exact Or.inl ⟨.allowSasl draft.allowSaslMechanisms, rfl⟩

end

end

end Draft

/-- **A configuration has at most one identity and at most one policy.**

Settings make a configuration exactly where there are a name, a credential
reference, at most one selected identity and at most one selected policy.
Otherwise the first condition that is not met is told, and a conflict names
two options that are both selected.  The configuration holds what the settings
select, and its attributes tell the same: the attribute of an identity or of a
policy is sent exactly where it is the one that is held, and a flag that is
switched off is sent as such beside any choice. -/
theorem selections_exclude_each_other
    (draft : Draft) :
    ((∃ configuration, draft.build = .ok configuration) ↔
      draft.name ≠ "" ∧
      draft.credentialReference ≠ none ∧
      AtMostOne draft.SelectsIdentity ∧
      AtMostOne draft.SelectsPolicy) ∧
    DecidedBy draft.conditions draft.build ∧
    (∀ first second, draft.build = .error (.conflict first second) →
      first ≠ second ∧ draft.Selects first ∧ draft.Selects second) ∧
    ∀ configuration, draft.build = .ok configuration →
      (∀ identity, configuration.identity = some identity ↔
        draft.SelectsIdentity identity) ∧
      (∀ policy, configuration.mechanismPolicy = some policy ↔
        draft.SelectsPolicy policy) ∧
      configuration.values.Tells AuthenticationIdentity.attribute
        configuration.identity identityOptions "anonymous" draft.anonymous ∧
      configuration.values.Tells MechanismPolicy.attribute
        configuration.mechanismPolicy policyOptions "allow-all-mechanisms"
        draft.allowAllMechanisms :=
  ⟨draft.exists_build_eq_ok_iff, draft.decidedBy_conditions,
    fun _ _ => Draft.selects_of_conflict, fun _ built =>
      ⟨fun _ => Draft.identity_eq_some_iff_of_build built,
        fun _ => Draft.mechanismPolicy_eq_some_iff_of_build built,
        Draft.values_tell_identity built,
        Draft.values_tell_mechanismPolicy built⟩⟩

/-- Settings of a client that stays anonymous, with a text that says nothing
and a flag that is switched off. -/
def anonymousDraft : Draft where
  name := "batch"
  credentialReference := some (.clearText "secret")
  authenticationName := some ""
  anonymous := some true
  allowAllMechanisms := some false
  allowSaslMechanisms := ["PLAIN"]

/-- The same settings with a name that says something. -/
def contestedDraft : Draft :=
  { anonymousDraft with authenticationName := some "app" }

theorem selections_exclude_each_other_sample :
    (∃ configuration, anonymousDraft.build = .ok configuration ∧
      configuration.identity = some .anonymous ∧
      MechanismPolicy.attribute (.allowSasl ["PLAIN"]) ∈
        configuration.values ∧
      ("allow-all-mechanisms", .boolean false) ∈ configuration.values) ∧
    contestedDraft.build =
      .error (.conflict "authentication-name" "anonymous") ∧
    contestedDraft.Selects "authentication-name" ∧
    contestedDraft.Selects "anonymous" := by
  constructor
  · obtain ⟨-, -, -, ofBuilt⟩ := selections_exclude_each_other anonymousDraft
    obtain ⟨identity_iff, policy_iff, -, tellPolicy⟩ := ofBuilt _ rfl
    have isPolicy := (policy_iff (.allowSasl ["PLAIN"])).mpr
      (.allowSasl (by decide))
    exact ⟨_, rfl, (identity_iff .anonymous).mpr (.anonymous rfl),
      (tellPolicy.sent_iff _).mpr isPolicy, tellPolicy.off_iff.mpr rfl⟩
  · obtain ⟨-, -, ofConflict, -⟩ := selections_exclude_each_other contestedDraft
    exact ⟨rfl, (ofConflict _ _ rfl).2⟩

end AuthenticationConfiguration

end Provision
