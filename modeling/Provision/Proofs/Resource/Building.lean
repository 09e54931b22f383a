import Mathlib.Logic.Unique
import Provision.Resource.Draft

/-!
Contract: when settings make a resource, and which one.

Owns:
- the success of outcomes that are made from other outcomes;
- the success of each check that settings must pass;
- the resource that settings of each kind make.

Does not own: what is sent for a resource.
-/

namespace Provision

/-! ## Outcomes -/

theorem map_eq_ok_iff {ε α β : Type} {result : Except ε α} {change : α → β}
    {value : β} :
    result.map change = .ok value ↔
      ∃ held, result = .ok held ∧ change held = value := by
  cases result <;> simp [Except.map]

theorem bind_eq_ok_iff {ε α β : Type} {result : Except ε α}
    {next : α → Except ε β} {value : β} :
    (result >>= next) = .ok value ↔
      ∃ held, result = .ok held ∧ next held = .ok value := by
  cases result <;> simp [bind, Except.bind]

/-- A check of every item passes where each item passes it. -/
theorem forM_eq_ok_iff {ε α : Type} {check : α → Except ε Unit}
    {items : List α} :
    items.forM check = .ok () ↔ ∀ item ∈ items, check item = .ok () := by
  induction items with
  | nil => simp [pure, Except.pure]
  | cons item rest inductionHypothesis =>
      change (check item >>= fun _ => rest.forM check) = .ok () ↔ _
      rw [bind_eq_ok_iff, List.forall_mem_cons, ← inductionHypothesis]
      exact ⟨fun ⟨_, first, others⟩ => ⟨first, others⟩,
        fun ⟨first, others⟩ => ⟨(), first, others⟩⟩

/-! ## Checks -/

theorem requireName_eq_ok_iff {kind : ResourceKind} {text : String}
    {name : ResourceName} :
    requireName kind text = .ok name ↔ name.text = text := by
  by_cases given : text = ""
  · have isOther : name.text ≠ text := fun same => name.given (same.trans given)
    simp [requireName, ResourceName.ofText?, given, given ▸ isOther]
  · have sameName : (⟨text, given⟩ : ResourceName) = name ↔
        name.text = text := by
      cases name
      rw [ResourceName.mk.injEq, eq_comm]
    simp [requireName, ResourceName.ofText?, given, sameName]

theorem requireText_eq_ok_iff {field : String} {setting : Option String}
    {text : String} :
    requireText field setting = .ok text ↔
      setting = some text ∧ text ≠ "" := by
  cases setting with
  | none => simp [requireText]
  | some found =>
      by_cases isEmpty : found = ""
      · simp only [requireText, isEmpty, if_true, reduceCtorEq, false_iff,
          Option.some.injEq]
        exact fun ⟨same, given⟩ => given same.symm
      · simp only [requireText, isEmpty, if_false, Except.ok.injEq,
          Option.some.injEq]
        exact ⟨fun same => ⟨same, same ▸ isEmpty⟩, And.left⟩

theorem require_eq_ok_iff {α : Type} {field : String} {setting : Option α}
    {value : α} : require field setting = .ok value ↔ setting = some value := by
  cases setting <;> simp [require]

theorem exclude_eq_ok_iff {first second : String} {left right : Bool} :
    exclude first left second right = .ok () ↔
      ¬(left = true ∧ right = true) := by
  cases left <;> cases right <;> simp [exclude]

theorem MechanismRealm.check_eq_ok_iff {realm : MechanismRealm} :
    realm.check = .ok () ↔ realm.realmName ≠ "" := by
  by_cases isEmpty : realm.realmName = "" <;> simp [check, isEmpty]

theorem Mechanism.check_eq_ok_iff {mechanism : Mechanism} :
    mechanism.check = .ok () ↔
      ∀ realm ∈ mechanism.realms, realm.realmName ≠ "" := by
  rw [check, forM_eq_ok_iff]
  exact forall₂_congr fun realm _ => MechanismRealm.check_eq_ok_iff

theorem SecurityDomain.checkRealms_eq_ok_iff {realms : List DomainRealm} :
    checkRealms realms = .ok () ↔
      realms ≠ [] ∧ ∀ realm ∈ realms, realm.realm ≠ "" := by
  have anyEmpty_iff : (realms.any fun realm => realm.realm = "") = true ↔
      ¬∀ realm ∈ realms, realm.realm ≠ "" := by simp
  unfold checkRealms
  split
  · next isEmpty => simp [List.isEmpty_iff.mp isEmpty]
  · next isFilled =>
      have isFilled : realms ≠ [] := isFilled ∘ List.isEmpty_iff.mpr
      split
      · next anyEmpty =>
          simp only [reduceCtorEq, false_iff]
          exact fun named => anyEmpty_iff.mp anyEmpty named.2
      · next noneEmpty =>
          rw [anyEmpty_iff, not_not] at noneEmpty
          exact iff_of_true rfl ⟨isFilled, noneEmpty⟩

/-! ## Resources -/

theorem AuthenticationConfiguration.Draft.build_eq_ok_iff {draft : Draft}
    {configuration : AuthenticationConfiguration} :
    draft.build = .ok configuration ↔
      ∃ name : ResourceName, name.text = draft.name ∧
        ∃ credentialReference,
          draft.credentialReference = some credentialReference ∧
          draft.checkIdentity = .ok () ∧ draft.checkPolicy = .ok () ∧
          { draft.toOptions with
            name, credentialReference
            identity := draft.identity
            mechanismPolicy := draft.mechanismPolicy
            anonymousOff := draft.anonymous = some false
            allowAllMechanismsOff := draft.allowAllMechanisms = some false
            replaceExisting := draft.replaceExisting } = configuration := by
  simp only [build, bind_eq_ok_iff, requireName_eq_ok_iff, require_eq_ok_iff,
    Except.ok.injEq, Unique.exists_iff, PUnit.default_eq_unit]

theorem ClientSslContext.Draft.build_eq_ok_iff {draft : Draft}
    {context : ClientSslContext} :
    draft.build = .ok context ↔
      ∃ name : ResourceName, name.text = draft.name ∧
        { draft.toOptions with
          name, replaceExisting := draft.replaceExisting } = context := by
  simp only [build, bind_eq_ok_iff, requireName_eq_ok_iff, Except.ok.injEq]

theorem CredentialStore.Draft.build_eq_ok_iff {draft : Draft}
    {store : CredentialStore} :
    draft.build = .ok store ↔
      ∃ name : ResourceName, name.text = draft.name ∧
        ∃ uri, (draft.uri = some uri ∧ uri ≠ "") ∧
          Text.startsWith uriStart.toList uri.toList = true ∧
          ∃ credentialReference,
            draft.credentialReference = some credentialReference ∧
            { draft.toOptions with
              name, uri, credentialReference
              replaceExisting := draft.replaceExisting } = store := by
  simp only [build, bind_eq_ok_iff, requireName_eq_ok_iff,
    requireText_eq_ok_iff]
  refine exists_congr fun name => and_congr_right fun _ =>
    exists_congr fun uri => and_congr_right fun _ => ?_
  split
  · next starts =>
      simp only [bind_eq_ok_iff, require_eq_ok_iff, Except.ok.injEq, starts,
        true_and]
  · next starts => simp [starts]

theorem CustomRealm.Draft.build_eq_ok_iff {draft : Draft}
    {realm : CustomRealm} :
    draft.build = .ok realm ↔
      ∃ name : ResourceName, name.text = draft.name ∧
        ∃ className, (draft.className = some className ∧ className ≠ "") ∧
          { draft with name, className } = realm := by
  simp only [build, bind_eq_ok_iff, requireName_eq_ok_iff,
    requireText_eq_ok_iff, Except.ok.injEq]

theorem FilesystemRealm.Draft.build_eq_ok_iff {draft : Draft}
    {realm : FilesystemRealm} :
    draft.build = .ok realm ↔
      ∃ name : ResourceName, name.text = draft.name ∧
        ∃ path, (draft.path = some path ∧ path ≠ "") ∧
          { draft with name, path } = realm := by
  simp only [build, bind_eq_ok_iff, requireName_eq_ok_iff,
    requireText_eq_ok_iff, Except.ok.injEq]

theorem HttpAuthenticationFactory.Draft.build_eq_ok_iff {draft : Draft}
    {factory : HttpAuthenticationFactory} :
    draft.build = .ok factory ↔
      ∃ name : ResourceName, name.text = draft.name ∧
        ∃ securityDomain,
          (draft.securityDomain = some securityDomain ∧
            securityDomain ≠ "") ∧
          ∃ httpServerMechanismFactory,
            (draft.httpServerMechanismFactory =
                some httpServerMechanismFactory ∧
              httpServerMechanismFactory ≠ "") ∧
            (∀ mechanism ∈ draft.mechanismConfigurations,
              ∀ realm ∈ mechanism.realms, realm.realmName ≠ "") ∧
            { draft with
              name, securityDomain, httpServerMechanismFactory } =
                factory := by
  simp only [build, bind_eq_ok_iff, requireName_eq_ok_iff,
    requireText_eq_ok_iff, Except.ok.injEq, Unique.exists_iff,
    PUnit.default_eq_unit, forM_eq_ok_iff, Mechanism.check_eq_ok_iff]

theorem SecurityDomain.Draft.build_eq_ok_iff {draft : Draft}
    {domain : SecurityDomain} :
    draft.build = .ok domain ↔
      ∃ name : ResourceName, name.text = draft.name ∧
        ∃ defaultRealm,
          (draft.defaultRealm = some defaultRealm ∧ defaultRealm ≠ "") ∧
          (draft.realms ≠ [] ∧ ∀ realm ∈ draft.realms, realm.realm ≠ "") ∧
          { draft.toOptions with
            name, defaultRealm
            replaceExisting := draft.replaceExisting } = domain := by
  simp only [build, bind_eq_ok_iff, requireName_eq_ok_iff,
    requireText_eq_ok_iff, Except.ok.injEq, Unique.exists_iff,
    PUnit.default_eq_unit, checkRealms_eq_ok_iff]

theorem X500AttributePrincipalDecoder.Draft.build_eq_ok_iff {draft : Draft}
    {decoder : X500AttributePrincipalDecoder} :
    draft.build = .ok decoder ↔
      ∃ name : ResourceName, name.text = draft.name ∧
        ∃ oid, (draft.oid = some oid ∧ oid ≠ "") ∧
          { draft.toOptions with
            name, oid, replaceExisting := draft.replaceExisting } =
              decoder := by
  simp only [build, bind_eq_ok_iff, requireName_eq_ok_iff,
    requireText_eq_ok_iff, Except.ok.injEq]

end Provision
