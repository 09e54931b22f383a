import Provision.Proofs.Address.Text
import Provision.Proofs.Command.Batch
import Provision.Proofs.Configuration.Resolution
import Provision.Proofs.Resource.Selections

/-!
Contract: which settings make a resource, and where its node stands.

Owns:
- the conditions on the settings of each kind, in the order in which they are
  looked at;
- that settings are accepted where all of them are met, and that otherwise the
  first one that is not met is told;
- the address of every command that settings make, which the constructors that
  refuse empty texts make, too.

Does not own: the attributes of the node.
-/

namespace Provision

/-! ## Conditions on the parts of settings -/

/-- A realm that a mechanism offers is named. -/
theorem MechanismRealm.decidedBy_check (realm : MechanismRealm) :
    DecidedBy [⟨realm.realmName ≠ "", .missing "realm-name"⟩] realm.check :=
  .guarded not_not.symm fun _ => .ok ()

/-- Every realm that a mechanism offers is named. -/
theorem Mechanism.decidedBy_check (mechanism : Mechanism) :
    DecidedBy
      [⟨∀ realm ∈ mechanism.realms, realm.realmName ≠ "",
        .missing "realm-name"⟩]
      mechanism.check :=
  decidedBy_forM MechanismRealm.decidedBy_check mechanism.realms

/-- There is a realm, and every realm is named. -/
theorem SecurityDomain.decidedBy_checkRealms (realms : List DomainRealm) :
    DecidedBy
      [⟨realms ≠ [], .missing "realms"⟩,
        ⟨∀ realm ∈ realms, realm.realm ≠ "", .empty "realm"⟩]
      (checkRealms realms) := by
  refine .guarded ?_ fun _ => .guarded ?_ fun _ => .ok ()
  · rw [List.isEmpty_iff, not_not]
  · simp

/-- The location of a store begins with its scheme. -/
theorem CredentialStore.startsWith_iff {uri : String} :
    Text.startsWith uriStart.toList uri.toList = true ↔
      ∃ rest, uri = uriStart ++ rest := by
  rw [Text.startsWith_eq_true_iff]
  constructor
  · rintro ⟨rest, isWhole⟩
    refine ⟨String.ofList rest, String.toList_inj.mp ?_⟩
    rw [String.toList_append, String.toList_ofList, isWhole]
  · rintro ⟨rest, rfl⟩
    rw [String.toList_append]
    exact List.prefix_append _ _

/-! ## Conditions on the settings of each kind -/

namespace ClientSslContext.Draft

def conditions (draft : Draft) : List Condition :=
  [.named .clientSslContext draft.name]

theorem decidedBy_conditions (draft : Draft) :
    DecidedBy draft.conditions draft.build :=
  (decidedBy_requireName _ _).andThen fun _ _ => .ok _

end ClientSslContext.Draft

namespace CredentialStore.Draft

def conditions (draft : Draft) : List Condition :=
  [.named .credentialStore draft.name, .given "uri" draft.uri,
    .filled "uri" draft.uri,
    ⟨∃ rest, draft.uri = some (uriStart ++ rest),
      .missingStart "uri" uriStart⟩,
    .given "credential-reference" draft.credentialReference]

theorem decidedBy_conditions (draft : Draft) :
    DecidedBy draft.conditions draft.build := by
  refine (decidedBy_requireName _ _).andThen fun _ _ =>
    (decidedBy_requireText _ _).andThen fun uri isUri => ?_
  obtain ⟨isUri, -⟩ := requireText_eq_ok_iff.mp isUri
  rw [← ite_not]
  refine .guarded ?_ fun _ => (decidedBy_require _ _).andThen fun _ _ => .ok _
  simp only [isUri, Option.some.injEq]
  rw [startsWith_iff]

end CredentialStore.Draft

namespace CustomRealm.Draft

def conditions (draft : Draft) : List Condition :=
  [.named .customRealm draft.name, .given "class-name" draft.className,
    .filled "class-name" draft.className]

theorem decidedBy_conditions (draft : Draft) :
    DecidedBy draft.conditions draft.build :=
  (decidedBy_requireName _ _).andThen fun _ _ =>
    (decidedBy_requireText _ _).andThen fun _ _ => .ok _

end CustomRealm.Draft

namespace FilesystemRealm.Draft

def conditions (draft : Draft) : List Condition :=
  [.named .filesystemRealm draft.name, .given "path" draft.path,
    .filled "path" draft.path]

theorem decidedBy_conditions (draft : Draft) :
    DecidedBy draft.conditions draft.build :=
  (decidedBy_requireName _ _).andThen fun _ _ =>
    (decidedBy_requireText _ _).andThen fun _ _ => .ok _

end FilesystemRealm.Draft

namespace HttpAuthenticationFactory.Draft

def conditions (draft : Draft) : List Condition :=
  [.named .httpAuthenticationFactory draft.name,
    .given "security-domain" draft.securityDomain,
    .filled "security-domain" draft.securityDomain,
    .given "http-server-mechanism-factory" draft.httpServerMechanismFactory,
    .filled "http-server-mechanism-factory" draft.httpServerMechanismFactory,
    ⟨∀ mechanism ∈ draft.mechanismConfigurations,
      ∀ realm ∈ mechanism.realms, realm.realmName ≠ "",
      .missing "realm-name"⟩]

theorem decidedBy_conditions (draft : Draft) :
    DecidedBy draft.conditions draft.build :=
  (decidedBy_requireName _ _).andThen fun _ _ =>
    (decidedBy_requireText _ _).andThen fun _ _ =>
      (decidedBy_requireText _ _).andThen fun _ _ =>
        (decidedBy_forM Mechanism.decidedBy_check _).andThen fun _ _ => .ok _

end HttpAuthenticationFactory.Draft

namespace SecurityDomain.Draft

def conditions (draft : Draft) : List Condition :=
  [.named .securityDomain draft.name,
    .given "default-realm" draft.defaultRealm,
    .filled "default-realm" draft.defaultRealm,
    ⟨draft.realms ≠ [], .missing "realms"⟩,
    ⟨∀ realm ∈ draft.realms, realm.realm ≠ "", .empty "realm"⟩]

theorem decidedBy_conditions (draft : Draft) :
    DecidedBy draft.conditions draft.build :=
  (decidedBy_requireName _ _).andThen fun _ _ =>
    (decidedBy_requireText _ _).andThen fun _ _ =>
      (decidedBy_checkRealms _).andThen fun _ _ => .ok _

end SecurityDomain.Draft

namespace X500AttributePrincipalDecoder.Draft

def conditions (draft : Draft) : List Condition :=
  [.named .x500AttributePrincipalDecoder draft.name, .given "oid" draft.oid,
    .filled "oid" draft.oid]

theorem decidedBy_conditions (draft : Draft) :
    DecidedBy draft.conditions draft.build :=
  (decidedBy_requireName _ _).andThen fun _ _ =>
    (decidedBy_requireText _ _).andThen fun _ _ => .ok _

end X500AttributePrincipalDecoder.Draft

namespace ResourceDraft

/-- The conditions on settings of any kind, in the order in which they are
looked at. -/
def conditions : ResourceDraft → List Condition
  | .authenticationConfiguration draft => draft.conditions
  | .clientSslContext draft => draft.conditions
  | .credentialStore draft => draft.conditions
  | .customRealm draft => draft.conditions
  | .filesystemRealm draft => draft.conditions
  | .httpAuthenticationFactory draft => draft.conditions
  | .securityDomain draft => draft.conditions
  | .x500AttributePrincipalDecoder draft => draft.conditions

/-- The name that the settings give. -/
def name : ResourceDraft → String
  | .authenticationConfiguration draft => draft.name
  | .clientSslContext draft => draft.name
  | .credentialStore draft => draft.name
  | .customRealm draft => draft.name
  | .filesystemRealm draft => draft.name
  | .httpAuthenticationFactory draft => draft.name
  | .securityDomain draft => draft.name
  | .x500AttributePrincipalDecoder draft => draft.name

theorem decidedBy_conditions (draft : ResourceDraft) :
    DecidedBy draft.conditions draft.command := by
  refine DecidedBy.map ?_ Resource.command
  cases draft with
  | authenticationConfiguration draft => exact draft.decidedBy_conditions.map _
  | clientSslContext draft => exact draft.decidedBy_conditions.map _
  | credentialStore draft => exact draft.decidedBy_conditions.map _
  | customRealm draft => exact draft.decidedBy_conditions.map _
  | filesystemRealm draft => exact draft.decidedBy_conditions.map _
  | httpAuthenticationFactory draft => exact draft.decidedBy_conditions.map _
  | securityDomain draft => exact draft.decidedBy_conditions.map _
  | x500AttributePrincipalDecoder draft =>
      exact draft.decidedBy_conditions.map _

end ResourceDraft

/-! ## Addresses -/

/-- The address of a resource as the constructors make it that refuse empty
texts. -/
def ResourceKind.checkedAddress (kind : ResourceKind) (name : String) :
    Except Segment.Fault Address := do
  let subsystem ← Address.subsystem "elytron"
  subsystem.child kind.text name

theorem ResourceKind.text_ne_empty (kind : ResourceKind) : kind.text ≠ "" := by
  cases kind <;> decide

/-- Nothing but an empty name keeps a resource from having an address. -/
theorem ResourceKind.checkedAddress_eq (kind : ResourceKind) (name : String) :
    kind.checkedAddress name =
      if name = "" then .error .emptyName
      else .ok ⟨[subsystemSegment], ⟨kind.text, name⟩⟩ := by
  change Except.map _ (Segment.make kind.text name) = _
  rw [Segment.make, if_neg kind.text_ne_empty]
  split <;> rfl

/-- The node of a command stands where the settings say, at an address that
the constructors make that refuse empty texts. -/
structure ResourceDraft.Places (draft : ResourceDraft) (command : Command) :
    Prop where
  kind : command.kind = draft.kind.text
  isMade : draft.kind.checkedAddress draft.name = .ok command.address
  text : command.address.text =
    "/subsystem=elytron/" ++ draft.kind.text ++ "=" ++ draft.name
  wellFormed : command.address.WellFormed
  locator : ∀ transform, command.offline = some transform →
    Address.subsystem "elytron" = .ok transform.locator

namespace ResourceDraft

variable {draft : ResourceDraft} {resource : Resource} {command : Command}

/-- A resource has the name that its settings give. -/
theorem name_of_build (built : draft.build = .ok resource) :
    resource.name.text = draft.name := by
  cases draft with
  | authenticationConfiguration draft =>
      exact (AuthenticationConfiguration.entry.built built).2.1
  | clientSslContext draft => exact (ClientSslContext.entry.built built).2.1
  | credentialStore draft => exact (CredentialStore.entry.built built).2.1
  | customRealm draft => exact (CustomRealm.entry.built built).2.1
  | filesystemRealm draft => exact (FilesystemRealm.entry.built built).2.1
  | httpAuthenticationFactory draft =>
      exact (HttpAuthenticationFactory.entry.built built).2.1
  | securityDomain draft => exact (SecurityDomain.entry.built built).2.1
  | x500AttributePrincipalDecoder draft =>
      exact (X500AttributePrincipalDecoder.entry.built built).2.1

theorem places_of_command (isMade : draft.command = .ok command) :
    draft.Places command := by
  obtain ⟨resource, built, rfl⟩ := map_eq_ok_iff.mp isMade
  have isKind := kind_of_build built
  have isName := name_of_build built
  have isAddress : draft.kind.checkedAddress draft.name =
      .ok resource.command.address := by
    rw [ResourceKind.checkedAddress_eq, ← isName, if_neg resource.name.given,
      ← isKind]
    rfl
  refine ⟨congrArg ResourceKind.text isKind, isAddress, ?_, ?_, ?_⟩
  · rw [← isKind, ← isName]
    simp [Resource.command, Resource.address, ResourceKind.address,
      Address.text, Address.segments, Segment.text, subsystemSegment,
      String.join, ← String.append_assoc]
  · obtain ⟨subsystem, isSubsystem, isBelow⟩ := bind_eq_ok_iff.mp isAddress
    exact (Address.wellFormed_of_root isSubsystem).child isBelow
  · intro transform isOffline
    rw [resource.offline_command] at isOffline
    obtain ⟨id, -, rfl⟩ := Option.map_eq_some_iff.mp isOffline
    rfl

end ResourceDraft

/-- Every command of a batch was made from an entry of the file. -/
theorem Configuration.exists_entry_of_mem_batch {line : CommandLine}
    {file : BatchFile} {configuration : Configuration}
    (resolved : resolve line file = .ok configuration) :
    ∀ command ∈ configuration.batch,
      ∃ entry ∈ file.entries, entry.command = .ok command := by
  have made := (resolve_eq_ok_iff.mp resolved).batch
  generalize file.entries = entries, configuration.batch = batch at made
  induction made with
  | nil => simp
  | cons isFirst _ inductionHypothesis =>
      refine List.forall_mem_cons.mpr ⟨⟨_, List.mem_cons_self, isFirst⟩, ?_⟩
      intro command isMember
      obtain ⟨entry, isEntry, isMade⟩ := inductionHypothesis command isMember
      exact ⟨entry, List.mem_cons_of_mem _ isEntry, isMade⟩

/-- **Settings are validated exactly, which makes every address safe.**

Settings of any kind make a command exactly where every condition of the kind
is met, and otherwise the first condition that is not met is told.  Without
the condition on the name, the constructors would refuse the address of the
node, and nothing else makes them do so.  Hence every command that settings
make, also one of a batch file, has the address `/subsystem=elytron/kind=name`,
no part of which is empty, and its offline form stands at the subsystem.  Its
attributes are made without any address. -/
theorem ResourceDraft.validation_makes_addresses_safe :
    (∀ draft : ResourceDraft,
      ((∃ command, draft.command = .ok command) ↔
        ∀ condition ∈ draft.conditions, condition.isMet) ∧
      DecidedBy draft.conditions draft.command ∧
      ((∃ address, draft.kind.checkedAddress draft.name = .ok address) ↔
        draft.name ≠ "") ∧
      ∀ command, draft.command = .ok command → draft.Places command) ∧
    ∀ line file configuration,
      Configuration.resolve line file = .ok configuration →
      ∀ command ∈ configuration.batch,
        ∃ entry ∈ file.entries, entry.Places command := by
  refine ⟨fun draft => ?_, fun line file configuration resolved => ?_⟩
  · refine ⟨draft.decidedBy_conditions.exists_ok_iff,
      draft.decidedBy_conditions, ?_, fun _ => places_of_command⟩
    rw [ResourceKind.checkedAddress_eq]
    by_cases isEmpty : draft.name = "" <;> simp [isEmpty]
  · intro command isMember
    obtain ⟨entry, isEntry, isMade⟩ :=
      Configuration.exists_entry_of_mem_batch resolved command isMember
    exact ⟨entry, isEntry, places_of_command isMade⟩

namespace ResourceDraft

/-- Settings of a domain with a realm. -/
def domainDraft : ResourceDraft :=
  .securityDomain
    { name := "apps"
      defaultRealm := some "ldap"
      realms := [{ realm := "ldap" }] }

/-- Settings of a factory with a realm that nobody named. -/
def unnamedRealmDraft : ResourceDraft :=
  .httpAuthenticationFactory
    { name := "web"
      securityDomain := some "apps"
      httpServerMechanismFactory := some "global"
      mechanismConfigurations := [{ }, { realms := [{ }] }] }

theorem validation_makes_addresses_safe_sample :
    (∃ command, domainDraft.command = .ok command ∧
      command.address.text = "/subsystem=elytron/security-domain=apps" ∧
      command.address.WellFormed) ∧
    unnamedRealmDraft.command = .error (.missing "realm-name") ∧
    ∃ configuration,
      Configuration.resolve { document := some "standalone.json" }
          { entries := [domainDraft] } = .ok configuration ∧
      ∀ command ∈ configuration.batch, command.address.WellFormed := by
  obtain ⟨ofDraft, ofBatch⟩ := validation_makes_addresses_safe
  refine ⟨?_, ?_, ?_⟩
  · obtain ⟨command_iff, -, -, places⟩ := ofDraft domainDraft
    obtain ⟨command, isMade⟩ := command_iff.mpr (by
      simp [domainDraft, conditions, SecurityDomain.Draft.conditions,
        Condition.named, Condition.given, Condition.filled])
    exact ⟨command, isMade, (places command isMade).text,
      (places command isMade).wellFormed⟩
  · obtain ⟨-, decided, -, -⟩ := ofDraft unnamedRealmDraft
    rw [decided]
    simp [unnamedRealmDraft, conditions,
      HttpAuthenticationFactory.Draft.conditions, FirstOf, Condition.Unmet,
      Condition.named, Condition.given, Condition.filled]
  · obtain ⟨configuration, resolved⟩ : ∃ configuration,
        Configuration.resolve { document := some "standalone.json" }
          { entries := [domainDraft] } = .ok configuration := ⟨_, rfl⟩
    refine ⟨configuration, resolved, fun command isMember => ?_⟩
    obtain ⟨entry, -, places⟩ := ofBatch _ _ _ resolved command isMember
    exact places.wellFormed

end ResourceDraft

end Provision
