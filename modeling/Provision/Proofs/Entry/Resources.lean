import Provision.Command
import Provision.Entry.Draft
import Provision.Proofs.Entry.Parts

/-!
Contract: the settings of each kind of resource, and what is sent for them.

Owns:
- the order in which the attributes of a resource are sent;
- `EntryForm`, the laws that tie the entries of a kind to its resources;
- the entry form of each kind.

Does not own: what follows from the laws for entries and commands.
-/

namespace Provision

open ValueSet (present arrange fillAll)
open Datum (Setting Form slotsOf slotsIn)

/-! ## The order of the attributes -/

/-- The order of the attributes of a configuration.  The two flags stand with
the identities and the policies when they are on, and after them when they are
off. -/
def AuthenticationConfiguration.attributeOrder
    (anonymous allowAllMechanisms : Bool) : List String :=
  ["credential-reference", "extends", "authorization-name", "host",
    "protocol", "port", "realm", "authentication-name"] ++
  (if anonymous then ["anonymous"] else []) ++
  ["security-domain"] ++
  (if allowAllMechanisms then ["allow-all-mechanisms"] else []) ++
  ["allow-sasl-mechanisms"] ++
  (if anonymous then [] else ["anonymous"]) ++
  (if allowAllMechanisms then [] else ["allow-all-mechanisms"]) ++
  ["forbid-sasl-mechanisms", "mechanism-properties"]

/-- The order in which the attributes of a resource are sent. -/
def ResourceDraft.attributeOrder : ResourceDraft → List String
  | .authenticationConfiguration draft =>
      AuthenticationConfiguration.attributeOrder
        (draft.anonymous = some true) (draft.allowAllMechanisms = some true)
  | .clientSslContext _ =>
      ["cipher-suite-filter", "maximum-session-cache-size", "session-timeout",
        "key-managers", "trust-managers", "protocols", "providers",
        "provider-name"]
  | .credentialStore _ =>
      ["uri", "credential-reference", "type", "providers", "provider-name",
        "other-providers", "relative-to", "create", "modifiable"]
  | .customRealm _ => ["class-name", "module", "configuration"]
  | .filesystemRealm _ => ["path", "relative-to", "levels"]
  | .httpAuthenticationFactory _ =>
      ["security-domain", "http-server-mechanism-factory",
        "mechanism-configurations"]
  | .securityDomain _ =>
      ["default-realm", "realms", "permission-mapper", "role-mapper",
        "pre-realm-principal-transformer", "post-realm-principal-transformer",
        "trusted-security-domains", "outflow-security-domains"]
  | .x500AttributePrincipalDecoder _ =>
      ["oid", "joiner", "start-segment", "maximum-segments", "reverse",
        "required-oids"]

/-! ## Entries and their resources -/

/-- The member that names a resource. -/
def Datum.nameMember : String := "name"

/-- The member that says whether a resource gives way. -/
def Datum.replaceMember : String := "replace-existing"

/-- The members of an entry that are no attributes. -/
def Datum.directingMembers : List String :=
  [kindMember, nameMember, replaceMember]

/-- How the entries of a kind, the settings that they hold, and the resources
that are made from the settings belong together. -/
structure EntryForm (Draft : Type) where
  kind : ResourceKind
  shape : Datum.RecordShape Draft
  settings : List (Setting Draft)
  wrap : Draft → ResourceDraft
  name : Draft → String
  replaces : Draft → Bool
  readDraft_eq : ∀ datum,
    Datum.readDraft datum kind = (shape.read datum).map wrap
  fields_eq : shape.fields =
    (Datum.nameField Datum.nameMember).optional ::
      (settings.map fun setting => setting.field.optional) ++
      [(Datum.switchField Datum.replaceMember).optional]
  distinct : (Datum.directingMembers ++ settings.map Setting.name).Nodup
  mannered : ∀ setting ∈ settings,
    setting.form.manner = .ofName setting.name
  made : ∀ members, ∃ draft, shape.make members = .ok draft ∧
    name draft = (Datum.nameField Datum.nameMember).get members ∧
    replaces draft = (Datum.switchField Datum.replaceMember).get members ∧
    slotsOf settings draft = slotsIn settings members
  ordered : ∀ draft,
    (wrap draft).attributeOrder.Perm (settings.map Setting.name)
  /-- What is sent for a resource, and in which order. -/
  built : ∀ {draft : Draft} {resource : Resource},
    (wrap draft).build = .ok resource →
    resource.kind = kind ∧ resource.name.text = name draft ∧
      resource.replaceExisting = replaces draft ∧
      resource.values = present
        (arrange (wrap draft).attributeOrder (slotsOf settings draft))
  /-- Settings that send the same make a resource, too, and send it in the
  same order. -/
  rebuilt : ∀ {draft other : Draft} {resource : Resource},
    (wrap draft).build = .ok resource → name other = name draft →
    slotsOf settings other = slotsOf settings draft →
    (wrap other).attributeOrder = (wrap draft).attributeOrder ∧
      ∃ again, (wrap other).build = .ok again

namespace Datum

variable {Draft : Type} {settings : List (Setting Draft)}

/-- Slots that are filled in the order of the settings stand in that order. -/
theorem fillAll_eq_present_arrange
    (distinct : (settings.map Setting.name).Nodup) (draft : Draft) :
    fillAll ValueSet.empty (slotsOf settings draft) =
      present (arrange (settings.map Setting.name)
        (slotsOf settings draft)) := by
  rw [fillAll_slotsOf distinct, ← names_slotsOf draft,
    ValueSet.arrange_names (distinct_slotsOf distinct draft)]

/-- A text that is given is given by every draft for which the same is sent. -/
theorem text_of_slotsOf_eq {draft other : Draft}
    (sameSlots : slotsOf settings other = slotsOf settings draft)
    (name : String) {setting otherSetting : Option String} {text : String}
    (isHeld : ValueSet.held (slotsOf settings draft) name =
      Value.ofText? setting)
    (isOtherHeld : ValueSet.held (slotsOf settings other) name =
      Value.ofText? otherSetting)
    (given : setting = some text ∧ text ≠ "") :
    otherSetting = some text ∧ text ≠ "" := by
  obtain ⟨rfl, isGiven⟩ := given
  rw [sameSlots, isHeld] at isOtherHeld
  exact ⟨Value.eq_some_of_ofText?_eq isGiven isOtherHeld.symm, isGiven⟩

/-- A reference is given by every draft for which the same is sent. -/
theorem credential_of_slotsOf_eq {draft other : Draft}
    (sameSlots : slotsOf settings other = slotsOf settings draft)
    {setting otherSetting : Option CredentialReference}
    {reference : CredentialReference}
    (isHeld : ValueSet.held (slotsOf settings draft) credentialMember =
      Form.credential.shown setting)
    (isOtherHeld : ValueSet.held (slotsOf settings other) credentialMember =
      Form.credential.shown otherSetting)
    (given : setting = some reference) :
    ∃ otherReference, otherSetting = some otherReference := by
  rw [sameSlots, isHeld, given] at isOtherHeld
  cases otherSetting with
  | none => cases isOtherHeld
  | some otherReference => exact ⟨otherReference, rfl⟩

end Datum

/-! ## Resources of texts, flags, numbers and lists -/

namespace ClientSslContext

def settings : List (Setting Draft) :=
  [⟨"cipher-suite-filter", .text, fun draft => draft.cipherSuiteFilter⟩,
    ⟨"maximum-session-cache-size", .word32,
      fun draft => draft.maximumSessionCacheSize⟩,
    ⟨"session-timeout", .word32, fun draft => draft.sessionTimeout⟩,
    ⟨"key-managers", .text, fun draft => draft.keyManagers⟩,
    ⟨"trust-managers", .text, fun draft => draft.trustManagers⟩,
    ⟨"protocols", .list .text, fun draft => draft.protocols⟩,
    ⟨"providers", .text, fun draft => draft.providers⟩,
    ⟨"provider-name", .text, fun draft => draft.providerName⟩]

theorem Draft.values_of_build {draft : Draft} {context : ClientSslContext}
    (built : draft.build = .ok context) :
    context.values = fillAll ValueSet.empty (slotsOf settings draft) := by
  obtain ⟨name, -, rfl⟩ := build_eq_ok_iff.mp built
  simp only [values, ValueSet.setText_eq_fill, ValueSet.setNumber_eq_fill,
    ValueSet.setTexts_eq_fill, Value.ofNatural?_map]
  rfl

def entry : EntryForm Draft where
  kind := .clientSslContext
  shape := Datum.clientSslContextShape
  settings := settings
  wrap := .clientSslContext
  name := Draft.name
  replaces := Draft.replaceExisting
  readDraft_eq _ := rfl
  fields_eq := rfl
  distinct := by decide
  mannered := by decide
  made _ := ⟨_, rfl, rfl, rfl, rfl⟩
  ordered _ := .refl _
  built := by
    intro draft resource built
    obtain ⟨context, isMade, rfl⟩ := map_eq_ok_iff.mp built
    have isSent := Draft.values_of_build isMade
    obtain ⟨name, isName, rfl⟩ := Draft.build_eq_ok_iff.mp isMade
    exact ⟨rfl, isName, rfl,
      isSent.trans (Datum.fillAll_eq_present_arrange (by decide) draft)⟩
  rebuilt := by
    intro draft other resource built sameName _
    obtain ⟨context, isMade, -⟩ := map_eq_ok_iff.mp built
    obtain ⟨name, isName, -⟩ := Draft.build_eq_ok_iff.mp isMade
    have isMadeAgain := Draft.build_eq_ok_iff.mpr
      ⟨name, isName.trans sameName.symm, rfl⟩
    exact ⟨rfl, _, map_eq_ok_iff.mpr ⟨_, isMadeAgain, rfl⟩⟩

end ClientSslContext

namespace FilesystemRealm

def settings : List (Setting Draft) :=
  [⟨"path", .text, Draft.path⟩, ⟨"relative-to", .text, Draft.relativeTo⟩,
    ⟨"levels", .word32, Draft.levels⟩]

theorem Draft.values_of_build {draft : Draft} {realm : FilesystemRealm}
    (built : draft.build = .ok realm) :
    realm.values = fillAll ValueSet.empty (slotsOf settings draft) := by
  obtain ⟨name, -, path, ⟨isPath, given⟩, rfl⟩ := build_eq_ok_iff.mp built
  simp only [values, ValueSet.set_eq_fill, ValueSet.setText_eq_fill,
    ValueSet.setNumber_eq_fill, Value.ofNatural?_map,
    ← Value.ofText?_some given, ← isPath]
  rfl

def entry : EntryForm Draft where
  kind := .filesystemRealm
  shape := Datum.filesystemRealmShape
  settings := settings
  wrap := .filesystemRealm
  name := Draft.name
  replaces := Draft.replaceExisting
  readDraft_eq _ := rfl
  fields_eq := rfl
  distinct := by decide
  mannered := by decide
  made _ := ⟨_, rfl, rfl, rfl, rfl⟩
  ordered _ := .refl _
  built := by
    intro draft resource built
    obtain ⟨realm, isMade, rfl⟩ := map_eq_ok_iff.mp built
    have isSent := Draft.values_of_build isMade
    obtain ⟨name, isName, path, -, rfl⟩ := Draft.build_eq_ok_iff.mp isMade
    exact ⟨rfl, isName, rfl,
      isSent.trans (Datum.fillAll_eq_present_arrange (by decide) draft)⟩
  rebuilt := by
    intro draft other resource built sameName sameSlots
    obtain ⟨realm, isMade, -⟩ := map_eq_ok_iff.mp built
    obtain ⟨name, isName, path, isPath, -⟩ := Draft.build_eq_ok_iff.mp isMade
    have samePath := Datum.text_of_slotsOf_eq sameSlots "path" rfl rfl isPath
    have isMadeAgain := Draft.build_eq_ok_iff.mpr
      ⟨name, isName.trans sameName.symm, path, samePath, rfl⟩
    exact ⟨rfl, _, map_eq_ok_iff.mpr ⟨_, isMadeAgain, rfl⟩⟩

end FilesystemRealm

namespace X500AttributePrincipalDecoder

def settings : List (Setting Draft) :=
  [⟨"oid", .text, fun draft => draft.oid⟩,
    ⟨"joiner", .text, fun draft => draft.joiner⟩,
    ⟨"start-segment", .word32, fun draft => draft.startSegment⟩,
    ⟨"maximum-segments", .word32, fun draft => draft.maximumSegments⟩,
    ⟨"reverse", .flag, fun draft => draft.reverse⟩,
    ⟨"required-oids", .list .text, fun draft => draft.requiredOids⟩]

theorem Draft.values_of_build {draft : Draft}
    {decoder : X500AttributePrincipalDecoder}
    (built : draft.build = .ok decoder) :
    decoder.values = fillAll ValueSet.empty (slotsOf settings draft) := by
  obtain ⟨name, -, oid, ⟨isOid, given⟩, rfl⟩ := build_eq_ok_iff.mp built
  simp only [values, ValueSet.set_eq_fill, ValueSet.setText_eq_fill,
    ValueSet.setNumber_eq_fill, ValueSet.setBoolean_eq_fill,
    ValueSet.setTexts_eq_fill, Value.ofNatural?_map,
    ← Value.ofText?_some given, ← isOid]
  rfl

def entry : EntryForm Draft where
  kind := .x500AttributePrincipalDecoder
  shape := Datum.x500AttributePrincipalDecoderShape
  settings := settings
  wrap := .x500AttributePrincipalDecoder
  name := Draft.name
  replaces := Draft.replaceExisting
  readDraft_eq _ := rfl
  fields_eq := rfl
  distinct := by decide
  mannered := by decide
  made _ := ⟨_, rfl, rfl, rfl, rfl⟩
  ordered _ := .refl _
  built := by
    intro draft resource built
    obtain ⟨decoder, isMade, rfl⟩ := map_eq_ok_iff.mp built
    have isSent := Draft.values_of_build isMade
    obtain ⟨name, isName, oid, -, rfl⟩ := Draft.build_eq_ok_iff.mp isMade
    exact ⟨rfl, isName, rfl,
      isSent.trans (Datum.fillAll_eq_present_arrange (by decide) draft)⟩
  rebuilt := by
    intro draft other resource built sameName sameSlots
    obtain ⟨decoder, isMade, -⟩ := map_eq_ok_iff.mp built
    obtain ⟨name, isName, oid, isOid, -⟩ := Draft.build_eq_ok_iff.mp isMade
    have sameOid := Datum.text_of_slotsOf_eq sameSlots "oid" rfl rfl isOid
    have isMadeAgain := Draft.build_eq_ok_iff.mpr
      ⟨name, isName.trans sameName.symm, oid, sameOid, rfl⟩
    exact ⟨rfl, _, map_eq_ok_iff.mpr ⟨_, isMadeAgain, rfl⟩⟩

end X500AttributePrincipalDecoder

/-! ## Resources with free properties and with a credential -/

namespace CustomRealm

def settings : List (Setting Draft) :=
  [⟨"class-name", .text, Draft.className⟩, ⟨"module", .text, Draft.module⟩,
    ⟨"configuration", .properties, Draft.configuration⟩]

theorem Draft.values_of_build {draft : Draft} {realm : CustomRealm}
    (built : draft.build = .ok realm) :
    realm.values = fillAll ValueSet.empty (slotsOf settings draft) := by
  obtain ⟨name, -, className, ⟨isClass, given⟩, rfl⟩ :=
    build_eq_ok_iff.mp built
  simp only [values, ValueSet.set_eq_fill, ValueSet.setText_eq_fill,
    ValueSet.setNested_eq_fill, ← Value.ofText?_some given, ← isClass]
  rfl

def entry : EntryForm Draft where
  kind := .customRealm
  shape := Datum.customRealmShape
  settings := settings
  wrap := .customRealm
  name := Draft.name
  replaces := Draft.replaceExisting
  readDraft_eq _ := rfl
  fields_eq := rfl
  distinct := by decide
  mannered := by decide
  made _ := ⟨_, rfl, rfl, rfl, rfl⟩
  ordered _ := .refl _
  built := by
    intro draft resource built
    obtain ⟨realm, isMade, rfl⟩ := map_eq_ok_iff.mp built
    have isSent := Draft.values_of_build isMade
    obtain ⟨name, isName, className, -, rfl⟩ :=
      Draft.build_eq_ok_iff.mp isMade
    exact ⟨rfl, isName, rfl,
      isSent.trans (Datum.fillAll_eq_present_arrange (by decide) draft)⟩
  rebuilt := by
    intro draft other resource built sameName sameSlots
    obtain ⟨realm, isMade, -⟩ := map_eq_ok_iff.mp built
    obtain ⟨name, isName, className, isClass, -⟩ :=
      Draft.build_eq_ok_iff.mp isMade
    have sameClass :=
      Datum.text_of_slotsOf_eq sameSlots "class-name" rfl rfl isClass
    have isMadeAgain := Draft.build_eq_ok_iff.mpr
      ⟨name, isName.trans sameName.symm, className, sameClass, rfl⟩
    exact ⟨rfl, _, map_eq_ok_iff.mpr ⟨_, isMadeAgain, rfl⟩⟩

end CustomRealm

namespace CredentialStore

def settings : List (Setting Draft) :=
  [⟨"uri", .text, fun draft => draft.uri⟩,
    ⟨"credential-reference", .credential,
      fun draft => draft.credentialReference⟩,
    ⟨"type", .text, fun draft => draft.storeType⟩,
    ⟨"providers", .text, fun draft => draft.providers⟩,
    ⟨"provider-name", .text, fun draft => draft.providerName⟩,
    ⟨"other-providers", .text, fun draft => draft.otherProviders⟩,
    ⟨"relative-to", .text, fun draft => draft.relativeTo⟩,
    ⟨"create", .flag, fun draft => draft.create⟩,
    ⟨"modifiable", .flag, fun draft => draft.modifiable⟩]

theorem Draft.values_of_build {draft : Draft} {store : CredentialStore}
    (built : draft.build = .ok store) :
    store.values = fillAll ValueSet.empty (slotsOf settings draft) := by
  obtain ⟨name, -, uri, ⟨isUri, given⟩, -, reference, isReference, rfl⟩ :=
    build_eq_ok_iff.mp built
  simp only [values, ValueSet.set_eq_fill, ValueSet.setText_eq_fill,
    ValueSet.setBoolean_eq_fill, ← Value.ofText?_some given, ← isUri,
    ← Form.credential_shown_some, ← isReference]
  rfl

def entry : EntryForm Draft where
  kind := .credentialStore
  shape := Datum.credentialStoreShape
  settings := settings
  wrap := .credentialStore
  name := Draft.name
  replaces := Draft.replaceExisting
  readDraft_eq _ := rfl
  fields_eq := rfl
  distinct := by decide
  mannered := by decide
  made _ := ⟨_, rfl, rfl, rfl, rfl⟩
  ordered _ := .refl _
  built := by
    intro draft resource built
    obtain ⟨store, isMade, rfl⟩ := map_eq_ok_iff.mp built
    have isSent := Draft.values_of_build isMade
    obtain ⟨name, isName, uri, -, -, reference, -, rfl⟩ :=
      Draft.build_eq_ok_iff.mp isMade
    exact ⟨rfl, isName, rfl,
      isSent.trans (Datum.fillAll_eq_present_arrange (by decide) draft)⟩
  rebuilt := by
    intro draft other resource built sameName sameSlots
    obtain ⟨store, isMade, -⟩ := map_eq_ok_iff.mp built
    obtain ⟨name, isName, uri, isUri, starts, reference, isReference, -⟩ :=
      Draft.build_eq_ok_iff.mp isMade
    have sameUri := Datum.text_of_slotsOf_eq sameSlots "uri" rfl rfl isUri
    obtain ⟨otherReference, isOther⟩ :=
      Datum.credential_of_slotsOf_eq sameSlots rfl rfl isReference
    have isMadeAgain := Draft.build_eq_ok_iff.mpr
      ⟨name, isName.trans sameName.symm, uri, sameUri, starts, otherReference,
        isOther, rfl⟩
    exact ⟨rfl, _, map_eq_ok_iff.mpr ⟨_, isMadeAgain, rfl⟩⟩

end CredentialStore

/-! ## Resources with records -/

namespace HttpAuthenticationFactory

def settings : List (Setting Draft) :=
  [⟨"security-domain", .text, Draft.securityDomain⟩,
    ⟨"http-server-mechanism-factory", .text,
      Draft.httpServerMechanismFactory⟩,
    ⟨"mechanism-configurations", .list Mechanism.form.item,
      Draft.mechanismConfigurations⟩]

theorem Draft.values_of_build {draft : Draft}
    {factory : HttpAuthenticationFactory}
    (built : draft.build = .ok factory) :
    factory.values = fillAll ValueSet.empty (slotsOf settings draft) := by
  obtain ⟨name, -, domain, ⟨isDomain, givenDomain⟩, mechanism,
    ⟨isMechanism, givenMechanism⟩, named, rfl⟩ := build_eq_ok_iff.mp built
  have sameMechanisms : draft.mechanismConfigurations.map Mechanism.values =
      draft.mechanismConfigurations.map Mechanism.form.values :=
    List.map_congr_left fun mechanism isOne =>
      Mechanism.values_eq_present (named mechanism isOne)
  simp only [values, ValueSet.set_eq_fill, ValueSet.setGroups_eq_fill,
    ← Value.ofText?_some givenDomain, ← isDomain,
    ← Value.ofText?_some givenMechanism, ← isMechanism, sameMechanisms,
    List.map_map]
  rfl

def entry : EntryForm Draft where
  kind := .httpAuthenticationFactory
  shape := Datum.httpAuthenticationFactoryShape
  settings := settings
  wrap := .httpAuthenticationFactory
  name := Draft.name
  replaces := Draft.replaceExisting
  readDraft_eq _ := rfl
  fields_eq := rfl
  distinct := by decide
  mannered := by decide
  made _ := ⟨_, rfl, rfl, rfl, rfl⟩
  ordered _ := .refl _
  built := by
    intro draft resource built
    obtain ⟨factory, isMade, rfl⟩ := map_eq_ok_iff.mp built
    have isSent := Draft.values_of_build isMade
    obtain ⟨name, isName, domain, -, mechanism, -, -, rfl⟩ :=
      Draft.build_eq_ok_iff.mp isMade
    exact ⟨rfl, isName, rfl,
      isSent.trans (Datum.fillAll_eq_present_arrange (by decide) draft)⟩
  rebuilt := by
    intro draft other resource built sameName sameSlots
    obtain ⟨factory, isMade, -⟩ := map_eq_ok_iff.mp built
    obtain ⟨name, isName, domain, isDomain, mechanism, isMechanism, named,
      -⟩ := Draft.build_eq_ok_iff.mp isMade
    have sameDomain :=
      Datum.text_of_slotsOf_eq sameSlots "security-domain" rfl rfl isDomain
    have sameMechanism := Datum.text_of_slotsOf_eq sameSlots
      "http-server-mechanism-factory" rfl rfl isMechanism
    have sameConfigurations :
        (Form.list Mechanism.form.item).shown other.mechanismConfigurations =
          (Form.list Mechanism.form.item).shown
            draft.mechanismConfigurations :=
      congrArg (ValueSet.held · "mechanism-configurations") sameSlots
    have otherNamed : ∀ mechanism ∈ other.mechanismConfigurations,
        ∀ realm ∈ mechanism.realms, realm.realmName ≠ "" :=
      Form.forall_of_list_shown_eq sameConfigurations
        (fun sameShown =>
          Mechanism.named_of_values_eq (Value.nested.inj sameShown)) named
    have isMadeAgain := Draft.build_eq_ok_iff.mpr
      ⟨name, isName.trans sameName.symm, domain, sameDomain, mechanism,
        sameMechanism, otherNamed, rfl⟩
    exact ⟨rfl, _, map_eq_ok_iff.mpr ⟨_, isMadeAgain, rfl⟩⟩

end HttpAuthenticationFactory

namespace SecurityDomain

def settings : List (Setting Draft) :=
  [⟨"default-realm", .text, fun draft => draft.defaultRealm⟩,
    ⟨"realms", .list DomainRealm.form.item, fun draft => draft.realms⟩,
    ⟨"permission-mapper", .text, fun draft => draft.permissionMapper⟩,
    ⟨"role-mapper", .text, fun draft => draft.roleMapper⟩,
    ⟨"pre-realm-principal-transformer", .text,
      fun draft => draft.preRealmPrincipalTransformer⟩,
    ⟨"post-realm-principal-transformer", .text,
      fun draft => draft.postRealmPrincipalTransformer⟩,
    ⟨"trusted-security-domains", .list .text,
      fun draft => draft.trustedSecurityDomains⟩,
    ⟨"outflow-security-domains", .list .text,
      fun draft => draft.outflowSecurityDomains⟩]

theorem Draft.values_of_build {draft : Draft} {domain : SecurityDomain}
    (built : draft.build = .ok domain) :
    domain.values = fillAll ValueSet.empty (slotsOf settings draft) := by
  obtain ⟨name, -, realm, ⟨isRealm, given⟩, ⟨-, named⟩, rfl⟩ :=
    build_eq_ok_iff.mp built
  have sameRealms : draft.realms.map DomainRealm.values =
      draft.realms.map DomainRealm.form.values :=
    List.map_congr_left fun realm isOne =>
      DomainRealm.values_eq_present (named realm isOne)
  simp only [values, ValueSet.set_eq_fill, ValueSet.setText_eq_fill,
    ValueSet.setTexts_eq_fill, ValueSet.setGroups_eq_fill,
    ← Value.ofText?_some given, ← isRealm, sameRealms, List.map_map]
  rfl

def entry : EntryForm Draft where
  kind := .securityDomain
  shape := Datum.securityDomainShape
  settings := settings
  wrap := .securityDomain
  name := Draft.name
  replaces := Draft.replaceExisting
  readDraft_eq _ := rfl
  fields_eq := rfl
  distinct := by decide
  mannered := by decide
  made _ := ⟨_, rfl, rfl, rfl, rfl⟩
  ordered _ := .refl _
  built := by
    intro draft resource built
    obtain ⟨domain, isMade, rfl⟩ := map_eq_ok_iff.mp built
    have isSent := Draft.values_of_build isMade
    obtain ⟨name, isName, realm, -, -, rfl⟩ :=
      Draft.build_eq_ok_iff.mp isMade
    exact ⟨rfl, isName, rfl,
      isSent.trans (Datum.fillAll_eq_present_arrange (by decide) draft)⟩
  rebuilt := by
    intro draft other resource built sameName sameSlots
    obtain ⟨domain, isMade, -⟩ := map_eq_ok_iff.mp built
    obtain ⟨name, isName, realm, isRealm, ⟨isFilled, named⟩, -⟩ :=
      Draft.build_eq_ok_iff.mp isMade
    have sameDefault :=
      Datum.text_of_slotsOf_eq sameSlots "default-realm" rfl rfl isRealm
    have sameRealms : (Form.list DomainRealm.form.item).shown other.realms =
        (Form.list DomainRealm.form.item).shown draft.realms :=
      congrArg (ValueSet.held · "realms") sameSlots
    have otherFilled : other.realms ≠ [] := by
      intro isEmpty
      have noItems := Value.ofItems?_inj sameRealms
      rw [isEmpty, List.map_nil, eq_comm, List.map_eq_nil_iff] at noItems
      exact isFilled noItems
    have otherNamed : ∀ realm ∈ other.realms, realm.realm ≠ "" :=
      Form.forall_of_list_shown_eq sameRealms
        (fun sameShown =>
          DomainRealm.named_of_values_eq (Value.nested.inj sameShown)) named
    have isMadeAgain := Draft.build_eq_ok_iff.mpr
      ⟨name, isName.trans sameName.symm, realm, sameDefault,
        ⟨otherFilled, otherNamed⟩, rfl⟩
    exact ⟨rfl, _, map_eq_ok_iff.mpr ⟨_, isMadeAgain, rfl⟩⟩

end SecurityDomain

/-! ## Configurations for authentication -/

namespace AuthenticationConfiguration

def settings : List (Setting Draft) :=
  [⟨"credential-reference", .credential,
      fun draft => draft.credentialReference⟩,
    ⟨"authentication-name", .text, fun draft => draft.authenticationName⟩,
    ⟨"anonymous", .flag, fun draft => draft.anonymous⟩,
    ⟨"security-domain", .text, fun draft => draft.securityDomain⟩,
    ⟨"allow-all-mechanisms", .flag, fun draft => draft.allowAllMechanisms⟩,
    ⟨"allow-sasl-mechanisms", .list .text,
      fun draft => draft.allowSaslMechanisms⟩,
    ⟨"extends", .text, fun draft => draft.parent⟩,
    ⟨"authorization-name", .text, fun draft => draft.authorizationName⟩,
    ⟨"host", .text, fun draft => draft.host⟩,
    ⟨"protocol", .text, fun draft => draft.protocol⟩,
    ⟨"port", .word16, fun draft => draft.port⟩,
    ⟨"realm", .text, fun draft => draft.realm⟩,
    ⟨"forbid-sasl-mechanisms", .list .text,
      fun draft => draft.forbidSaslMechanisms⟩,
    ⟨"mechanism-properties", .properties,
      fun draft => draft.mechanismProperties⟩]

/-- What is sent for a flag in the place for one of its two states. -/
def flagged (state : Bool) (flag : Option Bool) : Option Value :=
  if flag = some state then some (.boolean state) else none

namespace Draft

theorem checkIdentity_eq_ok_iff {draft : Draft} :
    draft.checkIdentity = .ok () ↔
      ¬((given draft.authenticationName).isSome = true ∧
          draft.anonymous = some true) ∧
        ¬((given draft.authenticationName).isSome = true ∧
          (given draft.securityDomain).isSome = true) ∧
        ¬(draft.anonymous = some true ∧
          (given draft.securityDomain).isSome = true) := by
  simp only [checkIdentity, bind_eq_ok_iff, exclude_eq_ok_iff,
    Unique.exists_iff, PUnit.default_eq_unit, decide_eq_true_eq]

theorem checkPolicy_eq_ok_iff {draft : Draft} :
    draft.checkPolicy = .ok () ↔
      ¬(draft.allowAllMechanisms = some true ∧
        draft.allowSaslMechanisms ≠ []) := by
  simp [checkPolicy, exclude_eq_ok_iff]

/-- The one identity that is selected fills the slot of its name. -/
theorem addTo_identity {draft : Draft} (checked : draft.checkIdentity = .ok ())
    (values : ValueSet) :
    (draft.identity.elim values fun identity => identity.addTo values) =
      fillAll values
        [("authentication-name", Value.ofText? draft.authenticationName),
          ("anonymous", flagged true draft.anonymous),
          ("security-domain", Value.ofText? draft.securityDomain)] := by
  obtain ⟨notBoth, notEither, notAnonymous⟩ :=
    checkIdentity_eq_ok_iff.mp checked
  rw [Value.ofText?_eq_map_filter, Value.ofText?_eq_map_filter]
  change _ = fillAll values
    [("authentication-name", (given draft.authenticationName).map Value.text),
      ("anonymous", flagged true draft.anonymous),
      ("security-domain", (given draft.securityDomain).map Value.text)]
  -- No two identities are given, so all slots but the selected one are empty.
  cases isName : given draft.authenticationName with
  | some name =>
      have notOn : draft.anonymous ≠ some true := fun on =>
        notBoth ⟨by rw [isName]; rfl, on⟩
      have noDomain : given draft.securityDomain = none :=
        Option.not_isSome_iff_eq_none.mp fun isDomain =>
          notEither ⟨by rw [isName]; rfl, isDomain⟩
      rw [identity, isName, noDomain, flagged, if_neg notOn]
      rfl
  | none =>
      by_cases isOn : draft.anonymous = some true
      · have noDomain : given draft.securityDomain = none :=
          Option.not_isSome_iff_eq_none.mp fun isDomain =>
            notAnonymous ⟨isOn, isDomain⟩
        rw [identity, isName, isOn, noDomain]
        rfl
      · have selected : draft.identity =
            (given draft.securityDomain).map
              AuthenticationIdentity.securityDomain := by
          rw [identity, isName]
          split <;> simp_all
        rw [selected, flagged, if_neg isOn]
        cases given draft.securityDomain <;> rfl

/-- The one policy that is selected fills the slot of its name. -/
theorem addTo_mechanismPolicy {draft : Draft}
    (checked : draft.checkPolicy = .ok ()) (values : ValueSet) :
    (draft.mechanismPolicy.elim values fun policy => policy.addTo values) =
      fillAll values
        [("allow-all-mechanisms", flagged true draft.allowAllMechanisms),
          ("allow-sasl-mechanisms", Value.ofItems?
            (draft.allowSaslMechanisms.map Value.text))] := by
  have notBoth := checkPolicy_eq_ok_iff.mp checked
  by_cases allowsAll : draft.allowAllMechanisms = some true
  · have noList : draft.allowSaslMechanisms = [] :=
      not_not.mp fun isList => notBoth ⟨allowsAll, isList⟩
    rw [mechanismPolicy, if_pos allowsAll, flagged, if_pos allowsAll, noList]
    rfl
  · rw [mechanismPolicy, if_neg allowsAll, flagged, if_neg allowsAll]
    cases isList : draft.allowSaslMechanisms with
    | nil => rfl
    | cons first rest => rfl

/-- The slots of a draft in the order in which they are filled.  Each flag has
a place for either state. -/
def filledSlots (draft : Draft) : ValueSet.Slots :=
  let slots := slotsOf settings draft
  arrange ["credential-reference", "extends", "authorization-name", "host",
    "protocol", "port", "realm", "authentication-name"] slots ++
  [("anonymous", flagged true draft.anonymous)] ++
  arrange ["security-domain"] slots ++
  [("allow-all-mechanisms", flagged true draft.allowAllMechanisms)] ++
  arrange ["allow-sasl-mechanisms"] slots ++
  [("anonymous", flagged false draft.anonymous)] ++
  [("allow-all-mechanisms", flagged false draft.allowAllMechanisms)] ++
  arrange ["forbid-sasl-mechanisms", "mechanism-properties"] slots

/-- A flag that is on fills the first of its two places, and one that is off
fills the second. -/
theorem present_flagged (slots : ValueSet.Slots) (name : String)
    (flag : Option Bool)
    (isHeld : ValueSet.held slots name = Value.ofBoolean? flag) :
    present [(name, flagged true flag)] =
        present (arrange (if flag = some true then [name] else []) slots) ∧
      present [(name, flagged false flag)] =
        present (arrange (if flag = some true then [] else [name]) slots) := by
  unfold arrange
  rcases flag with _ | _ | _ <;> simp [flagged, isHeld, Value.ofBoolean?]

/-- Only one of the two places of a flag is filled, so the slots are those of
the settings in their order. -/
theorem present_filledSlots (draft : Draft) :
    present draft.filledSlots =
      present (arrange
        (attributeOrder (draft.anonymous = some true)
          (draft.allowAllMechanisms = some true))
        (slotsOf settings draft)) := by
  obtain ⟨anonymousOn, anonymousOff⟩ :=
    present_flagged (slotsOf settings draft) "anonymous" draft.anonymous rfl
  obtain ⟨allowAllOn, allowAllOff⟩ :=
    present_flagged (slotsOf settings draft) "allow-all-mechanisms"
      draft.allowAllMechanisms rfl
  simp only [filledSlots, attributeOrder, ValueSet.arrange_append,
    ValueSet.present_append, anonymousOn, anonymousOff, allowAllOn,
    allowAllOff, decide_eq_true_eq]

theorem values_of_build {draft : Draft}
    {configuration : AuthenticationConfiguration}
    (built : draft.build = .ok configuration) :
    configuration.values = fillAll ValueSet.empty draft.filledSlots := by
  obtain ⟨name, -, reference, isReference, identified, permitted, rfl⟩ :=
    build_eq_ok_iff.mp built
  have off : ∀ flag : Option Bool,
      Value.ofBoolean? (switchedOff (flag = some false)) =
        flagged false flag := by
    rintro (_ | _ | _) <;> rfl
  simp only [values, addTo_identity identified,
    addTo_mechanismPolicy permitted, ValueSet.set_eq_fill,
    ValueSet.setText_eq_fill, ValueSet.setNumber_eq_fill,
    ValueSet.setBoolean_eq_fill, ValueSet.setTexts_eq_fill,
    ValueSet.setNested_eq_fill, Value.ofNatural?_map, off,
    ← Form.credential_shown_some, ← isReference]
  rfl

/-- Drafts for which the same is sent select the same identity and the same
policy, if any. -/
theorem checks_of_slotsOf_eq {draft other : Draft}
    (sameSlots : slotsOf settings other = slotsOf settings draft)
    (identified : draft.checkIdentity = .ok ())
    (permitted : draft.checkPolicy = .ok ()) :
    other.anonymous = draft.anonymous ∧
      other.allowAllMechanisms = draft.allowAllMechanisms ∧
      other.checkIdentity = .ok () ∧ other.checkPolicy = .ok () := by
  have flag_inj : ∀ {flag otherFlag : Option Bool},
      Value.ofBoolean? otherFlag = Value.ofBoolean? flag →
        otherFlag = flag := by
    rintro (_ | _ | _) (_ | _ | _) same <;> first | rfl | cases same
  have sameName :
      given other.authenticationName = given draft.authenticationName :=
    Value.filter_eq_of_ofText?_eq
      (congrArg (ValueSet.held · "authentication-name") sameSlots)
  have sameDomain : given other.securityDomain = given draft.securityDomain :=
    Value.filter_eq_of_ofText?_eq
      (congrArg (ValueSet.held · "security-domain") sameSlots)
  have sameAnonymous : other.anonymous = draft.anonymous :=
    flag_inj (congrArg (ValueSet.held · "anonymous") sameSlots)
  have sameAllowAll : other.allowAllMechanisms = draft.allowAllMechanisms :=
    flag_inj (congrArg (ValueSet.held · "allow-all-mechanisms") sameSlots)
  have sameList : other.allowSaslMechanisms.map Value.text =
      draft.allowSaslMechanisms.map Value.text :=
    Value.ofItems?_inj
      (congrArg (ValueSet.held · "allow-sasl-mechanisms") sameSlots)
  have sameEmpty : other.allowSaslMechanisms = [] ↔
      draft.allowSaslMechanisms = [] := by
    rw [← List.map_eq_nil_iff, sameList, List.map_eq_nil_iff]
  refine ⟨sameAnonymous, sameAllowAll, ?_, ?_⟩
  · rw [checkIdentity_eq_ok_iff, sameName, sameDomain, sameAnonymous]
    exact checkIdentity_eq_ok_iff.mp identified
  · rw [checkPolicy_eq_ok_iff, sameAllowAll, ne_eq, sameEmpty]
    exact checkPolicy_eq_ok_iff.mp permitted

end Draft

theorem attributeOrder_perm (anonymous allowAllMechanisms : Bool) :
    (attributeOrder anonymous allowAllMechanisms).Perm
      (settings.map Setting.name) := by
  revert anonymous allowAllMechanisms
  decide

def entry : EntryForm Draft where
  kind := .authenticationConfiguration
  shape := Datum.authenticationConfigurationShape
  settings := settings
  wrap := .authenticationConfiguration
  name := Draft.name
  replaces := Draft.replaceExisting
  readDraft_eq _ := rfl
  fields_eq := rfl
  distinct := by decide
  mannered := by decide
  made _ := ⟨_, rfl, rfl, rfl, rfl⟩
  ordered _ := attributeOrder_perm _ _
  built := by
    intro draft resource built
    obtain ⟨configuration, isMade, rfl⟩ := map_eq_ok_iff.mp built
    have isSent := Draft.values_of_build isMade
    obtain ⟨name, isName, reference, -, -, -, rfl⟩ :=
      Draft.build_eq_ok_iff.mp isMade
    refine ⟨rfl, isName, rfl, ?_⟩
    have distinct : Members.Distinct (present draft.filledSlots) := by
      rw [Draft.present_filledSlots]
      refine ValueSet.distinct_present ?_
      rw [Members.Distinct, ValueSet.names_arrange]
      exact (attributeOrder_perm _ _).nodup_iff.mpr (by decide)
    exact isSent.trans ((ValueSet.fillAll_empty _ distinct).trans
      draft.present_filledSlots)
  rebuilt := by
    intro draft other resource built sameName sameSlots
    obtain ⟨configuration, isMade, -⟩ := map_eq_ok_iff.mp built
    obtain ⟨name, isName, reference, isReference, identified, permitted, -⟩ :=
      Draft.build_eq_ok_iff.mp isMade
    obtain ⟨sameAnonymous, sameAllowAll, alsoIdentified, alsoPermitted⟩ :=
      Draft.checks_of_slotsOf_eq sameSlots identified permitted
    obtain ⟨otherReference, isOther⟩ :=
      Datum.credential_of_slotsOf_eq sameSlots rfl rfl isReference
    have isMadeAgain := Draft.build_eq_ok_iff.mpr
      ⟨name, isName.trans sameName.symm, otherReference, isOther,
        alsoIdentified, alsoPermitted, rfl⟩
    refine ⟨?_, _, map_eq_ok_iff.mpr ⟨_, isMadeAgain, rfl⟩⟩
    rw [ResourceDraft.attributeOrder, ResourceDraft.attributeOrder,
      sameAnonymous, sameAllowAll]

end AuthenticationConfiguration

end Provision
