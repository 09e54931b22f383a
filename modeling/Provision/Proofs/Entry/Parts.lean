import Provision.Proofs.Entry.Writings

/-!
Contract: the forms of the records that stand inside entries.

What is sent for a realm is stated for realms without a name, too, which send
no name.  A resource is not made with such a realm, so the two agree on all
that is ever sent.

Owns:
- records as settings and as items of lists;
- the settings of credential references, of the realms of a security domain,
  of mechanisms and of their realms;
- what is sent for each of them.

Does not own: the settings of a resource.
-/

namespace Provision

open ValueSet (present)

namespace Datum

/-! ## Records as settings and as items -/

section RecordForm

variable {α Draft : Type} (form : RecordForm α Draft)

def RecordForm.item : ItemForm α where
  read := form.shape.read
  shown value := .nested (form.values value)
  renders read isRecord keyed := (form.renders read isRecord keyed).1
  rereads read := by
    obtain ⟨again, readAgain, sameValues⟩ := form.rereads read
    exact ⟨again, readAgain, congrArg Value.nested sameValues⟩
  reorders read isRecord keyed reordered := by
    obtain ⟨again, readAgain, sameValues⟩ :=
      form.reorders read isRecord keyed reordered
    exact ⟨again, readAgain, congrArg Value.nested sameValues⟩

def RecordForm.writing : Writing α where
  read := form.shape.read
  shown value := some (.nested (form.values value))
  manner := .record
  renders := by
    intro datum value read keyed
    obtain ⟨isRecord, keyed⟩ := isKeyedAs_record_iff.mp keyed
    obtain ⟨alike, isSet⟩ := form.renders read isRecord keyed
    rw [sent?, isSet]
    exact .some ⟨alike, nofun⟩
  rereads := by
    rintro datum value _ read ⟨⟩
    obtain ⟨again, readAgain, sameValues⟩ := form.rereads read
    refine ⟨again, ?_, by rw [sameValues]⟩
    rw [Manner.relisted]
    · exact readAgain
    · nofun
  reorders := by
    intro datum other value read keyed reordered
    obtain ⟨isRecord, keyed⟩ := isKeyedAs_record_iff.mp keyed
    obtain ⟨again, readAgain, sameValues⟩ :=
      form.reorders read isRecord keyed reordered
    exact ⟨again, readAgain, by rw [sameValues]⟩

end RecordForm

end Datum

open Datum (Form RecordForm slotsOf slotsIn)

/-! ## Credential references -/

namespace CredentialReference

def settings : List (Datum.Setting Draft) :=
  [⟨"clear-text", .text, Draft.clearText⟩, ⟨"store", .text, Draft.store⟩,
    ⟨"alias", .text, Draft.key⟩, ⟨"type", .text, Draft.type⟩]

namespace Draft

theorem slotsOf_settings (draft : Draft) :
    slotsOf settings draft =
      [("clear-text", (given draft.clearText).map Value.text),
        ("store", (given draft.store).map Value.text),
        ("alias", (given draft.key).map Value.text),
        ("type", (given draft.type).map Value.text)] := by
  simp only [given, ← Value.ofText?_eq_map_filter]
  rfl

/-- A reference sends the settings that are given. -/
theorem values_of_build {draft : Draft} {reference : CredentialReference}
    (built : draft.build = .ok reference) :
    reference.values = present (slotsOf settings draft) := by
  rw [slotsOf_settings]
  unfold build at built
  split at built
  case h_1 secret isSecret noStore noKey noType =>
      cases built
      rw [isSecret, noStore, noKey, noType]
      rfl
  case h_3 name key type noSecret isStore isKey =>
      cases built
      rw [noSecret, isStore, isKey]
      cases isType : given draft.type with
      | none => rfl
      | some text =>
          have isGiven : text ≠ "" := by
            simpa using (Option.filter_eq_some_iff.mp isType).2
          rw [values, ValueSet.setText_eq_fill, Value.ofText?,
            Option.bind_some, Value.ofText_of_ne isGiven]
          rfl
  case h_6 type noSecret noStore noKey isType =>
      cases built
      rw [noSecret, noStore, noKey, isType]
      rfl
  all_goals cases built

/-- Drafts that send the same make the same reference. -/
theorem build_congr {draft other : Draft}
    (sameSlots : slotsOf settings other = slotsOf settings draft) :
    other.build = draft.build := by
  simp only [slotsOf, settings, List.map_cons, List.map_nil, List.cons.injEq,
    Datum.Setting.slot, Prod.mk.injEq, true_and, and_true] at sameSlots
  obtain ⟨clearText, store, key, type⟩ := sameSlots
  have sameGiven : ∀ {setting otherSetting : Option String},
      Value.ofText? otherSetting = Value.ofText? setting →
        given otherSetting = given setting :=
    Value.filter_eq_of_ofText?_eq
  rw [build, build, sameGiven clearText, sameGiven store, sameGiven key,
    sameGiven type]

end Draft

/-- The settings that the members of a record hold. -/
def draftIn (members : Members Datum) : Draft where
  clearText := (Datum.textField "clear-text").get members
  store := (Datum.textField "store").get members
  key := (Datum.textField "alias").get members
  type := (Datum.textField "type").get members

theorem slotsIn_settings (members : Members Datum) :
    slotsIn settings members = slotsOf settings (draftIn members) := rfl

theorem make_eq_ok_iff {members : Members Datum}
    {reference : CredentialReference} :
    Datum.credentialShape.make members = .ok reference ↔
      (draftIn members).build = .ok reference := by
  cases built : (draftIn members).build with
  | ok _ =>
      rw [draftIn] at built
      simp only [Datum.credentialShape, built, Except.ok.injEq]
  | error _ =>
      rw [draftIn] at built
      simp only [Datum.credentialShape, built, reduceCtorEq]

def form : RecordForm CredentialReference Draft where
  shape := Datum.credentialShape
  settings := settings
  values := values
  fields_eq := rfl
  distinct := by decide
  plain := by decide
  made := by
    intro members reference isMade
    rw [slotsIn_settings]
    exact Draft.values_of_build (make_eq_ok_iff.mp isMade)
  remade := by
    intro members others reference isMade sameSlots
    rw [slotsIn_settings, slotsIn_settings] at sameSlots
    refine ⟨reference, make_eq_ok_iff.mpr ?_⟩
    rw [Draft.build_congr sameSlots]
    exact make_eq_ok_iff.mp isMade

end CredentialReference

/-- A credential reference that may be left out or be null. -/
def Datum.Form.credential : Form (Option CredentialReference) :=
  CredentialReference.form.writing.optional fun _ impossible =>
    nomatch impossible

theorem Datum.Form.credential_shown_some (reference : CredentialReference) :
    credential.shown (some reference) = some (.nested reference.values) := rfl

/-! ## Realms and mechanisms -/

namespace DomainRealm

def settings : List (Datum.Setting DomainRealm) :=
  [⟨"realm", .name, realm⟩,
    ⟨"principal-transformer", .text, principalTransformer⟩,
    ⟨"role-decoder", .text, roleDecoder⟩]

def form : RecordForm DomainRealm DomainRealm where
  shape := Datum.domainRealmShape
  settings := settings
  values realm := present (slotsOf settings realm)
  fields_eq := rfl
  distinct := by decide
  plain := by decide
  made := by rintro members _ ⟨⟩; rfl
  remade _ _ := ⟨_, rfl⟩

/-- A realm that is named sends its settings. -/
theorem values_eq_present {realm : DomainRealm} (named : realm.realm ≠ "") :
    realm.values = form.values realm := by
  have isFilled : realm.values =
      ValueSet.fillAll ValueSet.empty (slotsOf settings realm) := by
    simp only [values, ValueSet.set_eq_fill, ValueSet.setText_eq_fill,
      ← Value.ofText_of_ne named]
    rfl
  rw [isFilled]
  exact Datum.fillAll_slotsOf form.distinct realm

/-- Realms for which the same is sent are named alike. -/
theorem named_of_values_eq {realm other : DomainRealm}
    (same : form.values other = form.values realm)
    (named : realm.realm ≠ "") : other.realm ≠ "" := by
  have sameName : Value.ofText other.realm = Value.ofText realm.realm :=
    Datum.held_eq_of_present_eq form.distinct same "realm"
  rw [Value.eq_of_ofText_eq named sameName]
  exact named

end DomainRealm

namespace MechanismRealm

def settings : List (Datum.Setting MechanismRealm) :=
  [⟨"realm-name", .name, realmName⟩,
    ⟨"pre-realm-principal-transformer", .text, preRealmPrincipalTransformer⟩,
    ⟨"post-realm-principal-transformer", .text, postRealmPrincipalTransformer⟩,
    ⟨"final-principal-transformer", .text, finalPrincipalTransformer⟩,
    ⟨"realm-mapper", .text, realmMapper⟩]

def form : RecordForm MechanismRealm MechanismRealm where
  shape := Datum.mechanismRealmShape
  settings := settings
  values realm := present (slotsOf settings realm)
  fields_eq := rfl
  distinct := by decide
  plain := by decide
  made := by rintro members _ ⟨⟩; rfl
  remade _ _ := ⟨_, rfl⟩

theorem values_eq_present {realm : MechanismRealm}
    (named : realm.realmName ≠ "") : realm.values = form.values realm := by
  have isFilled : realm.values =
      ValueSet.fillAll ValueSet.empty (slotsOf settings realm) := by
    simp only [values, ValueSet.set_eq_fill, ValueSet.setText_eq_fill,
      ← Value.ofText_of_ne named]
    rfl
  rw [isFilled]
  exact Datum.fillAll_slotsOf form.distinct realm

theorem named_of_values_eq {realm other : MechanismRealm}
    (same : form.values other = form.values realm)
    (named : realm.realmName ≠ "") : other.realmName ≠ "" := by
  have sameName :
      Value.ofText other.realmName = Value.ofText realm.realmName :=
    Datum.held_eq_of_present_eq form.distinct same "realm-name"
  rw [Value.eq_of_ofText_eq named sameName]
  exact named

end MechanismRealm

namespace Mechanism

def settings : List (Datum.Setting Mechanism) :=
  [⟨"mechanism-name", .text, mechanismName⟩,
    ⟨"host-name", .text, hostName⟩,
    ⟨"protocol", .text, protocol⟩,
    ⟨"pre-realm-principal-transformer", .text, preRealmPrincipalTransformer⟩,
    ⟨"post-realm-principal-transformer", .text, postRealmPrincipalTransformer⟩,
    ⟨"final-principal-transformer", .text, finalPrincipalTransformer⟩,
    ⟨"realm-mapper", .text, realmMapper⟩,
    ⟨"credential-security-factory", .text, credentialSecurityFactory⟩,
    ⟨"mechanism-realm-configurations", .list MechanismRealm.form.item, realms⟩]

def form : RecordForm Mechanism Mechanism where
  shape := Datum.mechanismShape
  settings := settings
  values mechanism := present (slotsOf settings mechanism)
  fields_eq := rfl
  distinct := by decide
  plain := by decide
  made := by rintro members _ ⟨⟩; rfl
  remade _ _ := ⟨_, rfl⟩

theorem values_eq_present {mechanism : Mechanism}
    (named : ∀ realm ∈ mechanism.realms, realm.realmName ≠ "") :
    mechanism.values = form.values mechanism := by
  have sameRealms : mechanism.realms.map MechanismRealm.values =
      mechanism.realms.map MechanismRealm.form.values :=
    List.map_congr_left fun realm isRealm =>
      MechanismRealm.values_eq_present (named realm isRealm)
  have isFilled : mechanism.values =
      ValueSet.fillAll ValueSet.empty (slotsOf settings mechanism) := by
    simp only [values, ValueSet.setText_eq_fill, ValueSet.setGroups_eq_fill,
      sameRealms, List.map_map]
    rfl
  rw [isFilled]
  exact Datum.fillAll_slotsOf form.distinct mechanism

/-- The realms of mechanisms for which the same is sent are named alike. -/
theorem named_of_values_eq {mechanism other : Mechanism}
    (same : form.values other = form.values mechanism)
    (named : ∀ realm ∈ mechanism.realms, realm.realmName ≠ "") :
    ∀ realm ∈ other.realms, realm.realmName ≠ "" := by
  have sameRealms : (Form.list MechanismRealm.form.item).shown other.realms =
      (Form.list MechanismRealm.form.item).shown mechanism.realms :=
    Datum.held_eq_of_present_eq form.distinct same
      "mechanism-realm-configurations"
  exact Form.forall_of_list_shown_eq sameRealms
    (fun sameShown =>
      MechanismRealm.named_of_values_eq (Value.nested.inj sameShown)) named

end Mechanism

end Provision
