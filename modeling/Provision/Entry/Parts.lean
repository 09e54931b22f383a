import Provision.Entry.Schema
import Provision.Resource.Mechanism
import Provision.Resource.Property
import Provision.Resource.SecurityDomain

/-!
Contract: the records that stand inside batch entries.

Owns:
- the shapes of credential references, properties, realm references,
  mechanisms and the realms of mechanisms;
- a reader for each of them.

Does not own: the entries themselves.
-/

namespace Provision.Datum

/-- The record of a credential reference, whose settings are checked as soon
as they are read. -/
def credentialShape : RecordShape CredentialReference :=
  let clearText := textField "clear-text"
  let store := textField "store"
  let key := textField "alias"
  let type := textField "type"
  { title := "struct CredentialReferenceBuilder"
    fields :=
      [clearText.optional, store.optional, key.optional, type.optional]
    surplusRefused := true
    make := fun members =>
      let draft : CredentialReference.Draft :=
        { clearText := clearText.get members
          store := store.get members
          key := key.get members
          type := type.get members }
      match draft.build with
      | .ok reference => .ok reference
      | .error cause => .error (.credential cause) }

def readCredential : DataReader CredentialReference :=
  credentialShape.read

/-- A field for a credential reference that may be left out. -/
def credentialField (name : String) : Field (Option CredentialReference) :=
  ⟨name, readOptional readCredential, none⟩

/-- The record of a property, of which nothing may be left out. -/
def propertyShape : RecordShape Property :=
  let name := nameField "name"
  let value := nameField "value"
  { title := "struct Property"
    fields := [name.needed, value.needed]
    surplusRefused := true
    make := fun members =>
      .ok { name := name.get members, value := value.get members } }

/-- The record of a realm to which a security domain refers. -/
def domainRealmShape : RecordShape DomainRealm :=
  let realm := nameField "realm"
  let principalTransformer := textField "principal-transformer"
  let roleDecoder := textField "role-decoder"
  { title := "struct Realm"
    fields :=
      [realm.optional, principalTransformer.optional, roleDecoder.optional]
    surplusRefused := true
    make := fun members =>
      .ok
        { realm := realm.get members
          principalTransformer := principalTransformer.get members
          roleDecoder := roleDecoder.get members } }

/-- The record of a realm that a mechanism offers. -/
def mechanismRealmShape : RecordShape MechanismRealm :=
  let realmName := nameField "realm-name"
  let preRealm := textField "pre-realm-principal-transformer"
  let postRealm := textField "post-realm-principal-transformer"
  let final := textField "final-principal-transformer"
  let realmMapper := textField "realm-mapper"
  { title := "struct MechanismRealm"
    fields :=
      [realmName.optional, preRealm.optional, postRealm.optional,
        final.optional, realmMapper.optional]
    surplusRefused := true
    make := fun members =>
      .ok
        { realmName := realmName.get members
          preRealmPrincipalTransformer := preRealm.get members
          postRealmPrincipalTransformer := postRealm.get members
          finalPrincipalTransformer := final.get members
          realmMapper := realmMapper.get members } }

def mechanismShape : RecordShape Mechanism :=
  let mechanismName := textField "mechanism-name"
  let hostName := textField "host-name"
  let protocol := textField "protocol"
  let preRealm := textField "pre-realm-principal-transformer"
  let postRealm := textField "post-realm-principal-transformer"
  let final := textField "final-principal-transformer"
  let realmMapper := textField "realm-mapper"
  let securityFactory := textField "credential-security-factory"
  let realms :=
    listField "mechanism-realm-configurations" mechanismRealmShape.read
  { title := "struct Mechanism"
    fields :=
      [mechanismName.optional, hostName.optional, protocol.optional,
        preRealm.optional, postRealm.optional, final.optional,
        realmMapper.optional, securityFactory.optional, realms.optional]
    surplusRefused := true
    make := fun members =>
      .ok
        { mechanismName := mechanismName.get members
          hostName := hostName.get members
          protocol := protocol.get members
          preRealmPrincipalTransformer := preRealm.get members
          postRealmPrincipalTransformer := postRealm.get members
          finalPrincipalTransformer := final.get members
          realmMapper := realmMapper.get members
          credentialSecurityFactory := securityFactory.get members
          realms := realms.get members } }

end Provision.Datum
