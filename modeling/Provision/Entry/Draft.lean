import Provision.Entry.Parts
import Provision.Resource.Draft

/-!
Contract: batch entries, the written form of the settings of a resource.

An entry is a record whose member `kind` selects the fields of all others, or
a sequence that begins with the kind.

Owns:
- the record shape of each kind;
- `readEntry`, which looks at the kind before anything else.

Does not own: the checks that settings must pass to make a resource.
-/

namespace Provision.Datum

def authenticationConfigurationShape :
    RecordShape AuthenticationConfiguration.Draft :=
  let name := nameField "name"
  let credentialReference := credentialField "credential-reference"
  let authenticationName := textField "authentication-name"
  let anonymous := booleanField "anonymous"
  let securityDomain := textField "security-domain"
  let allowAllMechanisms := booleanField "allow-all-mechanisms"
  let allowSaslMechanisms := textsField "allow-sasl-mechanisms"
  let parent := textField "extends"
  let authorizationName := textField "authorization-name"
  let host := textField "host"
  let protocol := textField "protocol"
  let port : Field (Option UInt16) := ⟨"port", readOptional readWord16, none⟩
  let realm := textField "realm"
  let forbidSaslMechanisms := textsField "forbid-sasl-mechanisms"
  let mechanismProperties :=
    listField "mechanism-properties" propertyShape.read
  let replaceExisting := switchField "replace-existing"
  { title := ResourceKind.authenticationConfiguration.text
    fields :=
      [name.optional, credentialReference.optional,
        authenticationName.optional, anonymous.optional,
        securityDomain.optional, allowAllMechanisms.optional,
        allowSaslMechanisms.optional, parent.optional,
        authorizationName.optional, host.optional, protocol.optional,
        port.optional, realm.optional, forbidSaslMechanisms.optional,
        mechanismProperties.optional, replaceExisting.optional]
    surplusRefused := true
    make := fun members =>
      .ok
        { name := name.get members
          credentialReference := credentialReference.get members
          authenticationName := authenticationName.get members
          anonymous := anonymous.get members
          securityDomain := securityDomain.get members
          allowAllMechanisms := allowAllMechanisms.get members
          allowSaslMechanisms := allowSaslMechanisms.get members
          parent := parent.get members
          authorizationName := authorizationName.get members
          host := host.get members
          protocol := protocol.get members
          port := port.get members
          realm := realm.get members
          forbidSaslMechanisms := forbidSaslMechanisms.get members
          mechanismProperties := mechanismProperties.get members
          replaceExisting := replaceExisting.get members } }

def clientSslContextShape : RecordShape ClientSslContext.Draft :=
  let name := nameField "name"
  let cipherSuiteFilter := textField "cipher-suite-filter"
  let maximumSessionCacheSize := word32Field "maximum-session-cache-size"
  let sessionTimeout := word32Field "session-timeout"
  let keyManagers := textField "key-managers"
  let trustManagers := textField "trust-managers"
  let protocols := textsField "protocols"
  let providers := textField "providers"
  let providerName := textField "provider-name"
  let replaceExisting := switchField "replace-existing"
  { title := ResourceKind.clientSslContext.text
    fields :=
      [name.optional, cipherSuiteFilter.optional,
        maximumSessionCacheSize.optional, sessionTimeout.optional,
        keyManagers.optional, trustManagers.optional, protocols.optional,
        providers.optional, providerName.optional, replaceExisting.optional]
    surplusRefused := true
    make := fun members =>
      .ok
        { name := name.get members
          cipherSuiteFilter := cipherSuiteFilter.get members
          maximumSessionCacheSize := maximumSessionCacheSize.get members
          sessionTimeout := sessionTimeout.get members
          keyManagers := keyManagers.get members
          trustManagers := trustManagers.get members
          protocols := protocols.get members
          providers := providers.get members
          providerName := providerName.get members
          replaceExisting := replaceExisting.get members } }

def credentialStoreShape : RecordShape CredentialStore.Draft :=
  let name := nameField "name"
  let uri := textField "uri"
  let credentialReference := credentialField "credential-reference"
  let storeType := textField "type"
  let providers := textField "providers"
  let providerName := textField "provider-name"
  let otherProviders := textField "other-providers"
  let relativeTo := textField "relative-to"
  let create := booleanField "create"
  let modifiable := booleanField "modifiable"
  let replaceExisting := switchField "replace-existing"
  { title := ResourceKind.credentialStore.text
    fields :=
      [name.optional, uri.optional, credentialReference.optional,
        storeType.optional, providers.optional, providerName.optional,
        otherProviders.optional, relativeTo.optional, create.optional,
        modifiable.optional, replaceExisting.optional]
    surplusRefused := true
    make := fun members =>
      .ok
        { name := name.get members
          uri := uri.get members
          credentialReference := credentialReference.get members
          storeType := storeType.get members
          providers := providers.get members
          providerName := providerName.get members
          otherProviders := otherProviders.get members
          relativeTo := relativeTo.get members
          create := create.get members
          modifiable := modifiable.get members
          replaceExisting := replaceExisting.get members } }

def customRealmShape : RecordShape CustomRealm.Draft :=
  let name := nameField "name"
  let className := textField "class-name"
  let module := textField "module"
  let configuration := listField "configuration" propertyShape.read
  let replaceExisting := switchField "replace-existing"
  { title := ResourceKind.customRealm.text
    fields :=
      [name.optional, className.optional, module.optional,
        configuration.optional, replaceExisting.optional]
    surplusRefused := true
    make := fun members =>
      .ok
        { name := name.get members
          className := className.get members
          module := module.get members
          configuration := configuration.get members
          replaceExisting := replaceExisting.get members } }

def filesystemRealmShape : RecordShape FilesystemRealm.Draft :=
  let name := nameField "name"
  let path := textField "path"
  let relativeTo := textField "relative-to"
  let levels := word32Field "levels"
  let replaceExisting := switchField "replace-existing"
  { title := ResourceKind.filesystemRealm.text
    fields :=
      [name.optional, path.optional, relativeTo.optional, levels.optional,
        replaceExisting.optional]
    surplusRefused := true
    make := fun members =>
      .ok
        { name := name.get members
          path := path.get members
          relativeTo := relativeTo.get members
          levels := levels.get members
          replaceExisting := replaceExisting.get members } }

/-- The record of a factory of mechanisms. -/
def httpAuthenticationFactoryShape :
    RecordShape HttpAuthenticationFactory.Draft :=
  let name := nameField "name"
  let securityDomain := textField "security-domain"
  let mechanismFactory := textField "http-server-mechanism-factory"
  let mechanismConfigurations :=
    listField "mechanism-configurations" mechanismShape.read
  let replaceExisting := switchField "replace-existing"
  { title := ResourceKind.httpAuthenticationFactory.text
    fields :=
      [name.optional, securityDomain.optional, mechanismFactory.optional,
        mechanismConfigurations.optional, replaceExisting.optional]
    surplusRefused := true
    make := fun members =>
      .ok
        { name := name.get members
          securityDomain := securityDomain.get members
          httpServerMechanismFactory := mechanismFactory.get members
          mechanismConfigurations := mechanismConfigurations.get members
          replaceExisting := replaceExisting.get members } }

def securityDomainShape : RecordShape SecurityDomain.Draft :=
  let name := nameField "name"
  let defaultRealm := textField "default-realm"
  let realms := listField "realms" domainRealmShape.read
  let permissionMapper := textField "permission-mapper"
  let roleMapper := textField "role-mapper"
  let preRealm := textField "pre-realm-principal-transformer"
  let postRealm := textField "post-realm-principal-transformer"
  let trusted := textsField "trusted-security-domains"
  let outflow := textsField "outflow-security-domains"
  let replaceExisting := switchField "replace-existing"
  { title := ResourceKind.securityDomain.text
    fields :=
      [name.optional, defaultRealm.optional, realms.optional,
        permissionMapper.optional, roleMapper.optional, preRealm.optional,
        postRealm.optional, trusted.optional, outflow.optional,
        replaceExisting.optional]
    surplusRefused := true
    make := fun members =>
      .ok
        { name := name.get members
          defaultRealm := defaultRealm.get members
          realms := realms.get members
          permissionMapper := permissionMapper.get members
          roleMapper := roleMapper.get members
          preRealmPrincipalTransformer := preRealm.get members
          postRealmPrincipalTransformer := postRealm.get members
          trustedSecurityDomains := trusted.get members
          outflowSecurityDomains := outflow.get members
          replaceExisting := replaceExisting.get members } }

/-- The record of a decoder of X.500 attributes. -/
def x500AttributePrincipalDecoderShape :
    RecordShape X500AttributePrincipalDecoder.Draft :=
  let name := nameField "name"
  let oid := textField "oid"
  let joiner := textField "joiner"
  let startSegment := word32Field "start-segment"
  let maximumSegments := word32Field "maximum-segments"
  let reverse := booleanField "reverse"
  let requiredOids := textsField "required-oids"
  let replaceExisting := switchField "replace-existing"
  { title := ResourceKind.x500AttributePrincipalDecoder.text
    fields :=
      [name.optional, oid.optional, joiner.optional, startSegment.optional,
        maximumSegments.optional, reverse.optional, requiredOids.optional,
        replaceExisting.optional]
    surplusRefused := true
    make := fun members =>
      .ok
        { name := name.get members
          oid := oid.get members
          joiner := joiner.get members
          startSegment := startSegment.get members
          maximumSegments := maximumSegments.get members
          reverse := reverse.get members
          requiredOids := requiredOids.get members
          replaceExisting := replaceExisting.get members } }

def readKind : DataReader ResourceKind
  | .text value =>
      match ResourceKind.ofText? value with
      | some kind => .ok kind
      | none =>
          .error (.unknownVariant value (ResourceKind.all.map fun kind =>
            kind.text))
  | found => .error (.wrongType found "variant identifier")

/-- The settings of a resource of a kind. -/
def readDraft (datum : Datum) : ResourceKind → Except Fault ResourceDraft
  | .authenticationConfiguration =>
      (authenticationConfigurationShape.read datum).map
        .authenticationConfiguration
  | .clientSslContext =>
      (clientSslContextShape.read datum).map .clientSslContext
  | .credentialStore => (credentialStoreShape.read datum).map .credentialStore
  | .customRealm => (customRealmShape.read datum).map .customRealm
  | .filesystemRealm => (filesystemRealmShape.read datum).map .filesystemRealm
  | .httpAuthenticationFactory =>
      (httpAuthenticationFactoryShape.read datum).map
        .httpAuthenticationFactory
  | .securityDomain => (securityDomainShape.read datum).map .securityDomain
  | .x500AttributePrincipalDecoder =>
      (x500AttributePrincipalDecoderShape.read datum).map
        .x500AttributePrincipalDecoder

/-- The member that names the kind of an entry. -/
def kindMember : String := "kind"

def readEntry : DataReader ResourceDraft
  | .record members => do
      match Members.get? kindMember members with
      | none => .error (.missingField kindMember)
      | some written =>
          let kind ← readKind written
          readDraft (.record (Members.erase kindMember members)) kind
  | .sequence [] => .error (.missingField kindMember)
  | .sequence (first :: rest) => do
      let kind ← readKind first
      readDraft (.sequence rest) kind
  | found =>
      .error (.wrongType found "internally tagged enum CommandEntry")

end Provision.Datum
