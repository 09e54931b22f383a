import Provision.Resource.AuthenticationConfiguration
import Provision.Resource.ClientSslContext
import Provision.Resource.CredentialStore
import Provision.Resource.CustomRealm
import Provision.Resource.FilesystemRealm
import Provision.Resource.HttpAuthenticationFactory
import Provision.Resource.SecurityDomain
import Provision.Resource.X500AttributePrincipalDecoder

/-!
Contract: resources of every kind, and the settings that make them.

Owns:
- `Resource` and `ResourceDraft`, the sums over the kinds;
- the kind, the address, the attributes and the replace flag of a resource;
- `ResourceDraft.build`, which keeps the kind.

Does not own: the fields and checks of a single kind.
-/

namespace Provision

/-- The settings from which a resource of some kind is made. -/
inductive ResourceDraft where
  | authenticationConfiguration (draft : AuthenticationConfiguration.Draft)
  | clientSslContext (draft : ClientSslContext.Draft)
  | credentialStore (draft : CredentialStore.Draft)
  | customRealm (draft : CustomRealm.Draft)
  | filesystemRealm (draft : FilesystemRealm.Draft)
  | httpAuthenticationFactory (draft : HttpAuthenticationFactory.Draft)
  | securityDomain (draft : SecurityDomain.Draft)
  | x500AttributePrincipalDecoder (draft : X500AttributePrincipalDecoder.Draft)
deriving DecidableEq, Repr

/-- A resource of some kind. -/
inductive Resource where
  | authenticationConfiguration (resource : AuthenticationConfiguration)
  | clientSslContext (resource : ClientSslContext)
  | credentialStore (resource : CredentialStore)
  | customRealm (resource : CustomRealm)
  | filesystemRealm (resource : FilesystemRealm)
  | httpAuthenticationFactory (resource : HttpAuthenticationFactory)
  | securityDomain (resource : SecurityDomain)
  | x500AttributePrincipalDecoder (resource : X500AttributePrincipalDecoder)
deriving DecidableEq, Repr

namespace ResourceDraft

/-- The kind of resource that the settings are for. -/
def kind : ResourceDraft → ResourceKind
  | .authenticationConfiguration _ => .authenticationConfiguration
  | .clientSslContext _ => .clientSslContext
  | .credentialStore _ => .credentialStore
  | .customRealm _ => .customRealm
  | .filesystemRealm _ => .filesystemRealm
  | .httpAuthenticationFactory _ => .httpAuthenticationFactory
  | .securityDomain _ => .securityDomain
  | .x500AttributePrincipalDecoder _ => .x500AttributePrincipalDecoder

def build : ResourceDraft → Except BuildError Resource
  | .authenticationConfiguration draft =>
      draft.build.map .authenticationConfiguration
  | .clientSslContext draft => draft.build.map .clientSslContext
  | .credentialStore draft => draft.build.map .credentialStore
  | .customRealm draft => draft.build.map .customRealm
  | .filesystemRealm draft => draft.build.map .filesystemRealm
  | .httpAuthenticationFactory draft =>
      draft.build.map .httpAuthenticationFactory
  | .securityDomain draft => draft.build.map .securityDomain
  | .x500AttributePrincipalDecoder draft =>
      draft.build.map .x500AttributePrincipalDecoder

end ResourceDraft

namespace Resource

def kind : Resource → ResourceKind
  | .authenticationConfiguration _ => .authenticationConfiguration
  | .clientSslContext _ => .clientSslContext
  | .credentialStore _ => .credentialStore
  | .customRealm _ => .customRealm
  | .filesystemRealm _ => .filesystemRealm
  | .httpAuthenticationFactory _ => .httpAuthenticationFactory
  | .securityDomain _ => .securityDomain
  | .x500AttributePrincipalDecoder _ => .x500AttributePrincipalDecoder

def name : Resource → ResourceName
  | .authenticationConfiguration resource => resource.name
  | .clientSslContext resource => resource.name
  | .credentialStore resource => resource.name
  | .customRealm resource => resource.name
  | .filesystemRealm resource => resource.name
  | .httpAuthenticationFactory resource => resource.name
  | .securityDomain resource => resource.name
  | .x500AttributePrincipalDecoder resource => resource.name

def address (resource : Resource) : Address :=
  resource.kind.address resource.name

def values : Resource → ValueSet
  | .authenticationConfiguration resource => resource.values
  | .clientSslContext resource => resource.values
  | .credentialStore resource => resource.values
  | .customRealm resource => resource.values
  | .filesystemRealm resource => resource.values
  | .httpAuthenticationFactory resource => resource.values
  | .securityDomain resource => resource.values
  | .x500AttributePrincipalDecoder resource => resource.values

/-- Whether a resource takes the place of one with its address. -/
def replaceExisting : Resource → Bool
  | .authenticationConfiguration resource => resource.replaceExisting
  | .clientSslContext resource => resource.replaceExisting
  | .credentialStore resource => resource.replaceExisting
  | .customRealm resource => resource.replaceExisting
  | .filesystemRealm resource => resource.replaceExisting
  | .httpAuthenticationFactory resource => resource.replaceExisting
  | .securityDomain resource => resource.replaceExisting
  | .x500AttributePrincipalDecoder resource => resource.replaceExisting

end Resource

end Provision
