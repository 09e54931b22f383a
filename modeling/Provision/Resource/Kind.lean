import Provision.Address

/-!
Contract: the kinds of resources and the addresses of resources.

Owns:
- the eight kinds, in the order in which messages list them;
- the name of a resource, which is never empty;
- the address of a resource, which therefore always exists.

Does not own: what a resource of a kind holds.
-/

namespace Provision

/-- The kinds of resources that can be added. -/
inductive ResourceKind where
  | authenticationConfiguration
  | clientSslContext
  | credentialStore
  | customRealm
  | filesystemRealm
  | httpAuthenticationFactory
  | securityDomain
  | x500AttributePrincipalDecoder
deriving DecidableEq, Repr

namespace ResourceKind

/-- All kinds in order. -/
def all : List ResourceKind :=
  [.authenticationConfiguration, .clientSslContext, .credentialStore,
    .customRealm, .filesystemRealm, .httpAuthenticationFactory,
    .securityDomain, .x500AttributePrincipalDecoder]

/-- The text of a kind, which is also the kind of its address segment. -/
def text : ResourceKind → String
  | .authenticationConfiguration => "authentication-configuration"
  | .clientSslContext => "client-ssl-context"
  | .credentialStore => "credential-store"
  | .customRealm => "custom-realm"
  | .filesystemRealm => "filesystem-realm"
  | .httpAuthenticationFactory => "http-authentication-factory"
  | .securityDomain => "security-domain"
  | .x500AttributePrincipalDecoder => "x500-attribute-principal-decoder"

def ofText? (text : String) : Option ResourceKind :=
  all.find? fun kind => kind.text = text

end ResourceKind

/-- The name of a resource. -/
structure ResourceName where
  text : String
  given : text ≠ ""
deriving DecidableEq, Repr

/-- The name with a text, unless the text is empty. -/
def ResourceName.ofText? (text : String) : Option ResourceName :=
  if given : text ≠ "" then some ⟨text, given⟩ else none

/-- The node under which all resources stand. -/
def subsystemSegment : Segment :=
  ⟨"subsystem", "elytron"⟩

def ResourceKind.address (kind : ResourceKind) (name : ResourceName) :
    Address :=
  ⟨[subsystemSegment], ⟨kind.text, name.text⟩⟩

end Provision
