import Provision.Resource.BuildError

/-!
Contract: security domains.

Owns:
- the realms that a domain refers to, with their own settings;
- the settings of a domain: a default realm and at least one realm;
- the attributes of a domain in order.

Does not own: whether the realms that are named exist.
-/

namespace Provision

/-- A realm as a security domain refers to it. -/
structure DomainRealm where
  realm : String := ""
  principalTransformer : Option String := none
  roleDecoder : Option String := none
deriving DecidableEq, Repr

def DomainRealm.values (realm : DomainRealm) : ValueSet :=
  ValueSet.empty
    |>.set "realm" (.text realm.realm)
    |>.setText "principal-transformer" realm.principalTransformer
    |>.setText "role-decoder" realm.roleDecoder

/-- The settings that a domain may leave out. -/
structure SecurityDomain.Options where
  realms : List DomainRealm := []
  permissionMapper : Option String := none
  roleMapper : Option String := none
  preRealmPrincipalTransformer : Option String := none
  postRealmPrincipalTransformer : Option String := none
  trustedSecurityDomains : List String := []
  outflowSecurityDomains : List String := []
deriving DecidableEq, Repr

/-- The settings from which a domain is made. -/
structure SecurityDomain.Draft extends SecurityDomain.Options where
  name : String := ""
  defaultRealm : Option String := none
  replaceExisting : Bool := false
deriving DecidableEq, Repr

/-- A security domain. -/
structure SecurityDomain extends SecurityDomain.Options where
  name : ResourceName
  defaultRealm : String
  replaceExisting : Bool
deriving DecidableEq, Repr

namespace SecurityDomain

/-- There is at least one realm, and each of them is named. -/
def checkRealms (realms : List DomainRealm) : Except BuildError Unit :=
  if realms.isEmpty then .error (.missing "realms")
  else if realms.any fun realm => realm.realm = "" then
    .error (.empty "realm")
  else .ok ()

def Draft.build (draft : Draft) : Except BuildError SecurityDomain := do
  let name ← requireName .securityDomain draft.name
  let defaultRealm ← requireText "default-realm" draft.defaultRealm
  checkRealms draft.realms
  .ok
    { draft.toOptions with
      name
      defaultRealm
      replaceExisting := draft.replaceExisting }

def values (domain : SecurityDomain) : ValueSet :=
  ValueSet.empty
    |>.set "default-realm" (.text domain.defaultRealm)
    |>.setGroups "realms" (domain.realms.map DomainRealm.values)
    |>.setText "permission-mapper" domain.permissionMapper
    |>.setText "role-mapper" domain.roleMapper
    |>.setText "pre-realm-principal-transformer"
        domain.preRealmPrincipalTransformer
    |>.setText "post-realm-principal-transformer"
        domain.postRealmPrincipalTransformer
    |>.setTexts "trusted-security-domains" domain.trustedSecurityDomains
    |>.setTexts "outflow-security-domains" domain.outflowSecurityDomains

end SecurityDomain

end Provision
