import Provision.Resource.Mechanism

/-!
Contract: factories of mechanisms that authenticate over HTTP.

Owns:
- the settings of such a factory;
- the attributes of the factory in order.

Does not own: the configuration of a single mechanism.
-/

namespace Provision

/-- The settings from which a factory is made. -/
structure HttpAuthenticationFactory.Draft where
  name : String := ""
  securityDomain : Option String := none
  httpServerMechanismFactory : Option String := none
  mechanismConfigurations : List Mechanism := []
  replaceExisting : Bool := false
deriving DecidableEq, Repr

/-- A factory of mechanisms that authenticate over HTTP. -/
structure HttpAuthenticationFactory where
  name : ResourceName
  securityDomain : String
  httpServerMechanismFactory : String
  mechanismConfigurations : List Mechanism
  replaceExisting : Bool
deriving DecidableEq, Repr

namespace HttpAuthenticationFactory

def Draft.build (draft : Draft) :
    Except BuildError HttpAuthenticationFactory := do
  let name ← requireName .httpAuthenticationFactory draft.name
  let securityDomain ← requireText "security-domain" draft.securityDomain
  let httpServerMechanismFactory ←
    requireText "http-server-mechanism-factory"
      draft.httpServerMechanismFactory
  draft.mechanismConfigurations.forM Mechanism.check
  .ok
    { name
      securityDomain
      httpServerMechanismFactory
      mechanismConfigurations := draft.mechanismConfigurations
      replaceExisting := draft.replaceExisting }

def values (factory : HttpAuthenticationFactory) : ValueSet :=
  ValueSet.empty
    |>.set "security-domain" (.text factory.securityDomain)
    |>.set "http-server-mechanism-factory"
        (.text factory.httpServerMechanismFactory)
    |>.setGroups "mechanism-configurations"
        (factory.mechanismConfigurations.map Mechanism.values)

end HttpAuthenticationFactory

end Provision
