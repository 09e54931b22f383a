import Provision.Resource.BuildError

/-!
Contract: the configuration of authentication mechanisms.

Owns:
- the settings of a mechanism and of the realms it offers;
- the check that every such realm is named;
- their attributes in order.

Does not own: the factories that the mechanisms belong to.
-/

namespace Provision

/-- A realm that a mechanism offers. -/
structure MechanismRealm where
  realmName : String := ""
  preRealmPrincipalTransformer : Option String := none
  postRealmPrincipalTransformer : Option String := none
  finalPrincipalTransformer : Option String := none
  realmMapper : Option String := none
deriving DecidableEq, Repr

namespace MechanismRealm

/-- The realm is named. -/
def check (realm : MechanismRealm) : Except BuildError Unit :=
  if realm.realmName = "" then .error (.missing "realm-name") else .ok ()

def values (realm : MechanismRealm) : ValueSet :=
  ValueSet.empty
    |>.set "realm-name" (.text realm.realmName)
    |>.setText "pre-realm-principal-transformer"
        realm.preRealmPrincipalTransformer
    |>.setText "post-realm-principal-transformer"
        realm.postRealmPrincipalTransformer
    |>.setText "final-principal-transformer" realm.finalPrincipalTransformer
    |>.setText "realm-mapper" realm.realmMapper

end MechanismRealm

/-- The configuration of one mechanism. -/
structure Mechanism where
  mechanismName : Option String := none
  hostName : Option String := none
  protocol : Option String := none
  preRealmPrincipalTransformer : Option String := none
  postRealmPrincipalTransformer : Option String := none
  finalPrincipalTransformer : Option String := none
  realmMapper : Option String := none
  credentialSecurityFactory : Option String := none
  realms : List MechanismRealm := []
deriving DecidableEq, Repr

namespace Mechanism

/-- Every realm of the mechanism is named. -/
def check (mechanism : Mechanism) : Except BuildError Unit :=
  mechanism.realms.forM MechanismRealm.check

def values (mechanism : Mechanism) : ValueSet :=
  ValueSet.empty
    |>.setText "mechanism-name" mechanism.mechanismName
    |>.setText "host-name" mechanism.hostName
    |>.setText "protocol" mechanism.protocol
    |>.setText "pre-realm-principal-transformer"
        mechanism.preRealmPrincipalTransformer
    |>.setText "post-realm-principal-transformer"
        mechanism.postRealmPrincipalTransformer
    |>.setText "final-principal-transformer"
        mechanism.finalPrincipalTransformer
    |>.setText "realm-mapper" mechanism.realmMapper
    |>.setText "credential-security-factory"
        mechanism.credentialSecurityFactory
    |>.setGroups "mechanism-realm-configurations"
        (mechanism.realms.map MechanismRealm.values)

end Mechanism

end Provision
