import Provision.Resource.BuildError
import Provision.Resource.Property

/-!
Contract: configurations with which a client authenticates.

A configuration has at most one identity and at most one policy for the
mechanisms, although several settings lead to each of them.  A flag that is
explicitly switched off selects nothing, but it is kept and sent.

Owns:
- the identities and the policies, and the settings that select them;
- the checks that exclude two selections of one sort;
- the attributes of a configuration in order.

Does not own: the names of mechanisms.
-/

namespace Provision

/-- As whom a client authenticates. -/
inductive AuthenticationIdentity where
  | authenticationName (name : String)
  | anonymous
  | securityDomain (name : String)
deriving DecidableEq, Repr

/-- Which mechanisms a client may use. -/
inductive MechanismPolicy where
  | allowAll
  | allowSasl (mechanisms : List String)
deriving DecidableEq, Repr

/-- The settings that a configuration may leave out and that exclude nothing. -/
structure AuthenticationConfiguration.Options where
  parent : Option String := none
  authorizationName : Option String := none
  host : Option String := none
  protocol : Option String := none
  port : Option UInt16 := none
  realm : Option String := none
  forbidSaslMechanisms : List String := []
  mechanismProperties : List Property := []
deriving DecidableEq, Repr

/-- The settings from which a configuration is made. -/
structure AuthenticationConfiguration.Draft extends
    AuthenticationConfiguration.Options where
  name : String := ""
  credentialReference : Option CredentialReference := none
  authenticationName : Option String := none
  anonymous : Option Bool := none
  securityDomain : Option String := none
  allowAllMechanisms : Option Bool := none
  allowSaslMechanisms : List String := []
  replaceExisting : Bool := false
deriving DecidableEq, Repr

/-- A configuration with which a client authenticates.  The two flags are
kept apart only where they were switched off. -/
structure AuthenticationConfiguration extends
    AuthenticationConfiguration.Options where
  name : ResourceName
  credentialReference : CredentialReference
  identity : Option AuthenticationIdentity
  mechanismPolicy : Option MechanismPolicy
  anonymousOff : Bool
  allowAllMechanismsOff : Bool
  replaceExisting : Bool
deriving DecidableEq, Repr

/-- Sets the attribute that an identity stands for. -/
def AuthenticationIdentity.addTo (values : ValueSet) :
    AuthenticationIdentity → ValueSet
  | .authenticationName name => values.set "authentication-name" (.text name)
  | .anonymous => values.set "anonymous" (.boolean true)
  | .securityDomain name => values.set "security-domain" (.text name)

/-- Sets the attribute that a policy stands for. -/
def MechanismPolicy.addTo (values : ValueSet) : MechanismPolicy → ValueSet
  | .allowAll => values.set "allow-all-mechanisms" (.boolean true)
  | .allowSasl mechanisms =>
      values.setTexts "allow-sasl-mechanisms" mechanisms

namespace AuthenticationConfiguration

namespace Draft

/-- At most one identity is selected. -/
def checkIdentity (draft : Draft) : Except BuildError Unit := do
  let named := (given draft.authenticationName).isSome
  let anonymous := draft.anonymous = some true
  let domain := (given draft.securityDomain).isSome
  exclude "authentication-name" named "anonymous" anonymous
  exclude "authentication-name" named "security-domain" domain
  exclude "anonymous" anonymous "security-domain" domain

/-- At most one policy is selected. -/
def checkPolicy (draft : Draft) : Except BuildError Unit :=
  exclude "allow-all-mechanisms" (draft.allowAllMechanisms = some true)
    "allow-sasl-mechanisms" (!draft.allowSaslMechanisms.isEmpty)

def identity (draft : Draft) : Option AuthenticationIdentity :=
  match given draft.authenticationName, draft.anonymous,
      given draft.securityDomain with
  | some name, _, _ => some (.authenticationName name)
  | none, some true, _ => some .anonymous
  | none, _, some name => some (.securityDomain name)
  | none, _, none => none

def mechanismPolicy (draft : Draft) : Option MechanismPolicy :=
  if draft.allowAllMechanisms = some true then some .allowAll
  else if draft.allowSaslMechanisms.isEmpty then none
  else some (.allowSasl draft.allowSaslMechanisms)

def build (draft : Draft) : Except BuildError AuthenticationConfiguration := do
  let name ← requireName .authenticationConfiguration draft.name
  let credentialReference ←
    require "credential-reference" draft.credentialReference
  draft.checkIdentity
  draft.checkPolicy
  .ok
    { draft.toOptions with
      name
      credentialReference
      identity := draft.identity
      mechanismPolicy := draft.mechanismPolicy
      anonymousOff := draft.anonymous = some false
      allowAllMechanismsOff := draft.allowAllMechanisms = some false
      replaceExisting := draft.replaceExisting }

end Draft

/-- A flag that was switched off, as a setting. -/
def switchedOff (off : Bool) : Option Bool :=
  if off then some false else none

def values (configuration : AuthenticationConfiguration) : ValueSet :=
  let common := ValueSet.empty
    |>.set "credential-reference"
        (.nested configuration.credentialReference.values)
    |>.setText "extends" configuration.parent
    |>.setText "authorization-name" configuration.authorizationName
    |>.setText "host" configuration.host
    |>.setText "protocol" configuration.protocol
    |>.setNumber "port" (configuration.port.map UInt16.toNat)
    |>.setText "realm" configuration.realm
  let identified := configuration.identity.elim common fun identity =>
    identity.addTo common
  let permitted :=
    configuration.mechanismPolicy.elim identified fun policy =>
      policy.addTo identified
  permitted
    |>.setBoolean "anonymous" (switchedOff configuration.anonymousOff)
    |>.setBoolean "allow-all-mechanisms"
        (switchedOff configuration.allowAllMechanismsOff)
    |>.setTexts "forbid-sasl-mechanisms" configuration.forbidSaslMechanisms
    |>.setNested "mechanism-properties"
        (some (Property.collect configuration.mechanismProperties))

end AuthenticationConfiguration

end Provision
