import Provision.Resource.BuildError

/-!
Contract: the contexts in which a client opens encrypted connections.

Owns:
- the settings of a context, all of which may be left out;
- the attributes of the context in order.

Does not own: the managers and providers that a context names.
-/

namespace Provision

/-- The settings that a context may leave out. -/
structure ClientSslContext.Options where
  cipherSuiteFilter : Option String := none
  maximumSessionCacheSize : Option UInt32 := none
  sessionTimeout : Option UInt32 := none
  keyManagers : Option String := none
  trustManagers : Option String := none
  protocols : List String := []
  providers : Option String := none
  providerName : Option String := none
deriving DecidableEq, Repr

/-- The settings from which a context is made. -/
structure ClientSslContext.Draft extends ClientSslContext.Options where
  name : String := ""
  replaceExisting : Bool := false
deriving DecidableEq, Repr

/-- A context for encrypted connections of a client. -/
structure ClientSslContext extends ClientSslContext.Options where
  name : ResourceName
  replaceExisting : Bool
deriving DecidableEq, Repr

namespace ClientSslContext

def Draft.build (draft : Draft) : Except BuildError ClientSslContext := do
  let name ← requireName .clientSslContext draft.name
  .ok
    { draft.toOptions with
      name
      replaceExisting := draft.replaceExisting }

def values (context : ClientSslContext) : ValueSet :=
  ValueSet.empty
    |>.setText "cipher-suite-filter" context.cipherSuiteFilter
    |>.setNumber "maximum-session-cache-size"
        (context.maximumSessionCacheSize.map UInt32.toNat)
    |>.setNumber "session-timeout" (context.sessionTimeout.map UInt32.toNat)
    |>.setText "key-managers" context.keyManagers
    |>.setText "trust-managers" context.trustManagers
    |>.setTexts "protocols" context.protocols
    |>.setText "providers" context.providers
    |>.setText "provider-name" context.providerName

end ClientSslContext

end Provision
