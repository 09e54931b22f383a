import Provision.Resource.BuildError
import Provision.Text.Pieces

/-!
Contract: credential stores.

Owns:
- the settings of a store and the check of its location;
- the attributes of a store in order.

Does not own: the location beyond its scheme.
-/

namespace Provision

/-- The settings that a store may leave out. -/
structure CredentialStore.Options where
  storeType : Option String := none
  providers : Option String := none
  providerName : Option String := none
  otherProviders : Option String := none
  relativeTo : Option String := none
  create : Option Bool := none
  modifiable : Option Bool := none
deriving DecidableEq, Repr

/-- The settings from which a store is made. -/
structure CredentialStore.Draft extends CredentialStore.Options where
  name : String := ""
  uri : Option String := none
  credentialReference : Option CredentialReference := none
  replaceExisting : Bool := false
deriving DecidableEq, Repr

/-- A credential store. -/
structure CredentialStore extends CredentialStore.Options where
  name : ResourceName
  uri : String
  credentialReference : CredentialReference
  replaceExisting : Bool
deriving DecidableEq, Repr

namespace CredentialStore

/-- The location of a store begins with its scheme. -/
def uriStart : String := "cr-store://"

def Draft.build (draft : Draft) : Except BuildError CredentialStore := do
  let name ← requireName .credentialStore draft.name
  let uri ← requireText "uri" draft.uri
  if Text.startsWith uriStart.toList uri.toList then
    let credentialReference ←
      require "credential-reference" draft.credentialReference
    .ok
      { draft.toOptions with
        name
        uri
        credentialReference
        replaceExisting := draft.replaceExisting }
  else .error (.missingStart "uri" uriStart)

def values (store : CredentialStore) : ValueSet :=
  ValueSet.empty
    |>.set "uri" (.text store.uri)
    |>.set "credential-reference" (.nested store.credentialReference.values)
    |>.setText "type" store.storeType
    |>.setText "providers" store.providers
    |>.setText "provider-name" store.providerName
    |>.setText "other-providers" store.otherProviders
    |>.setText "relative-to" store.relativeTo
    |>.setBoolean "create" store.create
    |>.setBoolean "modifiable" store.modifiable

end CredentialStore

end Provision
