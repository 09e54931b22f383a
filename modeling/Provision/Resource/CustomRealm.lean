import Provision.Resource.BuildError
import Provision.Resource.Property

/-!
Contract: realms that a class of the server's user implements.

Owns:
- the settings of such a realm, with its free configuration;
- the attributes of the realm in order.

Does not own: what the class does with its configuration.
-/

namespace Provision

/-- The settings from which a custom realm is made. -/
structure CustomRealm.Draft where
  name : String := ""
  className : Option String := none
  module : Option String := none
  configuration : List Property := []
  replaceExisting : Bool := false
deriving DecidableEq, Repr

/-- A custom realm. -/
structure CustomRealm where
  name : ResourceName
  className : String
  module : Option String
  configuration : List Property
  replaceExisting : Bool
deriving DecidableEq, Repr

namespace CustomRealm

def Draft.build (draft : Draft) : Except BuildError CustomRealm := do
  let name ← requireName .customRealm draft.name
  let className ← requireText "class-name" draft.className
  .ok
    { name
      className
      module := draft.module
      configuration := draft.configuration
      replaceExisting := draft.replaceExisting }

def values (realm : CustomRealm) : ValueSet :=
  ValueSet.empty
    |>.set "class-name" (.text realm.className)
    |>.setText "module" realm.module
    |>.setNested "configuration" (some (Property.collect realm.configuration))

end CustomRealm

end Provision
