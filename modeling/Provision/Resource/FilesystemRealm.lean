import Provision.Resource.BuildError

/-!
Contract: realms that keep identities in files.

Owns:
- the settings of such a realm;
- the attributes of the realm in order.

Does not own: the files.
-/

namespace Provision

/-- The settings from which a filesystem realm is made. -/
structure FilesystemRealm.Draft where
  name : String := ""
  path : Option String := none
  relativeTo : Option String := none
  levels : Option UInt32 := none
  replaceExisting : Bool := false
deriving DecidableEq, Repr

/-- A filesystem realm. -/
structure FilesystemRealm where
  name : ResourceName
  path : String
  relativeTo : Option String
  levels : Option UInt32
  replaceExisting : Bool
deriving DecidableEq, Repr

namespace FilesystemRealm

def Draft.build (draft : Draft) : Except BuildError FilesystemRealm := do
  let name ← requireName .filesystemRealm draft.name
  let path ← requireText "path" draft.path
  .ok
    { name
      path
      relativeTo := draft.relativeTo
      levels := draft.levels
      replaceExisting := draft.replaceExisting }

def values (realm : FilesystemRealm) : ValueSet :=
  ValueSet.empty
    |>.set "path" (.text realm.path)
    |>.setText "relative-to" realm.relativeTo
    |>.setNumber "levels" (realm.levels.map UInt32.toNat)

end FilesystemRealm

end Provision
