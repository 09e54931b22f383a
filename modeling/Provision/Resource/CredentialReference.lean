import Provision.Value

/-!
Contract: references to a secret.

A reference has exactly one of three modes.  It is made from four settings of
which each may be given any number of times; the last one counts, and an
empty text counts as not given.

Owns:
- the text that a setting gives, wherever an empty one counts as not given;
- the three modes and their attributes;
- the check that the settings select exactly one mode.

Does not own: where a reference is used, and how it is kept out of messages.
-/

namespace Provision

/-- The text that a setting gives.  An empty text counts as not given. -/
def given (setting : Option String) : Option String :=
  setting.filter fun text => text ≠ ""

/-- Where a secret comes from: the text itself, the entry of a credential
store under a key, or a provider of its own type. -/
inductive CredentialReference where
  | clearText (secret : String)
  | store (name key : String) (type : Option String)
  | external (type : String)
deriving DecidableEq, Repr

namespace CredentialReference

def values : CredentialReference → ValueSet
  | .clearText secret => ValueSet.empty.set "clear-text" (.text secret)
  | .store name key type =>
      ((ValueSet.empty.set "store" (.text name)).set "alias"
        (.text key)).setText "type" type
  | .external type => ValueSet.empty.set "type" (.text type)

/-- Why settings select no mode. -/
inductive Fault where
  | clearTextCombined
  | aliasWithoutStore
  | storeWithoutAlias
  | noMode
deriving DecidableEq, Repr

def Fault.reason : Fault → String
  | .clearTextCombined =>
      "clear-text cannot be combined with store, alias or type"
  | .aliasWithoutStore => "alias requires a store"
  | .storeWithoutAlias => "store requires an alias"
  | .noMode =>
      "one of clear-text, store with alias, or type must be specified"

/-- The settings from which a reference is made. -/
structure Draft where
  clearText : Option String := none
  store : Option String := none
  key : Option String := none
  type : Option String := none
deriving DecidableEq, Repr

/-- One setting. -/
inductive Setting where
  | clearText (secret : String)
  | store (name : String)
  | key (name : String)
  | type (name : String)
deriving DecidableEq, Repr

namespace Draft

/-- The draft with one more setting; an earlier one of its kind is lost. -/
def set (draft : Draft) : Setting → Draft
  | .clearText secret => { draft with clearText := some secret }
  | .store name => { draft with store := some name }
  | .key name => { draft with key := some name }
  | .type name => { draft with type := some name }

/-- The draft after a sequence of settings. -/
def ofSettings (settings : List Setting) : Draft :=
  settings.foldl set { }

def build (draft : Draft) : Except Fault CredentialReference :=
  match given draft.clearText, given draft.store, given draft.key,
      given draft.type with
  | some secret, none, none, none => .ok (.clearText secret)
  | some _, _, _, _ => .error .clearTextCombined
  | none, some name, some key, type => .ok (.store name key type)
  | none, none, some _, _ => .error .aliasWithoutStore
  | none, some _, none, _ => .error .storeWithoutAlias
  | none, none, none, some type => .ok (.external type)
  | none, none, none, none => .error .noMode

end Draft

end CredentialReference

end Provision
