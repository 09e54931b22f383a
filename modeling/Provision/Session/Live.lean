import Provision.Attempt
import Provision.Session.Error
import Provision.Value

/-!
Contract: what a command needs from a running server.

A session is a record of operations that pass a state along.  An operation
that fails still leaves a state behind, because nothing is ever rolled back.

Owns:
- `LiveSession`, the operations themselves.

Does not own: any particular server.
-/

namespace Provision

/-- The operations of a session.  A removal tells whether a node was there,
a reload on demand whether one was made. -/
structure LiveSession (σ : Type) where
  present : Address → Attempt σ SessionError Bool
  add : Address → ValueSet → Attempt σ SessionError Unit
  removeIfPresent : Address → Attempt σ SessionError Bool
  query : Address → String → Attempt σ SessionError Value
  reloadIfRequired : Attempt σ SessionError Bool
  reload : Attempt σ SessionError Unit

end Provision
