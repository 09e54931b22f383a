import Provision.Attempt
import Provision.Document.Error

/-!
Contract: documents that transforms are applied to, one after the other.

Owns:
- `OfflineDocument`, what a command needs from a kept document;
- the document in memory, which keeps every transform it was given.

Does not own: documents in files.
-/

namespace Provision

/-- What a command needs from a kept document. -/
structure OfflineDocument (σ : Type) where
  apply : Document.Transform → Attempt σ DocumentError Unit

/-- A document in memory, with all transforms that it was given. -/
structure MemoryDocument where
  document : Json
  tried : List Document.Transform := []

namespace MemoryDocument

def apply (registry : Document.Registry) (transform : Document.Transform) :
    Attempt MemoryDocument DocumentError Unit := do
  let state ← get
  set { state with tried := state.tried ++ [transform] }
  match registry.apply state.document transform with
  | .ok changed => modify fun state => { state with document := changed }
  | .error cause => throw (.refused cause)

/-- The document in memory with a registry. -/
def backend (registry : Document.Registry) :
    OfflineDocument MemoryDocument where
  apply := apply registry

end MemoryDocument

end Provision
