import Provision.Resource.Draft
import Provision.Document.Registry

/-!
Contract: commands, the changes that a batch is made of.

A command says which node to add with which attributes, and whether a node
that is there gives way.  Some commands also have an offline form, a document
transform; the others work on a running server only.

Owns:
- the command and the offline form that an address and attributes give;
- the command of a resource;
- the registry of the transforms that the resources use.

Does not own: how a command is carried out.
-/

namespace Provision

/-- One change. -/
structure Command where
  kind : String
  address : Address
  values : ValueSet
  replaceExisting : Bool
  offline : Option Document.Transform
deriving DecidableEq, Repr

/-- The transform that adds the node of an address below its parent.  The
name comes first and the replace flag last; an attribute with one of these two
names loses its value to them or wins over the name, as it comes later.  A
root address has no parent and hence no transform. -/
def addTransform (id : String) (address : Address) (values : ValueSet)
    (replaceExisting : Bool) : Option Document.Transform :=
  address.parent.map fun parent =>
    { id
      locator := parent
      parameters :=
        ((Parameters.empty.set Document.nameParameter
            (some address.leaf.name)).setValues values).set
          Document.replaceParameter
          (some (Scalar.boolean replaceExisting).shown) }

/-- The name of the transform that adds a resource of a kind to a document,
for the kinds that have one. -/
def ResourceKind.transformId? : ResourceKind → Option String
  | .clientSslContext => some "add-client-ssl-context"
  | .x500AttributePrincipalDecoder =>
      some "add-x500-attribute-principal-decoder"
  | _ => none

def Resource.command (resource : Resource) : Command where
  kind := resource.kind.text
  address := resource.address
  values := resource.values
  replaceExisting := resource.replaceExisting
  offline := resource.kind.transformId?.bind fun id =>
    addTransform id resource.address resource.values resource.replaceExisting

def ResourceDraft.command (draft : ResourceDraft) :
    Except BuildError Command :=
  draft.build.map Resource.command

/-- The registry with the transforms of all kinds that have one. -/
def offlineTransforms : Document.Registry :=
  Document.Registry.ofBindings
    (ResourceKind.all.filterMap fun kind =>
      kind.transformId?.map fun id => (id, kind.text))

end Provision
