import Provision.Address
import Provision.Document.Transform
import Provision.Value

/-!
Contract: management operations as they go over the wire.

Owns:
- the operation with the node it is for and its arguments;
- the data document of an operation, member by member in order.

Does not own: how the document is sent, or how it is answered.
-/

namespace Provision

/-- One management operation.  Without an address it is for the root. -/
structure Operation where
  name : String
  address : Option Address
  attributeName : Option String := none
  childType : Option String := none
  attributes : ValueSet := ValueSet.empty
deriving DecidableEq, Repr

namespace Operation

def add (address : Address) (values : ValueSet) : Operation where
  name := "add"
  address := some address
  attributes := values

def remove (address : Address) : Operation where
  name := "remove"
  address := some address

def readAttribute (address : Option Address) (attributeName : String) :
    Operation where
  name := "read-attribute"
  address
  attributeName := some attributeName

/-- Reads the names of the nodes of one kind below a node. -/
def readChildrenNames (address : Option Address) (kind : String) :
    Operation where
  name := "read-children-names"
  address
  childType := some kind

def reload : Operation where
  name := "reload"
  address := none

def target (operation : Operation) : String :=
  (operation.address.map Address.text).getD "/"

/-- A member that is left out when there is no text. -/
def optionalMember (name : String) (text : Option String) :
    List (String × Json) :=
  match text with
  | some text => [(name, .string text)]
  | none => []

/-- The operation as a data document.  The attributes come last, each with
its own name, whatever that name is. -/
def toJson (operation : Operation) : Json :=
  .object
    ([("operation", .string operation.name),
        ("address",
          (operation.address.map Address.toJson).getD (.array []))] ++
      optionalMember "name" operation.attributeName ++
      optionalMember "child-type" operation.childType ++
      Value.membersToJson operation.attributes)

end Operation

end Provision
