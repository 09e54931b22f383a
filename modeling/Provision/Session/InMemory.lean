import Provision.Session.Live

/-!
Contract: a server in memory.

It keeps nodes, notes every call in order, and behaves as a server does: a
second node with one address is refused, and a removal leaves a reload
pending.  Two faults can be switched on: one attribute is refused, or nothing
is answered at all.

Owns:
- the state of such a server and the calls it notes;
- its operations, each of which notes its call before anything else.

Does not own: the order in which a command makes its calls.
-/

namespace Provision

/-- A call that was made. -/
inductive InMemory.Call where
  | present (address : Address)
  | add (address : Address)
  | remove (address : Address)
  | query (address : Address) (attributeName : String)
  | reloadIfRequired
  | reload
deriving DecidableEq, Repr

def InMemory.Call.text : InMemory.Call → String
  | .present address => "exists " ++ address.text
  | .add address => "add " ++ address.text
  | .remove address => "remove " ++ address.text
  | .query address attributeName =>
      "query " ++ address.text ++ " " ++ attributeName
  | .reloadIfRequired => "reload_if_required"
  | .reload => "reload"

/-- The state of a server in memory. -/
structure InMemory where
  nodes : List (Address × ValueSet) := []
  calls : List InMemory.Call := []
  reloadPending : Bool := false
  reloads : Nat := 0
  rejected : Option String := none
  unavailable : Bool := false

namespace InMemory

def node? (server : InMemory) (address : Address) : Option ValueSet :=
  Members.get? address server.nodes

/-- Puts a node in place without a call. -/
def seed (server : InMemory) (address : Address) (values : ValueSet) :
    InMemory :=
  { server with nodes := Members.put address values server.nodes }

/-- Notes a call, and fails where nothing is answered. -/
def note (call : Call) : Attempt InMemory SessionError Unit := do
  let server ← get
  set { server with calls := server.calls ++ [call] }
  if server.unavailable then throw (.transport .timeout)

def present (address : Address) : Attempt InMemory SessionError Bool := do
  note (.present address)
  return (← get).node? address |>.isSome

/-- The attribute that the server refuses, if the values set it. -/
def rejection? (server : InMemory) (values : ValueSet) : Option String :=
  server.rejected.filter fun name => Members.contains name values

def add (address : Address) (values : ValueSet) :
    Attempt InMemory SessionError Unit := do
  note (.add address)
  let server ← get
  match server.rejection? values with
  | some name =>
      throw (.invalidAttributes address ("'" ++ name ++ "' rejected"))
  | none =>
      if (server.node? address).isSome then throw (.duplicateResource address)
      else set (server.seed address values)

/-- Removes a node, and leaves a reload pending if there was one. -/
def removeIfPresent (address : Address) :
    Attempt InMemory SessionError Bool := do
  note (.remove address)
  let server ← get
  if (server.node? address).isSome then
    set { server with
      nodes := Members.erase address server.nodes
      reloadPending := true }
    return true
  else return false

def query (address : Address) (attributeName : String) :
    Attempt InMemory SessionError Value := do
  note (.query address attributeName)
  match ((← get).node? address).bind fun values =>
      Members.get? attributeName values with
  | some value => return value
  | none => throw (.notFound address attributeName)

def reload : Attempt InMemory SessionError Unit := do
  note .reload
  modify fun server =>
    { server with reloadPending := false, reloads := server.reloads + 1 }

/-- Reloads if a removal left a reload pending. -/
def reloadIfRequired : Attempt InMemory SessionError Bool := do
  note .reloadIfRequired
  let server ← get
  if server.reloadPending then
    set { server with reloadPending := false }
    reload
    return true
  else return false

/-- The session with a server in memory. -/
def session : LiveSession InMemory where
  present
  add
  removeIfPresent
  query
  reloadIfRequired
  reload

end InMemory

end Provision
