import Provision.Session.Exchange
import Provision.Session.Live
import Provision.Session.Policy
import Provision.Session.Response
import Provision.Session.Status

/-!
Contract: the session with a server behind a management endpoint.

Every operation is one request.  The status of a response is not looked at; a
failed operation says so in its body.  While a server reloads, anything but a
failed operation is taken for "not yet".

Owns:
- the meaning of answers, with the failure codes for "there already" and
  "not there";
- the reload, and the polling after it.

Does not own: the transport, and the shape of bodies.
-/

namespace Provision

/-- A client of a management endpoint. -/
structure ManagementClient where
  transport : Transport
  url : Endpoint.Url
  headers : Endpoint.Headers
  policy : ReloadPolicy

namespace ManagementClient

/-- The failure code of a node that is there already. -/
def duplicateCode : String := "WFLYCTL0212"

/-- The failure codes of a node or an attribute that is not there. -/
def notFoundCodes : List String := ["WFLYCTL0216", "WFLYCTL0201"]

/-- The state of a server that can be worked with. -/
def runningState : String := "running"

/-- The state of a server that wants to be reloaded. -/
def reloadState : String := "reload-required"

/-- Whether a text occurs in a description. -/
def mentions (detail code : String) : Bool :=
  Text.contains code.toList detail.toList

/-- Whether a failure says that something is not there. -/
def saysNotFound (detail : String) : Bool :=
  notFoundCodes.any (mentions detail)

def note (event : SessionEvent) : Attempt Journal SessionError Unit :=
  modify fun journal => journal ++ [event]

def decode (answer : Except TransportError HttpResponse) :
    Except SessionError Response :=
  match answer with
  | .error cause => .error (.transport cause)
  | .ok response =>
      match Response.ofBody? response.body with
      | some decoded => .ok decoded
      | none =>
          .error (.protocol ("HTTP " ++ Session.statusText response.status ++
            " with undecodable body"))

/-- Sends an operation and reads the answer. -/
def execute (client : ManagementClient) (operation : Operation) :
    Attempt Journal SessionError Response := do
  note (.sent (.ofOperation client.url client.headers operation))
  let journal ← get
  ExceptT.mk (pure (decode (client.transport journal.requests)))

/-- The failure of an operation that the server did not carry out. -/
def failed (operation : Operation) (response : Response) : SessionError :=
  .failed operation.name operation.target response.failure

/-- The operation that reads the state of the server. -/
def stateOperation : Operation :=
  .readAttribute none "server-state"

def serverState (client : ManagementClient) :
    Attempt Journal SessionError String := do
  let response ← client.execute stateOperation
  if !response.isSuccess then
    throw (failed stateOperation response)
  else
    match response.result with
    | .string state => return state
    | _ => throw (.protocol "server-state is not a string")

/-- Whether an error may pass while a server reloads. -/
def isPassing : SessionError → Bool
  | .transport _ => true
  | .protocol _ => true
  | _ => false

/-- Reads the state once more; the answer tells whether the server runs. -/
def poll (client : ManagementClient) : Attempt Journal SessionError Bool := do
  note (.slept client.policy.pollInterval)
  tryCatch
    (do return (← client.serverState) = runningState)
    (fun error => if isPassing error then return false else throw error)

/-- Polls until the server runs, a number of times at most. -/
def awaitRunning (client : ManagementClient) :
    Nat → Attempt Journal SessionError Unit
  | 0 => throw (.reloadTimeout client.policy.timeout)
  | polls + 1 => do
      if ← client.poll then return ()
      else client.awaitRunning polls

/-- Whether a node is there.  Where its parent is not, it is not either. -/
def present (client : ManagementClient) (address : Address) :
    Attempt Journal SessionError Bool := do
  let operation :=
    Operation.readChildrenNames address.parent address.leaf.kind
  let response ← client.execute operation
  if response.isSuccess then
    match response.result with
    | .array names => return names.contains (.string address.leaf.name)
    | _ => throw (.protocol "read-children-names did not return a list")
  else if saysNotFound response.failure then return false
  else throw (failed operation response)

def add (client : ManagementClient) (address : Address) (values : ValueSet) :
    Attempt Journal SessionError Unit := do
  let response ← client.execute (.add address values)
  if response.isSuccess then return ()
  else if mentions response.failure duplicateCode then
    throw (.duplicateResource address)
  else throw (.invalidAttributes address response.failure)

/-- Removes a node if it is there. -/
def removeIfPresent (client : ManagementClient) (address : Address) :
    Attempt Journal SessionError Bool := do
  if ← client.present address then
    let operation := Operation.remove address
    let response ← client.execute operation
    if response.isSuccess then return true
    else throw (failed operation response)
  else return false

/-- Reads an attribute.  A null in place of a value means that there is no
such attribute. -/
def query (client : ManagementClient) (address : Address)
    (attributeName : String) : Attempt Journal SessionError Value := do
  let operation := Operation.readAttribute (some address) attributeName
  let response ← client.execute operation
  if response.isSuccess then
    match Value.ofJson? response.result with
    | some value => return value
    | none => throw (.notFound address attributeName)
  else if saysNotFound response.failure then
    throw (.notFound address attributeName)
  else throw (failed operation response)

/-- Asks the server to reload.  It may drop the connection as it goes down. -/
def startReload (client : ManagementClient) :
    Attempt Journal SessionError Unit := do
  let response ← tryCatch
    (do return some (← client.execute .reload))
    (fun error => match error with
      | .transport _ => return none
      | other => throw other)
  match response with
  | some response =>
      if response.isSuccess then return () else throw (failed .reload response)
  | none => return ()

/-- Reloads the server and waits until it runs again. -/
def reload (client : ManagementClient) :
    Attempt Journal SessionError Unit := do
  client.startReload
  client.awaitRunning client.policy.maxPolls

/-- Reloads the server if it wants to be reloaded. -/
def reloadIfRequired (client : ManagementClient) :
    Attempt Journal SessionError Bool := do
  let state ← client.serverState
  if state = reloadState then
    client.reload
    return true
  else return false

def session (client : ManagementClient) : LiveSession Journal where
  present := client.present
  add := client.add
  removeIfPresent := client.removeIfPresent
  query := client.query
  reloadIfRequired := client.reloadIfRequired
  reload := client.reload

end ManagementClient

end Provision
