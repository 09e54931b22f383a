import Provision.Endpoint.Header
import Provision.Endpoint.Url
import Provision.Session.Error
import Provision.Session.Operation

/-!
Contract: what passes between a session and a server.

The server and the way to it are one function: it answers each request from
all the requests so far, so that nothing is assumed about it.

Owns:
- requests and responses;
- the journal of what was sent and how long was waited;
- the transport, and the one that plays answers from a list.

Does not own: which requests are made, and what the answers mean.
-/

namespace Provision

/-- A request: one operation for an endpoint. -/
structure HttpRequest where
  url : Endpoint.Url
  headers : Endpoint.Headers
  operation : Operation

namespace HttpRequest

def method : String := "POST"

/-- The request that carries an operation.  It says what its body is, and
carries the given headers besides. -/
def ofOperation (url : Endpoint.Url) (headers : Endpoint.Headers)
    (operation : Operation) : HttpRequest where
  url
  headers := (Endpoint.HeaderName.contentType, ⟨"application/json"⟩) :: headers
  operation

def body (request : HttpRequest) : String :=
  request.operation.toJson.compactText

end HttpRequest

/-- A response with the whole of its body. -/
structure HttpResponse where
  status : Nat
  body : ByteArray

/-- Something that a session did. -/
inductive SessionEvent where
  | sent (request : HttpRequest)
  | slept (span : Duration)

/-- What a session did so far, the newest last. -/
abbrev Journal := List SessionEvent

namespace Journal

def requests (journal : Journal) : List HttpRequest :=
  journal.filterMap fun
    | .sent request => some request
    | .slept _ => none

def sleeps (journal : Journal) : List Duration :=
  journal.filterMap fun
    | .sent _ => none
    | .slept span => some span

end Journal

/-- The answer to the newest of all requests so far. -/
abbrev Transport := List HttpRequest → Except TransportError HttpResponse

/-- The transport that plays answers one after the other; there is no
connection when they run out. -/
def Transport.scripted
    (answers : List (Except TransportError HttpResponse)) : Transport :=
  fun requests =>
    (answers[requests.length - 1]?).getD
      (.error (.connection "script exhausted"))

end Provision
