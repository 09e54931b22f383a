import Provision.Address
import Provision.Duration
import Provision.Text.Digits

/-!
Contract: the errors of a session with a running server.

Owns:
- what can go wrong on the way to the server and back;
- what a server can answer instead of doing what it was asked;
- the wording of both, and the one error that means "it is there already".

Does not own: which operation gives which error.
-/

namespace Provision

/-- Why there was no answer at all. -/
inductive TransportError where
  | connection (detail : String)
  | timeout
  | invalidUrl (detail : String)
deriving DecidableEq, Repr

def TransportError.message : TransportError → String
  | .connection detail => "Connection error: " ++ detail
  | .timeout => "Request timed out"
  | .invalidUrl detail => "Invalid URL: " ++ detail

/-- Why an operation of a session failed. -/
inductive SessionError where
  | duplicateResource (address : Address)
  | invalidAttributes (address : Address) (detail : String)
  | notFound (address : Address) (attributeName : String)
  | failed (operation target detail : String)
  | transport (cause : TransportError)
  | protocol (detail : String)
  | reloadTimeout (timeout : Duration)
deriving DecidableEq, Repr

namespace SessionError

def message : SessionError → String
  | .duplicateResource address => "Duplicate resource " ++ address.text
  | .invalidAttributes address detail =>
      "Invalid attributes for " ++ address.text ++ ": " ++ detail
  | .notFound address attributeName =>
      "Attribute '" ++ attributeName ++ "' not found at " ++ address.text
  | .failed operation target detail =>
      "Operation '" ++ operation ++ "' failed on " ++ target ++ ": " ++ detail
  | .transport cause =>
      "Management endpoint unavailable: " ++ cause.message
  | .protocol detail => "Unexpected management response: " ++ detail
  | .reloadTimeout timeout =>
      "Server did not finish reloading within " ++
        String.ofList (Text.decimal timeout.seconds) ++ "s"

/-- Whether the error says that the resource is there already. -/
def isDuplicate : SessionError → Bool
  | .duplicateResource _ => true
  | _ => false

end SessionError

end Provision
