import Provision.CommandLine
import Provision.Configuration.Error
import Provision.Endpoint.Header
import Provision.Text.Blank

/-!
Contract: the headers that go with every request of a run.

The headers of the batch file come first, then those of the command line, and
the bearer token last.  A later header takes the place of an earlier one with
its name.

Owns:
- the two written forms of a header on the command line;
- `resolveHeaders`.

Does not own: what a name and a value may hold.
-/

namespace Provision.Configuration

/-- A text without the blanks at its ends. -/
def trimmed (characters : List Char) : String :=
  String.ofList (Text.trim characters)

/-- The name and the value of a header that is written in one text.  An equals
sign goes before a colon as the mark between them. -/
def splitHeader (text : String) : Except ConfigurationError (String × String) :=
  let characters := text.toList
  match (Text.cutAt '=' characters).or (Text.cutAt ':' characters) with
  | some (name, value) => .ok (trimmed name, trimmed value)
  | none => .error (.invalidHeader text)

/-- The value of the header with a name. -/
def headerValue (name value : String) :
    Except ConfigurationError Endpoint.HeaderValue :=
  match Endpoint.HeaderValue.ofText? value with
  | some checked => .ok checked
  | none => .error (.invalidHeaderValue name)

def addHeader (headers : Endpoint.Headers) (name value : String) :
    Except ConfigurationError Endpoint.Headers :=
  match Endpoint.HeaderName.ofText? name with
  | none => .error (.invalidHeaderName name)
  | some checked =>
      (headerValue name value).map fun value => headers.insert checked value

/-- Adds a header that is written in one text. -/
def addWrittenHeader (headers : Endpoint.Headers) (text : String) :
    Except ConfigurationError Endpoint.Headers := do
  let (name, value) ← splitHeader text
  addHeader headers name value

def addBearer (headers : Endpoint.Headers) (token : String) :
    Except ConfigurationError Endpoint.Headers :=
  (headerValue "Authorization" ("Bearer " ++ token)).map fun value =>
    headers.insert Endpoint.HeaderName.authorization value

/-- The token of the bearer: the command line goes before the file. -/
def bearer (line : CommandLine) (file : BatchFile) : Option String :=
  line.bearer.or file.target.bearer

def resolveHeaders (line : CommandLine) (file : BatchFile) :
    Except ConfigurationError Endpoint.Headers := do
  let fromFile ← file.target.headers.foldlM
    (fun headers header => addHeader headers header.1 header.2) []
  let fromLine ← line.headers.foldlM addWrittenHeader fromFile
  match bearer line file with
  | some token => addBearer fromLine token
  | none => return fromLine

end Provision.Configuration
