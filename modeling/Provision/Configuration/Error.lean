import Provision.BatchFile
import Provision.Endpoint.Header
import Provision.Endpoint.Host
import Provision.Files.Error

/-!
Contract: why there is no configuration to run.

Owns:
- the causes, from files, targets, headers, waiting times and entries;
- the wording of each.

Does not own: when a cause applies, and which of two comes first.
-/

namespace Provision

/-- Where a target is named. -/
inductive TargetSource where
  | commandLine
  | batchFile
deriving DecidableEq, Repr

def TargetSource.text : TargetSource → String
  | .commandLine => "command line"
  | .batchFile => "config file"

/-- A waiting time of the reload policy. -/
inductive WaitingTime where
  | timeout
  | pollInterval
deriving DecidableEq, Repr

/-- The waiting time as messages name it. -/
def WaitingTime.text : WaitingTime → String
  | .timeout => "reload.timeout"
  | .pollInterval => "reload.poll_interval"

/-- Why there is no configuration. -/
inductive ConfigurationError where
  | unreadable (path : String) (cause : FileError)
  | batchFile (cause : BatchFile.ParseError)
  | unwritable (path : String) (cause : FileError)
  | noTarget
  | twoTargets (source : TargetSource)
  | liveOnly
  | invalidUrl (url : String) (cause : Endpoint.Refusal)
  | invalidAddress (cause : Address.ParseError)
  | zeroWait (time : WaitingTime)
  | longInterval (timeout : UInt64)
  | invalidHeader (text : String)
  | invalidHeaderName (name : String)
  | invalidHeaderValue (name : String)
  | invalidEntry (index : Nat) (kind : ResourceKind) (cause : BuildError)
deriving Repr

namespace ConfigurationError

/-- The wording of an error.  What is wrong with the text of a batch file is
told apart. -/
def message : ConfigurationError → String
  | .unreadable path cause =>
      "Failed to read config file '" ++ path ++ "': " ++ cause.message
  | .batchFile _ => "Failed to parse TOML config"
  | .unwritable path cause =>
      "Failed to write config file '" ++ path ++ "': " ++ cause.message
  | .noTarget =>
      "Missing required field: target. Use --url or --document, or set " ++
        "target.url or target.document in config file"
  | .twoTargets source =>
      "Both url and document are set in the " ++ source.text ++
        "; choose one target"
  | .liveOnly =>
      "'query' requires a management url, not an offline document"
  | .invalidUrl url cause => "Invalid URL '" ++ url ++ "': " ++ cause.message
  | .invalidAddress cause => cause.message
  | .zeroWait time =>
      "Invalid duration for " ++ time.text ++ ": must be greater than 0"
  | .longInterval timeout =>
      "Invalid duration for " ++ WaitingTime.pollInterval.text ++
        ": must not exceed " ++ WaitingTime.timeout.text ++ " (" ++
        String.ofList (Text.decimal timeout.toNat) ++ "s)"
  | .invalidHeader text =>
      "Invalid header format '" ++ text ++
        "': expected 'Key=Value' or 'Key: Value'"
  | .invalidHeaderName name =>
      "Invalid header name '" ++ name ++ "': " ++ Endpoint.HeaderName.refusal
  | .invalidHeaderValue name =>
      "Invalid header value for '" ++ name ++ "': " ++
        Endpoint.HeaderValue.refusal
  | .invalidEntry index kind cause =>
      "Invalid command #" ++ String.ofList (Text.decimal index) ++ " (" ++
        kind.text ++ "): " ++ cause.message

end ConfigurationError

end Provision
