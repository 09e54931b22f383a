import Provision.Command.Batch
import Provision.Configuration.Headers
import Provision.Endpoint.Url
import Provision.Files.System
import Provision.Session.Policy

/-!
Contract: configurations, which are ready to run.

A configuration is made of a command line and a batch file.  The checks are
made in a fixed order: the target with its headers, the waiting times, the
query, and the entries from the first on.

Owns:
- the configuration and the line of text that sums it up;
- `Configuration.resolve`, which makes every check;
- `Configuration.load`, which reads the batch file first.

Does not own: what a run does.
-/

namespace Provision

/-- What a run works on. -/
inductive Target where
  | live (url : Endpoint.Url) (headers : Endpoint.Headers)
  | offline (document : String)
deriving DecidableEq, Repr

/-- The target in one line, without its headers. -/
def Target.shown : Target → String
  | .live url _ => "live " ++ url.text
  | .offline document => "offline " ++ document

def Target.isOffline : Target → Bool
  | .live _ _ => false
  | .offline _ => true

/-- The reading of one attribute. -/
structure Query where
  address : Address
  attributeName : String
deriving DecidableEq, Repr

/-- All that a run needs to know. -/
structure Configuration where
  target : Target
  reload : ReloadPolicy
  batch : Batch
  query : Option Query
  dryRun : Bool
  verbose : Bool
deriving DecidableEq, Repr

namespace Configuration

def shown (configuration : Configuration) : String :=
  "Config \x7b target: " ++ configuration.target.shown ++ ", commands: " ++
    String.ofList (Text.decimal configuration.batch.length) ++
    ", reload_timeout: " ++
    String.ofList (Text.decimal configuration.reload.timeout.seconds) ++
    "s, dry_run: " ++ (if configuration.dryRun then "true" else "false") ++
    " \x7d"

/-! ## The target -/

/-- The locator and the document that decide the target, and where they are
named.  If the command line names one of them, it alone decides. -/
def deciding (line : CommandLine) (file : BatchFile) :
    Option String × Option String × TargetSource :=
  if line.url.isSome || line.document.isSome then
    (line.url, line.document, .commandLine)
  else (file.target.url, file.target.document, .batchFile)

def endpoint (url : String) : Except ConfigurationError Endpoint.Url :=
  match Endpoint.Url.parse url with
  | .ok endpoint => .ok endpoint
  | .error cause => .error (.invalidUrl url cause)

/-- The target of a run, which must be named exactly once. -/
def resolveTarget (line : CommandLine) (file : BatchFile) :
    Except ConfigurationError Target :=
  match deciding line file with
  | (some _, some _, source) => .error (.twoTargets source)
  | (some url, none, _) => do
      let url ← endpoint url
      return .live url (← resolveHeaders line file)
  | (none, some document, _) => .ok (.offline document)
  | (none, none, _) => .error .noTarget

/-! ## The waiting times -/

/-- The timeout in seconds when none is given. -/
def defaultTimeout : UInt64 := 60

/-- The seconds between two reads of the state when none are given. -/
def defaultPollInterval : UInt64 := 1

/-- The timeout in seconds: the command line goes before the file. -/
def timeout (line : CommandLine) (file : BatchFile) : UInt64 :=
  (line.reloadTimeout.or file.reload.timeout).getD defaultTimeout

/-- The seconds between two reads of the state. -/
def pollInterval (file : BatchFile) : UInt64 :=
  file.reload.pollInterval.getD defaultPollInterval

/-- The policy of a run: both times are positive, and the server is asked at
least once within the timeout. -/
def resolveReload (line : CommandLine) (file : BatchFile) :
    Except ConfigurationError ReloadPolicy :=
  let timeout := timeout line file
  let pollInterval := pollInterval file
  if timeout = 0 then .error (.zeroWait .timeout)
  else if pollInterval = 0 then .error (.zeroWait .pollInterval)
  else if timeout < pollInterval then .error (.longInterval timeout)
  else
    .ok
      { timeout := .ofSeconds timeout.toNat
        pollInterval := .ofSeconds pollInterval.toNat }

/-! ## The query and the entries -/

/-- The query of a run, which needs a live target. -/
def resolveQuery (line : CommandLine) (target : Target) :
    Except ConfigurationError (Option Query) :=
  match line.query? with
  | none => .ok none
  | some (address, attributeName) =>
      if target.isOffline then .error .liveOnly
      else
        match Address.parse address with
        | .ok address => .ok (some ⟨address, attributeName⟩)
        | .error cause => .error (.invalidAddress cause)

/-- The commands of entries, whose positions are counted from an index. -/
def resolveEntriesFrom : Nat → List ResourceDraft →
    Except ConfigurationError Batch
  | _, [] => .ok []
  | index, entry :: rest =>
      match entry.command with
      | .error cause => .error (.invalidEntry index entry.kind cause)
      | .ok command =>
          (resolveEntriesFrom (index + 1) rest).map fun others =>
            command :: others

/-- The commands of the entries of a batch file. -/
def resolveEntries (file : BatchFile) : Except ConfigurationError Batch :=
  resolveEntriesFrom 0 file.entries

/-! ## The whole -/

/-- The configuration of a command line and a batch file. -/
def resolve (line : CommandLine) (file : BatchFile) :
    Except ConfigurationError Configuration := do
  let target ← resolveTarget line file
  let reload ← resolveReload line file
  let query ← resolveQuery line target
  let batch ← resolveEntries file
  return {
    target
    reload
    batch
    query
    dryRun := line.dryRun
    verbose := line.verbose }

/-- The contents of the batch file that a command line names; without one it
is an empty file. -/
def batchFile (line : CommandLine) (files : FileSystem) :
    Except ConfigurationError BatchFile :=
  match line.config with
  | none => .ok { }
  | some path =>
      match files.readText path with
      | .error cause => .error (.unreadable path cause)
      | .ok text =>
          match BatchFile.parse text with
          | .ok file => .ok file
          | .error cause => .error (.batchFile cause)

def load (line : CommandLine) (files : FileSystem) :
    Except ConfigurationError Configuration := do
  resolve line (← batchFile line files)

end Configuration

end Provision
