import Provision.Configuration
import Provision.Document.File
import Provision.Run.Log
import Provision.Session.Client

/-!
Contract: what a configuration leads to.

A dry run only tells what it would do.  Any other run works on the document or
on the server.  What is reported follows from the batch and from how far the
run came.

Owns:
- the error of a run;
- the events of a batch, of a dry run and of a whole run;
- `Configuration.execute`.

Does not own: the configuration, and how a single command is carried out.
-/

namespace Provision

/-- Why a run fails. -/
inductive RunError where
  | batch (cause : BatchError)
  | query (cause : SessionError)
deriving DecidableEq, Repr

def RunError.message : RunError → String
  | .batch cause => cause.message
  | .query cause => "Query failed: " ++ cause.message

/-- What a run leads to, next to the files after it: the attribute that was
asked for, and what was reported. -/
structure RunReport where
  result : Except RunError (Option Value)
  events : List LogEvent

/-! ## Events of commands -/

namespace Command

/-- The attributes whose values are never shown. -/
def secretAttributes : List String := ["credential-reference"]

def describeAttribute (member : String × Value) : String :=
  member.1 ++ "=" ++
    if secretAttributes.contains member.1 then "<redacted>"
    else member.2.shown

/-- What a command would do, in one line. -/
def description (command : Command) : String :=
  command.kind ++ " " ++ command.address.text ++
    (if command.replaceExisting then " (replace) " else " (create) ") ++
    "\x7b" ++ Text.glue ", " (command.values.map describeAttribute) ++ "\x7d"

/-- The event of a command that a dry run passes over. -/
def rehearsed (command : Command) : LogEvent :=
  .info ("[dry-run] " ++ command.description) []

/-- The event of a command that is carried out. -/
def completed (command : Command) : LogEvent :=
  .info "Applied command"
    [("kind", .quoted command.kind), ("address", .plain command.address.text)]

/-- The event of a command whose transform is about to be applied. -/
def begun (command : Command) (transform : Document.Transform) : LogEvent :=
  .debug "Applying document transform"
    [("address", .plain command.address.text),
      ("transform", .quoted transform.id),
      ("locator", .plain transform.locator.text)]

end Command

/-- The event of a transform that is applied, which comes before the document
is written. -/
def Document.Transform.applied (transform : Document.Transform) : LogEvent :=
  .debug "Applied document transform"
    [("id", .quoted transform.id),
      ("locator", .plain transform.locator.pointer)]

/-- Whether a command failed only when the changed document was written. -/
def CommandError.isWriteFailure : CommandError → Bool
  | .failed _ _ (.document (.write _ _)) => true
  | _ => false

/-! ## Events of batches -/

namespace Batch

/-- The event at the beginning of a batch. -/
def opening (backend : String) (batch : Batch) : LogEvent :=
  .info "Applying batch"
    [("backend", .quoted backend), ("commands", .number batch.length)]

/-- The event at the end of a batch. -/
def closing (backend : String) (count : Nat) : LogEvent :=
  .info "Batch complete"
    [("backend", .quoted backend), ("applied", .number count)]

/-- The event of a batch in which there is nothing to do. -/
def nothingToDo : LogEvent :=
  ⟨.warn, "Batch contains no commands", []⟩

/-- The events of a command that is carried out on a document. -/
def offlineEvents (item : Command × Document.Transform) : List LogEvent :=
  [item.1.begun item.2, item.2.applied, item.1.completed]

/-- The events of a command that fails on a document. -/
def offlineFailureEvents (cause : CommandError)
    (item : Command × Document.Transform) : List LogEvent :=
  item.1.begun item.2 ::
    if cause.isWriteFailure then [item.2.applied] else []

/-- The events between the beginning and the end of a batch that works on a
document. -/
def offlineProgress (batch : Batch) (outcome : Except BatchError Nat) :
    List LogEvent :=
  match batch.transforms, outcome with
  | .error _, _ => []
  | .ok resolved, .ok _ => resolved.flatMap offlineEvents
  | .ok resolved, .error error =>
      (resolved.take error.index).flatMap offlineEvents ++
        (resolved[error.index]?.toList).flatMap
          (offlineFailureEvents error.cause)

/-- The events between the beginning and the end of a batch that works on a
server. -/
def liveProgress (batch : Batch) (outcome : Except BatchError Nat) :
    List LogEvent :=
  match outcome with
  | .ok _ => batch.map Command.completed
  | .error error => (batch.take error.index).map Command.completed

/-- The report of a batch that was run on a backend. -/
def report (backend : String) (batch : Batch) (progress : List LogEvent)
    (outcome : Except BatchError Nat) : RunReport :=
  match outcome with
  | .ok count =>
      { result := .ok none
        events := opening backend batch :: progress ++
          [closing backend count] }
  | .error error =>
      { result := .error (.batch error)
        events := opening backend batch :: progress }

end Batch

/-! ## Runs -/

namespace Configuration

/-- The report of a dry run.  For a document it fails where a command has no
transform, but only after every command was described. -/
def rehearse (configuration : Configuration) : RunReport :=
  let described :=
    LogEvent.info
      "Dry-run mode enabled - commands will be logged but not applied" [] ::
      configuration.batch.map Command.rehearsed
  if configuration.target.isOffline then
    match configuration.batch.transforms with
    | .error error => ⟨.error (.batch error), described⟩
    | .ok resolved =>
        ⟨.ok none, described ++
          [.info "[dry-run] Offline forms resolved"
            [("transforms", .number resolved.length)]]⟩
  else ⟨.ok none, described⟩

def documentFile (path : String) : DocumentFile where
  path := path
  registry := offlineTransforms

/-- The report of a batch without commands. -/
def idle : RunReport :=
  ⟨.ok none, [Batch.nothingToDo]⟩

def executeOffline (path : String) (batch : Batch) (files : FileSystem) :
    RunReport × FileSystem :=
  if batch.isEmpty then (idle, files)
  else
    let (outcome, after) :=
      (batch.runOffline (documentFile path).backend).runFrom files
    (batch.report "offline" (batch.offlineProgress outcome) outcome, after)

def executeLive (client : ManagementClient) (batch : Batch) : RunReport :=
  if batch.isEmpty then idle
  else
    let (outcome, _) := (batch.runLive client.session).runFrom []
    batch.report "live" (batch.liveProgress outcome) outcome

def executeQuery (client : ManagementClient) (query : Query) : RunReport :=
  match ((client.query query.address query.attributeName).runFrom []).1 with
  | .ok value => ⟨.ok (some value), []⟩
  | .error cause => ⟨.error (.query cause), []⟩

/-- Runs a configuration.  A query goes before the batch. -/
def execute (transport : Transport) (configuration : Configuration)
    (files : FileSystem) : RunReport × FileSystem :=
  if configuration.dryRun then (configuration.rehearse, files)
  else
    match configuration.target with
    | .offline path => executeOffline path configuration.batch files
    | .live url headers =>
        let client : ManagementClient :=
          { transport, url, headers, policy := configuration.reload }
        match configuration.query with
        | some query => (executeQuery client query, files)
        | none => (executeLive client configuration.batch, files)

/-- The events of a run that a user gets to see. -/
def reported (configuration : Configuration) (report : RunReport) :
    List LogEvent :=
  report.events.filter (LogEvent.isReported configuration.verbose)

end Configuration

end Provision
