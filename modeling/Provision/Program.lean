import Provision.BatchFile.Template
import Provision.CommandLine.Help
import Provision.Run

/-!
Contract: the program as a function of its arguments and of the files.

Owns:
- the ending of the program, which is its exit code and what it prints;
- the hints that go with some errors of the configuration;
- `Program.run`.

Does not own: printing, and the files of the machine.
-/

namespace Provision

namespace CommandLine

/-- The wording of a command line that is not accepted. -/
def Misuse.message : Misuse → String
  | .unknownArgument => "unexpected argument found"
  | .invalidValue => "a value is required"
  | .valueValidation => "a value is invalid"
  | .argumentConflict => "an argument cannot be used multiple times"
  | .missingArgument => "a required argument was not provided"
  | .invalidSubcommand => "unrecognized subcommand"
  | .tooManyValues => "unexpected value found"

end CommandLine

/-- What a user can do about an error of the configuration. -/
def ConfigurationError.hint? : ConfigurationError → Option String
  | .noTarget =>
      some ("Pass --url for a running server or --document for an offline " ++
        "file.")
  | .unreadable _ _ =>
      some "Run 'elytron-ops init' to generate a batch file template."
  | .invalidEntry index _ _ =>
      some ("Check [[command]] entry #" ++
        String.ofList (Text.decimal (index + 1)) ++ " of the batch file.")
  | _ => none

namespace Program

/-- How the program ends: its exit code, the lines that it printed, and those
that it printed about errors. -/
structure Ending where
  code : UInt8
  output : List String := []
  complaints : List String := []
deriving DecidableEq, Repr

/-- The exit code of a program that did what was asked. -/
def success : UInt8 := 0

/-- The exit code of a program without a configuration. -/
def configurationFailure : UInt8 := 1

/-- The exit code of a run that failed, and of a command line that is not
accepted. -/
def runFailure : UInt8 := 2

/-- The ending of a command line that is not a request. -/
def interrupted : CommandLine.Interruption → Ending
  | .help page => { code := success, output := page.lines }
  | .version => { code := success, output := [CommandLine.versionText] }
  | .misuse cause =>
      { code := runFailure, complaints := ["error: " ++ cause.message] }

def writeNew (path : String) (files : FileSystem) : Ending × FileSystem :=
  match (BatchFile.writeTemplate path).runFrom files with
  | (.ok (), after) =>
      ({ code := success
         output := ["Batch file template written to: " ++ path] }, after)
  | (.error error, after) =>
      ({ code := configurationFailure
         complaints := ["Error: " ++ error.message] }, after)

/-- The ending of a program without a configuration. -/
def unconfigured (error : ConfigurationError) : Ending :=
  { code := configurationFailure
    complaints :=
      ("Configuration error: " ++ error.message) ::
        match error.hint? with
        | some hint => ["", hint]
        | none => [] }

/-- The events of a run as a user sees them: the configuration first, and last
the error if there was one. -/
def events (configuration : Configuration) (report : RunReport) :
    List LogEvent :=
  .info configuration.shown [] :: configuration.reported report ++
    match report.result with
    | .ok _ => []
    | .error error =>
        [⟨.error, "Application error: " ++ error.message, []⟩]

def finished (configuration : Configuration) (report : RunReport) : Ending :=
  let lines := (events configuration report).map LogEvent.line
  match report.result with
  | .ok value =>
      { code := success
        output := lines ++ (value.map Value.shown).toList }
  | .error _ => { code := runFailure, output := lines }

/-- Runs the program.  Nothing but a run may change a document, and nothing
but `init` writes a batch file. -/
def run (transport : Transport) (arguments : List String)
    (files : FileSystem) : Ending × FileSystem :=
  match CommandLine.read arguments with
  | .error interruption => (interrupted interruption, files)
  | .ok line =>
      match line.action with
      | some (.init output) => writeNew output files
      | _ =>
          match Configuration.load line files with
          | .error error => (unconfigured error, files)
          | .ok configuration =>
              let (report, after) :=
                configuration.execute transport files
              (finished configuration report, after)

end Program

end Provision
