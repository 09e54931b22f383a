import Provision.CommandLine.Words

/-!
Contract: what a user asks for on the command line.

Owns:
- the request, with what every option says;
- `CommandLine.read`, which makes it of the arguments;
- how the options before and after a subcommand go together: a later value
  wins, and a flag counts on either side.

Does not own: the words of the command line, and what the request leads to.
-/

namespace Provision

/-- What to do; a batch is applied where nothing else is asked for. -/
inductive Action where
  | apply
  | init (output : String)
  | query (address : String) (attributeName : String)
deriving DecidableEq, Repr

/-- A request. -/
structure CommandLine where
  action : Option Action := none
  config : Option String := none
  url : Option String := none
  document : Option String := none
  headers : List String := []
  bearer : Option String := none
  reloadTimeout : Option UInt64 := none
  dryRun : Bool := false
  verbose : Bool := false
deriving DecidableEq, Repr

namespace CommandLine

/-- The node and the attribute that are to be read, if the request is for
that. -/
def query? (line : CommandLine) : Option (String × String) :=
  match line.action with
  | some (.query address attributeName) => some (address, attributeName)
  | _ => none

/-- Whether the request is for a new batch file. -/
def isInit (line : CommandLine) : Bool :=
  match line.action with
  | some (.init _) => true
  | _ => false

/-- The file that a new batch file is written to when none is named. -/
def defaultOutput : String := "elytron-ops.toml"

/-- The action of a subcommand with what is given behind it. -/
def actionOf (given : Given) : Subcommand → Except Interruption Action
  | .apply => return .apply
  | .init => return .init ((given.value? .output).getD defaultOutput)
  | .query =>
      match given.value? .address, given.value? .attributeName with
      | some address, some attributeName =>
          return .query address attributeName
      | _, _ => throw (.misuse .missingArgument)

/-- The request that is made by what stands before and behind a
subcommand. -/
def ofGiven (action : Option Action) (before behind : Given) : CommandLine :=
  let value (option : ValueOption) : Option String :=
    (behind.value? option).or (before.value? option)
  let headers := behind.allValues .header
  { action
    config := value .config
    url := value .url
    document := value .document
    headers := if headers.isEmpty then before.allValues .header else headers
    bearer := value .bearer
    reloadTimeout := (value .reloadTimeout).bind readSeconds
    dryRun := before.has .dryRun || behind.has .dryRun
    verbose := before.has .verbose || behind.has .verbose }

/-- The page that is asked for by the words behind `help`: each must name a
subcommand of the one before. -/
def helpPage : List String → Interruption
  | [] => .help (.level .top)
  | [name] =>
      match Next.ofText? name with
      | some (.subcommand subcommand) => .help (.level (.behind subcommand))
      | some .help => .help .helpItself
      | none => .misuse .invalidSubcommand
  | _ => .misuse .invalidSubcommand

/-- Reads the arguments of the program.  What stands behind a subcommand is
read and checked before the last option in front of it is settled. -/
def read (arguments : List String) : Except Interruption CommandLine := do
  let (before, next) ← readLevel .top false { } arguments
  match next with
  | none => return ofGiven none (← before.settle) { }
  | some (.help, rest) => throw (helpPage rest)
  | some (.subcommand subcommand, rest) =>
      let (behind, _) ← readLevel (.behind subcommand) false { } rest
      let behind ← behind.settle
      let action ← actionOf behind subcommand
      return ofGiven (some action) (← before.settle) behind

end CommandLine

end Provision
