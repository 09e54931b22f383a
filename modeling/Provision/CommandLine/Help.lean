import Provision.CommandLine.Options
import Provision.Text.Pieces

/-!
Contract: the texts that the command line can be asked for.

Owns:
- the name, the version and the purpose of the program;
- the help page of each level, and the page of the help subcommand.

Does not own: when a text is shown.
-/

namespace Provision.CommandLine

def programName : String := "elytron-ops"

def versionText : String := programName ++ " 0.1.0"

def purpose : String :=
  "Idempotent, declarative configuration commands for a managed application " ++
    "server, applied live over the management API or offline against a " ++
    "configuration document"

def Subcommand.purpose : Subcommand → String
  | .apply => "Apply every command in the batch file"
  | .init => "Generate a batch file template"
  | .query => "Read one attribute from a running server"

def helpPurpose : String :=
  "Print this message or the help of the given subcommand(s)"

/-- What the value of an option is called. -/
def ValueOption.valueName : ValueOption → String
  | .config => "CONFIG"
  | .url => "URL"
  | .document => "PATH"
  | .header => "K=V"
  | .bearer => "BEARER"
  | .reloadTimeout => "SECS"
  | .output => "OUTPUT"
  | .address => "ADDRESS"
  | .attributeName => "ATTRIBUTE"

def Switch.purpose : Switch → String
  | .valued .config => "Path to the batch file"
  | .valued .url => "Management endpoint of a running server"
  | .valued .document => "Offline configuration document to rewrite"
  | .valued .header =>
      "HTTP headers in 'Key=Value' or 'Key: Value' format (can be specified " ++
        "multiple times)"
  | .valued .bearer => "Bearer token for the Authorization header"
  | .valued .reloadTimeout =>
      "Seconds to wait for the server to come back after a reload"
  | .valued .output =>
      "Output path for the batch file [default: elytron-ops.toml]"
  | .valued .address => "Node address, e.g. /subsystem=elytron/key-store=ks"
  | .valued .attributeName => "Attribute name"
  | .flag .dryRun => "Log each command's address and attributes without " ++
      "applying it"
  | .flag .verbose => "Enable verbose logging"
  | .flag .help => "Print help"
  | .flag .version => "Print version"

/-- An option with the name of its value. -/
def Switch.shown (option : Switch) : String :=
  match option with
  | .valued taking => "--" ++ option.long ++ " <" ++ taking.valueName ++ ">"
  | .flag _ => "--" ++ option.long

/-- A text with blanks behind it up to a width. -/
def padded (width : Nat) (text : String) : String :=
  text ++ String.ofList (List.replicate (width - text.length) ' ')

def greatestLength (texts : List String) : Nat :=
  (texts.map String.length).foldl max 0

/-- The lines of a section with two columns. -/
def tabulated (title : String) (rows : List (String × String × String)) :
    List String :=
  let width := greatestLength (rows.map fun row => row.2.1)
  (title ++ ":") :: rows.map fun row =>
    row.1 ++ padded (width + 2) row.2.1 ++ row.2.2

/-- The section of the options of a level. -/
def Level.optionLines (level : Level) : List String :=
  tabulated "Options" (level.switches.map fun option =>
    let lead := match option.letter? with
      | some letter => "  -" ++ String.singleton letter ++ ", "
      | none => "      "
    (lead, option.shown, option.purpose))

def subcommandLines : List String :=
  tabulated "Commands"
    (([Subcommand.apply, .init, .query].map fun subcommand =>
      ("  ", subcommand.text, subcommand.purpose)) ++
      [("  ", "help", helpPurpose)])

def Level.usage : Level → String
  | .top => "[OPTIONS] [COMMAND]"
  | .behind .query =>
      "query [OPTIONS] " ++ (Switch.valued .address).shown ++ " " ++
        (Switch.valued .attributeName).shown
  | .behind subcommand => subcommand.text ++ " [OPTIONS]"

/-- The lines of a page: its purpose, the usage, and its sections. -/
def pageLines (purpose usage : String) (sections : List (List String)) :
    List String :=
  [purpose, "", "Usage: " ++ programName ++ " " ++ usage] ++
    sections.flatMap fun lines => "" :: lines

/-- The lines of a page of help. -/
def HelpPage.lines : HelpPage → List String
  | .level .top =>
      pageLines CommandLine.purpose (Level.usage .top)
        [subcommandLines, Level.optionLines .top]
  | .level (.behind subcommand) =>
      pageLines subcommand.purpose (Level.usage (.behind subcommand))
        [Level.optionLines (.behind subcommand)]
  | .helpItself =>
      pageLines helpPurpose "help [COMMAND]..."
        [tabulated "Arguments"
          [("  ", "[COMMAND]...", "Print help for the subcommand(s)")]]

end Provision.CommandLine
