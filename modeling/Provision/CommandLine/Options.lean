import Provision.Text.Digits

/-!
Contract: the options, flags and subcommands of the command line.

Owns:
- the names of all of them, and where each may stand;
- the check of a single value;
- why a command line is not a request.

Does not own: the order of words, and the texts of help pages.
-/

namespace Provision.CommandLine

/-- A subcommand. -/
inductive Subcommand where
  | apply
  | init
  | query
deriving DecidableEq, Repr

def Subcommand.text : Subcommand → String
  | .apply => "apply"
  | .init => "init"
  | .query => "query"

/-- Where a word stands: before any subcommand, or behind one. -/
inductive Level where
  | top
  | behind (subcommand : Subcommand)
deriving DecidableEq, Repr

/-- An option that takes a value. -/
inductive ValueOption where
  | config
  | url
  | document
  | header
  | bearer
  | reloadTimeout
  | output
  | address
  | attributeName
deriving DecidableEq, Repr

/-- An option without a value. -/
inductive Flag where
  | dryRun
  | verbose
  | help
  | version
deriving DecidableEq, Repr

/-- An option of either sort. -/
inductive Switch where
  | valued (option : ValueOption)
  | flag (flag : Flag)
deriving DecidableEq, Repr

/-- The long name of an option, which stands behind two dashes. -/
def Switch.long : Switch → String
  | .valued .config => "config"
  | .valued .url => "url"
  | .valued .document => "document"
  | .valued .header => "header"
  | .valued .bearer => "bearer"
  | .valued .reloadTimeout => "reload-timeout"
  | .valued .output => "output"
  | .valued .address => "address"
  | .valued .attributeName => "attribute"
  | .flag .dryRun => "dry-run"
  | .flag .verbose => "verbose"
  | .flag .help => "help"
  | .flag .version => "version"

/-- The letter of an option, which stands behind one dash. -/
def Switch.letter? : Switch → Option Char
  | .valued .config => some 'c'
  | .valued .output => some 'o'
  | .flag .verbose => some 'v'
  | .flag .help => some 'h'
  | .flag .version => some 'V'
  | _ => none

/-- The options that may stand everywhere, but for the first of them. -/
def sharedSwitches : List Switch :=
  [.valued .document, .valued .header, .valued .bearer,
    .valued .reloadTimeout, .flag .dryRun, .flag .verbose, .flag .help]

/-- The options that may stand at a level, in the order of its help page. -/
def Level.switches : Level → List Switch
  | .top =>
      .valued .config :: .valued .url :: sharedSwitches ++ [.flag .version]
  | .behind .apply => .valued .config :: .valued .url :: sharedSwitches
  | .behind .init =>
      .valued .config :: .valued .output :: .valued .url :: sharedSwitches
  | .behind .query =>
      .valued .address :: .valued .config :: .valued .attributeName ::
        .valued .url :: sharedSwitches

/-- The option with a long name at a level. -/
def Level.long? (level : Level) (name : String) : Option Switch :=
  level.switches.find? fun option => option.long = name

/-- The option with a letter at a level. -/
def Level.letter? (level : Level) (letter : Char) : Option Switch :=
  level.switches.find? fun option => option.letter? = some letter

/-- Why a command line is not accepted. -/
inductive Misuse where
  | unknownArgument
  | invalidValue
  | valueValidation
  | argumentConflict
  | missingArgument
  | invalidSubcommand
  | tooManyValues
deriving DecidableEq, Repr

/-- A page of help. -/
inductive HelpPage where
  | level (level : Level)
  | helpItself
deriving DecidableEq, Repr

/-- Why a command line is not a request: it is not accepted, or it asks for a
text. -/
inductive Interruption where
  | misuse (cause : Misuse)
  | help (page : HelpPage)
  | version
deriving DecidableEq, Repr

/-- A number of seconds, in decimal digits that a plus sign may precede. -/
def readSeconds (text : String) : Option UInt64 :=
  let digits := match text.toList with
    | '+' :: rest => rest
    | characters => characters
  match Text.readNatural 10 digits with
  | some seconds =>
      if seconds < UInt64.size then some (UInt64.ofNat seconds) else none
  | none => none

/-- What is wrong with a value: a path must not be empty, and seconds must be
a number. -/
def ValueOption.misuse? (option : ValueOption) (value : String) :
    Option Misuse :=
  match option with
  | .config | .document | .output =>
      if value = "" then some .invalidValue else none
  | .reloadTimeout =>
      if (readSeconds value).isNone then some .valueValidation else none
  | _ => none

/-- Whether an option may be given again. -/
def ValueOption.repeats : ValueOption → Bool
  | .header => true
  | _ => false

end Provision.CommandLine
