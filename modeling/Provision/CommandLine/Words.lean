import Provision.CommandLine.Options
import Provision.Text.Pieces

/-!
Contract: the words of a command line, read from left to right.

An option whose value has not come yet, or has just come as a word of its own,
is pending.  It is settled when the next option begins or the level ends, so a
fault of its value shows only then.

Owns:
- the forms of a word;
- what is given at a level;
- `readLevel`, which ends at a subcommand.

Does not own: which options there are.
-/

namespace Provision.CommandLine

/-- The form of a word. -/
inductive Word where
  | separator
  | long (name : String) (attached : Option String)
  | letters (letters : List Char)
  | plain
deriving DecidableEq, Repr

/-- The form of a word by its dashes; a single dash is a plain word. -/
def Word.ofText (text : String) : Word :=
  match text.toList with
  | ['-', '-'] => .separator
  | '-' :: '-' :: rest =>
      match Text.cutAt '=' rest with
      | some (name, value) =>
          .long (String.ofList name) (some (String.ofList value))
      | none => .long (String.ofList rest) none
  | '-' :: letter :: rest => .letters (letter :: rest)
  | _ => .plain

/-- What is given at a level: the values and flags that are settled, and the
option that is pending, perhaps with its value. -/
structure Given where
  values : List (ValueOption × String) := []
  flags : List Flag := []
  pending : Option (ValueOption × Option String) := none
deriving DecidableEq, Repr

namespace Given

def allValues (given : Given) (option : ValueOption) : List String :=
  (given.values.filter fun value => value.1 = option).map fun value => value.2

def value? (given : Given) (option : ValueOption) : Option String :=
  (given.allValues option).head?

def has (given : Given) (flag : Flag) : Bool :=
  given.flags.contains flag

/-- Whether the next word is the value of an option. -/
def awaits (given : Given) : Bool :=
  match given.pending with
  | some (_, none) => true
  | _ => false

/-- Adds a value.  An option that is given again is refused before its value
is looked at. -/
def addValue (given : Given) (option : ValueOption) (value : String) :
    Except Interruption Given :=
  if !option.repeats && (given.value? option).isSome then
    .error (.misuse .argumentConflict)
  else
    match option.misuse? value with
    | some cause => .error (.misuse cause)
    | none => .ok { given with values := given.values ++ [(option, value)] }

def settle (given : Given) : Except Interruption Given :=
  match given.pending with
  | none => .ok given
  | some (_, none) => .error (.misuse .invalidValue)
  | some (option, some value) =>
      { given with pending := none }.addValue option value

/-- Begins an option, whose value may be attached to it. -/
def beginOption (given : Given) (option : ValueOption)
    (attached : Option String) : Except Interruption Given := do
  let settled ← given.settle
  match attached with
  | some value => settled.addValue option value
  | none => return { settled with pending := some (option, none) }

/-- Raises a flag.  The flags that ask for a text end the reading. -/
def raiseFlag (given : Given) (level : Level) (flag : Flag) :
    Except Interruption Given := do
  let settled ← given.settle
  match flag with
  | .help => throw (.help (.level level))
  | .version => throw .version
  | _ =>
      if settled.has flag then throw (.misuse .argumentConflict)
      else return { settled with flags := settled.flags ++ [flag] }

end Given

/-- Reads an option by its long name. -/
def readLong (level : Level) (given : Given) (name : String)
    (attached : Option String) : Except Interruption Given :=
  match level.long? name, attached with
  | none, _ => .error (.misuse .unknownArgument)
  | some (.valued option), _ => given.beginOption option attached
  | some (.flag _), some _ => .error (.misuse .tooManyValues)
  | some (.flag flag), none => given.raiseFlag level flag

/-- The value that stands in one word with the letter of its option; an equals
sign may stand between them. -/
def attachedTo : List Char → Option String
  | [] => none
  | '=' :: value => some (String.ofList value)
  | value => some (String.ofList value)

/-- Reads options by their letters, which may stand in one word. -/
def readLetters (level : Level) :
    Given → List Char → Except Interruption Given
  | given, [] => .ok given
  | given, letter :: rest => do
      match level.letter? letter with
      | none => throw (.misuse .unknownArgument)
      | some (.valued option) => given.beginOption option (attachedTo rest)
      | some (.flag flag) =>
          readLetters level (← given.raiseFlag level flag) rest

/-- A word that ends the reading of what stands before a subcommand. -/
inductive Next where
  | subcommand (subcommand : Subcommand)
  | help
deriving DecidableEq, Repr

def Next.ofText? (text : String) : Option Next :=
  if text = "help" then some .help
  else
    ([Subcommand.apply, .init, .query].find? fun subcommand =>
      subcommand.text = text).map .subcommand

/-- The refusal of a plain word that is no value: before a subcommand it
should have been one, unless it is one that a separator has hidden. -/
def Level.refusePlain (level : Level) (hidden : Bool) (text : String) :
    Interruption :=
  match level with
  | .top =>
      if hidden && (Next.ofText? text).isSome then .misuse .unknownArgument
      else .misuse .invalidSubcommand
  | .behind _ => .misuse .unknownArgument

def Level.next? (level : Level) (given : Given) (text : String) :
    Option Next :=
  if level = .top && !given.awaits then Next.ofText? text else none

/-- Reads the words of a level, up to a subcommand.  Behind a separator no
word is accepted. -/
def readLevel (level : Level) :
    Bool → Given → List String →
      Except Interruption (Given × Option (Next × List String))
  | _, given, [] => .ok (given, none)
  | true, _, text :: _ => .error (level.refusePlain true text)
  | false, given, text :: rest => do
      match level.next? given text, Word.ofText text with
      | some next, _ => return (given, some (next, rest))
      | none, .separator => readLevel level true given rest
      | none, .long name attached =>
          readLevel level false (← readLong level given name attached) rest
      | none, .letters letters =>
          readLevel level false (← readLetters level given letters) rest
      | none, .plain =>
          match given.pending with
          | some (option, none) =>
              let given :=
                { given with pending := some (option, some text) }
              readLevel level false given rest
          | _ => throw (level.refusePlain false text)

end Provision.CommandLine
