import Provision.Text.Digits
import Provision.Text.Quoted

/-!
Contract: what a run reports while it goes on.

Owns:
- events with their severities and fields;
- the line of text of an event, in which no message controls a terminal.

Does not own: which events there are.
-/

namespace Provision

/-- How much an event matters. -/
inductive Severity where
  | debug
  | info
  | warn
  | error
deriving DecidableEq, Repr

def Severity.text : Severity → String
  | .debug => "DEBUG"
  | .info => "INFO"
  | .warn => "WARN"
  | .error => "ERROR"

/-- What a field of an event holds: a text that lines show in quotes, or one
that they show as it is. -/
inductive LogText where
  | quoted (text : String)
  | plain (text : String)
deriving DecidableEq, Repr

def LogText.text : LogText → String
  | .quoted text => text
  | .plain text => text

def LogText.shown : LogText → String
  | .quoted text => Text.quoted text
  | .plain text => text

def LogText.number (value : Nat) : LogText :=
  .plain (String.ofList (Text.decimal value))

/-- An event. -/
structure LogEvent where
  severity : Severity
  message : String
  fields : List (String × LogText) := []
deriving DecidableEq, Repr

namespace LogEvent

/-- An event that a reader of the log should know. -/
def info (message : String) (fields : List (String × LogText)) : LogEvent :=
  ⟨.info, message, fields⟩

/-- An event that only a close reader wants to know. -/
def debug (message : String) (fields : List (String × LogText)) : LogEvent :=
  ⟨.debug, message, fields⟩

def isReported (verbose : Bool) (event : LogEvent) : Bool :=
  verbose || event.severity ≠ .debug

/-- The characters that stand in a line for a character of a message; those
that control a terminal are written by number. -/
def shownCharacter (character : Char) : List Char :=
  let code := character.toNat
  if [0x07, 0x08, 0x0c, 0x1b, 0x7f].contains code then
    "\\x".toList ++ Text.padLeft 2 (Text.hexadecimal code)
  else if 0x80 ≤ code && code ≤ 0x9f then
    "\\u\x7b".toList ++ Text.hexadecimal code ++ ['\x7d']
  else [character]

def shownMessage (message : String) : String :=
  String.ofList (message.toList.flatMap shownCharacter)

def line (event : LogEvent) : String :=
  event.severity.text ++ " " ++ shownMessage event.message ++
    String.join (event.fields.map fun field =>
      " " ++ field.1 ++ "=" ++ field.2.shown)

end LogEvent

end Provision
