import Provision.Json.Printer
import Provision.Json.Reader
import Provision.Text.Lossy

/-!
Contract: the answer to a management operation, read from its body.

An answer is an object with named members, of which unknown ones are skipped,
or an array with the members in order.  A member that is given twice, or that
has the wrong shape, makes the whole body unreadable.  So do bytes that are no
characters, unless they stand in a string that is skipped.

Owns:
- the answer and the reader of a body;
- the text that describes a failure.

Does not own: what an answer means for the operation that was asked.
-/

namespace Provision

/-- A decoded answer. -/
structure Response where
  outcome : String
  result : Json
  failureDescription : Json
  requiresReload : Bool
deriving DecidableEq, Repr

namespace Response

def isSuccess (response : Response) : Bool :=
  response.outcome = "success"

/-- The description of a failure: the text that was sent, the text of any
other document, or the outcome itself where nothing was sent. -/
def failure (response : Response) : String :=
  match response.failureDescription with
  | .string text => text
  | .null => "outcome '" ++ response.outcome ++ "'"
  | other => other.compactText

/-- One member of an answer. -/
inductive Part where
  | outcome (text : String)
  | result (document : Json)
  | failureDescription (document : Json)
  | requiresReload (flag : Bool)
  | skipped

/-- Reads one member, with a bound on the loops inside it. -/
abbrev PartReader := Nat → Json.Reader Part

/-- The deepest nesting inside a member of an answer. -/
def memberDepth : Nat := Json.greatestDepth - 1

def mapReader {α β : Type} (change : α → β) (reader : Json.Reader α) :
    Json.Reader β :=
  fun text => (reader text).map fun read => (change read.1, read.2)

def readFlag (text : List Char) : Option (Bool × List Char) :=
  match Json.readWord text with
  | some (.boolean flag, rest) => some (flag, rest)
  | _ => none

def skip (bound : Nat) : Json.Reader Unit :=
  Json.skipping.value bound bound

def readOutcome : PartReader :=
  fun _ => mapReader .outcome Json.readString

/-- Any document of the depth that is left. -/
def readDocument (bound : Nat) : Json.Reader Json :=
  Json.building.value bound memberDepth

/-- The values that are given under one name, if it is given at most once. -/
def single {α β : Type} (pick : α → Option β) (parts : List α) :
    Option (Option β) :=
  match parts.filterMap pick with
  | [] => some none
  | [only] => some (some only)
  | _ => none

/-- The member of the headers that is understood. -/
def reloadMember : String := "operation-requires-reload"

/-- One member of the headers: the flag, or nothing for an unknown name. -/
def readHeader (bound : Nat) (name : String) : Json.Reader (Option Bool) :=
  if name = reloadMember then mapReader some readFlag
  else mapReader (fun _ => none) (skip bound)

/-- The headers: an object, or an array with at most the one flag. -/
def readHeaders (bound : Nat) : Json.Reader Bool
  | '\x7b' :: rest =>
      match Json.readObject Json.readString (readHeader bound) bound rest with
      | some (members, after) =>
          (single Prod.snd members).map fun flag => (flag.getD false, after)
      | none => none
  | '[' :: rest =>
      match Json.skipSpace rest with
      | ']' :: after => some (false, after)
      | _ =>
          (Json.readTuple [readFlag] rest).map fun read =>
            (read.1.head?.getD false, read.2)
  | _ => none

/-- The members of an answer in order, each with its reader. -/
def parts : List (String × PartReader) :=
  [("outcome", readOutcome),
    ("result", fun bound => mapReader .result (readDocument bound)),
    ("failure-description",
      fun bound => mapReader .failureDescription (readDocument bound)),
    ("response-headers",
      fun bound => mapReader .requiresReload (readHeaders bound))]

/-- One named member; an unknown name is skipped with its value. -/
def readPart (bound : Nat) (name : String) : Json.Reader Part :=
  match Members.get? name parts with
  | some reader => reader bound
  | none => mapReader (fun _ => .skipped) (skip bound)

/-- The answer that the parts make: each at most once, with an outcome. -/
def ofParts (given : List Part) : Option Response := do
  let outcome ← single (fun
    | .outcome text => some text
    | _ => none) given
  let result ← single (fun
    | .result document => some document
    | _ => none) given
  let failureDescription ← single (fun
    | .failureDescription document => some document
    | _ => none) given
  let requiresReload ← single (fun
    | .requiresReload flag => some flag
    | _ => none) given
  let text ← outcome
  some
    { outcome := text
      result := result.getD .null
      failureDescription := failureDescription.getD .null
      requiresReload := requiresReload.getD false }

def reader (bound : Nat) : Json.Reader Response
  | '\x7b' :: rest =>
      match Json.readObject Json.readString (readPart bound) bound rest with
      | some (members, after) =>
          (ofParts (members.map Prod.snd)).map fun read => (read, after)
      | none => none
  | '[' :: rest =>
      match Json.readTuple (parts.map fun part => part.2 bound) rest with
      | some (given, after) =>
          (ofParts given).map fun read => (read, after)
      | none => none
  | _ => none

/-- What stands for bytes that are no character: a question mark, which
nothing but a string may hold and no escape may end in, and an escape for half
a pair, which can be skipped but not read. -/
def strayMark : List Char := "?\\udc00".toList

def charactersOf (body : ByteArray) : List Char :=
  match String.fromUTF8? body with
  | some text => text.toList
  | none => Text.charactersOf strayMark (body.toList.map UInt8.toNat)

def ofCharacters? (characters : List Char) : Option Response :=
  Json.wholly (reader (characters.length + 1)) characters

def ofBody? (body : ByteArray) : Option Response :=
  ofCharacters? (charactersOf body)

end Response

end Provision
