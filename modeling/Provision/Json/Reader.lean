import Provision.Json.NumberText

/-!
Contract: reading the text of a data document.

A reader takes a value off the front of a list of characters and gives back
the rest.  Containers nest to a given depth; the loops over items and members
are bounded by the length of the text, which no document exhausts.

Owns:
- strings with their escapes, where a lone surrogate is refused;
- the characters that belong to a number;
- `parse`, one value with blanks around it and nothing else;
- `skipping`, which only checks the shape of a value that nobody asked for.

Does not own: the value of a number text, records and their fields.
-/

namespace Provision.Json

/-- Takes a value off the front of a text. -/
abbrev Reader (α : Type) := List Char → Option (α × List Char)

/-- The deepest nesting of containers in a document. -/
def greatestDepth : Nat := 127

/-- A blank between the marks of a document. -/
def isSpace (character : Char) : Bool :=
  character = ' ' || character = '\t' || character = '\n' || character = '\r'

def skipSpace (text : List Char) : List Char :=
  text.dropWhile isSpace

/-- The number that four hexadecimal digits write. -/
def hexUnit (first second third fourth : Char) : Option Nat :=
  Text.readNatural 16 [first, second, third, fourth]

/-- Whether a code unit is the first half of a pair. -/
def isHighHalf (unit : Nat) : Bool :=
  0xd800 ≤ unit && unit ≤ 0xdbff

/-- Whether a code unit is the second half of a pair. -/
def isLowHalf (unit : Nat) : Bool :=
  0xdc00 ≤ unit && unit ≤ 0xdfff

/-- The character that a pair of code units stands for. -/
def joinHalves (high low : Nat) : Char :=
  Char.ofNat (0x10000 + (high - 0xd800) * 0x400 + (low - 0xdc00))

/-- The character of an escape of one letter. -/
def shortEscape : Char → Option Char
  | '"' => some '"'
  | '\\' => some '\\'
  | '/' => some '/'
  | 'b' => some '\x08'
  | 'f' => some '\x0c'
  | 'n' => some '\n'
  | 'r' => some '\r'
  | 't' => some '\t'
  | _ => none

/-- Puts a character in front of what the rest of a string reads as. -/
def prepend (character : Char)
    (read : Option (List Char × List Char)) : Option (List Char × List Char) :=
  read.map fun result => (character :: result.1, result.2)

/-- The characters of a string up to its closing quote.  After the first half
of a pair of code units only the escape of a second half may follow. -/
def readCharacters : Option Nat → List Char → Option (List Char × List Char)
  | some high, '\\' :: 'u' :: first :: second :: third :: fourth :: rest =>
      match hexUnit first second third fourth with
      | some low =>
          if isLowHalf low then
            prepend (joinHalves high low) (readCharacters none rest)
          else none
      | none => none
  | some _, _ => none
  | none, [] => none
  | none, '"' :: rest => some ([], rest)
  | none, '\\' :: 'u' :: first :: second :: third :: fourth :: rest =>
      match hexUnit first second third fourth with
      | some unit =>
          if isHighHalf unit then readCharacters (some unit) rest
          else if isLowHalf unit then none
          else prepend (Char.ofNat unit) (readCharacters none rest)
      | none => none
  | none, '\\' :: mark :: rest =>
      match shortEscape mark with
      | some character => prepend character (readCharacters none rest)
      | none => none
  | none, character :: rest =>
      if character = '\\' || character.toNat < 0x20 then none
      else prepend character (readCharacters none rest)

def readString : Reader String
  | '"' :: rest =>
      (readCharacters none rest).map fun result =>
        (String.ofList result.1, result.2)
  | _ => none

/-- Skips the characters of a string up to its closing quote.  An escape of a
code unit is not asked whether it makes a character. -/
def skipCharacters : List Char → Option (List Char)
  | [] => none
  | '"' :: rest => some rest
  | '\\' :: 'u' :: first :: second :: third :: fourth :: rest =>
      if (hexUnit first second third fourth).isSome then skipCharacters rest
      else none
  | '\\' :: mark :: rest =>
      if (shortEscape mark).isSome then skipCharacters rest else none
  | character :: rest =>
      if character = '\\' || character.toNat < 0x20 then none
      else skipCharacters rest

def skipString : Reader String
  | '"' :: rest => (skipCharacters rest).map fun rest => ("", rest)
  | _ => none

/-- The digits after a point.  A point without a digit is refused. -/
def scanFraction : Reader (List Char)
  | '.' :: rest =>
      let digits := rest.takeWhile Text.isDecimal
      if digits.isEmpty then none
      else some (digits, rest.dropWhile Text.isDecimal)
  | text => some ([], text)

/-- The sign in front of a power of ten: whether it is a minus sign. -/
def scanSign : List Char → Bool × List Char
  | '-' :: rest => (true, rest)
  | '+' :: rest => (false, rest)
  | text => (false, text)

/-- The power of ten after its mark.  A mark without a digit is refused. -/
def scanExponent : Reader (Option Int)
  | mark :: rest =>
      if mark = 'e' || mark = 'E' then
        let sign := scanSign rest
        let digits := sign.2.takeWhile Text.isDecimal
        if digits.isEmpty then none
        else
          let power : Int := Text.digitsFrom 10 0 digits
          some (some (if sign.1 then -power else power),
            sign.2.dropWhile Text.isDecimal)
      else some (none, mark :: rest)
  | [] => some (none, [])

/-- A number as it is written.  A zero in front of other digits is refused. -/
def scanNumber (text : List Char) : Option (NumberText × List Char) :=
  let negative := text.head? = some '-'
  let body := if negative then text.tail else text
  let whole := body.takeWhile Text.isDecimal
  if whole.isEmpty || (whole.head? = some '0' && 1 < whole.length) then none
  else
    match scanFraction (body.dropWhile Text.isDecimal) with
    | none => none
    | some (fraction, afterFraction) =>
        match scanExponent afterFraction with
        | none => none
        | some (exponent, rest) =>
            some (⟨negative, whole, fraction, exponent⟩, rest)

/-- One of the three words of a document. -/
def readWord : Reader Json
  | 'n' :: 'u' :: 'l' :: 'l' :: rest => some (.null, rest)
  | 't' :: 'r' :: 'u' :: 'e' :: rest => some (.boolean true, rest)
  | 'f' :: 'a' :: 'l' :: 's' :: 'e' :: rest => some (.boolean false, rest)
  | _ => none

def readLeaf (text : List Char) : Option (Json × List Char) :=
  match text with
  | '"' :: _ =>
      (readString text).map fun result => (.string result.1, result.2)
  | first :: _ =>
      if first = '-' || Text.isDecimal first then
        match scanNumber text with
        | some (written, rest) =>
            written.value?.map fun value => (.number value, rest)
        | none => none
      else readWord text
  | [] => none

/-- Skips a value that is no container. -/
def skipLeaf (text : List Char) : Option (Unit × List Char) :=
  match text with
  | '"' :: _ => (skipString text).map fun result => ((), result.2)
  | first :: _ =>
      if first = '-' || Text.isDecimal first then
        (scanNumber text).map fun result => ((), result.2)
      else (readWord text).map fun result => ((), result.2)
  | [] => none

/-- The items of an array that has one, up to its closing bracket. -/
def readItems {α : Type} (item : Reader α) :
    Nat → List Char → Option (List α × List Char)
  | 0, _ => none
  | bound + 1, text =>
      match item (skipSpace text) with
      | none => none
      | some (first, rest) =>
          match skipSpace rest with
          | ',' :: more =>
              (readItems item bound more).map fun result =>
                (first :: result.1, result.2)
          | ']' :: more => some ([first], more)
          | _ => none

def readArray {α : Type} (item : Reader α) (bound : Nat) (text : List Char) :
    Option (List α × List Char) :=
  match skipSpace text with
  | ']' :: rest => some ([], rest)
  | _ => readItems item bound text

/-- The items of an array that has one, read by one reader after the other.
An array may end early, but it has no item without a reader. -/
def readTuple {α : Type} :
    List (Reader α) → List Char → Option (List α × List Char)
  | [], _ => none
  | item :: more, text =>
      match item (skipSpace text) with
      | none => none
      | some (first, rest) =>
          match skipSpace rest with
          | ',' :: next =>
              (readTuple more next).map fun result =>
                (first :: result.1, result.2)
          | ']' :: next => some ([first], next)
          | _ => none

/-- The members of an object that has one, up to its closing brace.  How a
value is read may depend on its name. -/
def readMembers {α : Type} (name : Reader String) (value : String → Reader α) :
    Nat → List Char → Option (List (String × α) × List Char)
  | 0, _ => none
  | bound + 1, text =>
      match name (skipSpace text) with
      | none => none
      | some (key, afterKey) =>
          match skipSpace afterKey with
          | ':' :: afterColon =>
              match value key (skipSpace afterColon) with
              | none => none
              | some (first, rest) =>
                  match skipSpace rest with
                  | ',' :: more =>
                      (readMembers name value bound more).map fun result =>
                        ((key, first) :: result.1, result.2)
                  | '}' :: more => some ([(key, first)], more)
                  | _ => none
          | _ => none

def readObject {α : Type} (name : Reader String) (value : String → Reader α)
    (bound : Nat) (text : List Char) :
    Option (List (String × α) × List Char) :=
  match skipSpace text with
  | '}' :: rest => some ([], rest)
  | _ => readMembers name value bound text

/-- What a reading makes of the parts of a document. -/
structure Reading (α : Type) where
  leaf : Reader α
  name : Reader String
  array : List α → α
  object : List (String × α) → α

/-- Reads a value whose containers nest at most to the depth. -/
def Reading.value {α : Type} (reading : Reading α) (bound : Nat) :
    Nat → Reader α
  | 0, text => reading.leaf text
  | depth + 1, text =>
      match text with
      | '[' :: rest =>
          (readArray (reading.value bound depth) bound rest).map fun result =>
            (reading.array result.1, result.2)
      | '{' :: rest =>
          (readObject reading.name (fun _ => reading.value bound depth) bound
            rest).map fun result => (reading.object result.1, result.2)
      | _ => reading.leaf text

/-- Builds the tree.  Of two members with one name the first gives the place
and the last gives the value. -/
def building : Reading Json where
  leaf := readLeaf
  name := readString
  array := .array
  object := fun members => .object (Members.ofPairs members)

def skipping : Reading Unit where
  leaf := skipLeaf
  name := skipString
  array := fun _ => ()
  object := fun _ => ()

/-- A value with blanks around it and nothing else. -/
def wholly {α : Type} (reader : Reader α) (text : List Char) : Option α :=
  match reader (skipSpace text) with
  | some (value, rest) => if (skipSpace rest).isEmpty then some value else none
  | none => none

def parse (text : String) : Option Json :=
  let characters := text.toList
  wholly (building.value (characters.length + 1) greatestDepth) characters

end Provision.Json
