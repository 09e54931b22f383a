import Provision.Text.Digits

/-!
Contract: quoted texts and keys of a batch file.

A text stands in double quotes, with escapes, or in single quotes, without.
Three quotes open a text that may run over several lines.

Owns:
- blanks, line ends and comments;
- the four kinds of quoted texts;
- keys, which are plain or quoted and may be joined by dots.

Does not own: values of any other kind.
-/

namespace Provision.Toml

/-- Takes something off the front of a text. -/
abbrev Reader (α : Type) := List Char → Option (α × List Char)

def isBlank (character : Char) : Bool :=
  character = ' ' || character = '\t'

def skipBlanks (text : List Char) : List Char :=
  text.dropWhile isBlank

/-- Whether a character may stand in comments and in quoted texts: a tab, or
anything that is no control character of ASCII. -/
def isPlain (character : Char) : Bool :=
  character = '\t' || (0x20 ≤ character.toNat && character.toNat ≠ 0x7f)

/-- The text behind a line end, if there is one at the front. -/
def afterLineEnd : List Char → Option (List Char)
  | '\n' :: rest => some rest
  | '\r' :: '\n' :: rest => some rest
  | _ => none

/-- Skips a comment, if there is one at the front. -/
def skipComment (text : List Char) : List Char :=
  match text with
  | '#' :: rest => rest.dropWhile isPlain
  | _ => text

/-- Skips blanks, comments and line ends, with a bound on their number. -/
def skipGap : Nat → List Char → List Char
  | 0, text => text
  | bound + 1, text =>
      let behind := skipComment (skipBlanks text)
      match afterLineEnd behind with
      | some rest => skipGap bound rest
      | none => behind

/-- The character of an escape of one letter. -/
def shortEscape : Char → Option Char
  | 'b' => some '\x08'
  | 't' => some '\t'
  | 'n' => some '\n'
  | 'f' => some '\x0c'
  | 'r' => some '\r'
  | 'e' => some '\x1b'
  | '"' => some '"'
  | '\\' => some '\\'
  | _ => none

/-- The number of digits behind the mark of a numeric escape. -/
def escapeWidth : Char → Option Nat
  | 'x' => some 2
  | 'u' => some 4
  | 'U' => some 8
  | _ => none

/-- The character with a code point, which must be one. -/
def characterOf (code : Nat) : Option Char :=
  if code < 0xd800 || (0xdfff < code && code ≤ 0x10ffff) then
    some (Char.ofNat code)
  else none

/-- The character of an escape, behind its backslash. -/
def readEscape : Reader Char
  | [] => none
  | mark :: rest =>
      match escapeWidth mark with
      | none => (shortEscape mark).map fun character => (character, rest)
      | some width =>
          let digits := rest.take width
          if digits.length < width then none
          else
            ((Text.readNatural 16 digits).bind characterOf).map fun read =>
              (read, rest.drop width)

/-- Puts characters in front of what the rest of a text reads as. -/
def prepend (characters : List Char)
    (read : Option (List Char × List Char)) : Option (List Char × List Char) :=
  read.map fun result => (characters ++ result.1, result.2)

/-- The characters up to a double quote, with a bound on their number. -/
def readBasic : Nat → Reader (List Char)
  | 0, _ => none
  | _ + 1, [] => none
  | _ + 1, '"' :: rest => some ([], rest)
  | bound + 1, '\\' :: rest =>
      match readEscape rest with
      | some (character, after) =>
          prepend [character] (readBasic bound after)
      | none => none
  | bound + 1, character :: rest =>
      if isPlain character then prepend [character] (readBasic bound rest)
      else none

/-- The characters up to a single quote. -/
def readLiteral : Reader (List Char)
  | [] => none
  | '\'' :: rest => some ([], rest)
  | character :: rest =>
      if isPlain character then prepend [character] (readLiteral rest)
      else none

/-- The text behind a backslash at the end of a line, without the blanks and
line ends that follow. -/
def afterFold (bound : Nat) (text : List Char) : Option (List Char) :=
  (afterLineEnd (skipBlanks text)).map fun rest =>
    skipFold bound rest
where
  /-- Skips blanks and line ends. -/
  skipFold : Nat → List Char → List Char
    | 0, text => text
    | bound + 1, text =>
        match afterLineEnd (skipBlanks text) with
        | some rest => skipFold bound rest
        | none => skipBlanks text

/-- Three to five quotes end a text of several lines; what is more than three
belongs to the text. -/
def closing (quote : Char) (text : List Char) :
    Option (List Char × List Char) :=
  let count := min 5 (text.takeWhile (· = quote)).length
  if count < 3 then none
  else some (List.replicate (count - 3) quote, text.drop count)

/-- A character of a text of several lines, which may be a line end. -/
def readLineCharacter : Reader (List Char)
  | '\n' :: rest => some (['\n'], rest)
  | '\r' :: '\n' :: rest => some (['\r', '\n'], rest)
  | character :: rest =>
      if isPlain character then some ([character], rest) else none
  | [] => none

/-- The characters of a text of several lines, with a bound on their number.
Escapes count only behind double quotes. -/
def readLines (quote : Char) : Nat → Reader (List Char)
  | 0, _ => none
  | bound + 1, text =>
      match closing quote text with
      | some ended => some ended
      | none =>
          let next : Option (List Char × List Char) :=
            match text with
            | '\\' :: rest =>
                if quote = '"' then
                  match afterFold bound rest with
                  | some after => some ([], after)
                  | none => (readEscape rest).map fun read =>
                      ([read.1], read.2)
                else readLineCharacter text
            | _ => readLineCharacter text
          match next with
          | some (characters, rest) =>
              prepend characters (readLines quote bound rest)
          | none => none

/-- The text behind a line end that directly follows the opening quotes. -/
def skipFirstLineEnd (text : List Char) : List Char :=
  (afterLineEnd text).getD text

def readQuoted : Reader String
  | '"' :: rest =>
      (readBasic (rest.length + 1) rest).map fun read =>
        (String.ofList read.1, read.2)
  | '\'' :: rest =>
      (readLiteral rest).map fun read => (String.ofList read.1, read.2)
  | _ => none

def readText : Reader String
  | '"' :: '"' :: '"' :: rest =>
      (readLines '"' (rest.length + 1) (skipFirstLineEnd rest)).map fun read =>
        (String.ofList read.1, read.2)
  | '\'' :: '\'' :: '\'' :: rest =>
      (readLines '\'' (rest.length + 1) (skipFirstLineEnd rest)).map
        fun read => (String.ofList read.1, read.2)
  | text => readQuoted text

/-- Whether a character may stand in a key without quotes. -/
def isKeyCharacter (character : Char) : Bool :=
  character.isAlphanum || character = '_' || character = '-'

def readKeyPart (text : List Char) : Option (String × List Char) :=
  let plain := text.takeWhile isKeyCharacter
  if plain.isEmpty then readQuoted text
  else some (String.ofList plain, text.dropWhile isKeyCharacter)

/-- The parts of a key, which are joined by dots; blanks around a part do not
count. -/
def readKeyParts : Nat → Reader (List String)
  | 0, _ => none
  | bound + 1, text =>
      match readKeyPart (skipBlanks text) with
      | none => none
      | some (part, after) =>
          match skipBlanks after with
          | '.' :: rest =>
              (readKeyParts bound rest).map fun read =>
                (part :: read.1, read.2)
          | rest => some ([part], rest)

/-- The greatest number of parts of a key. -/
def longestKey : Nat := 80

def readKey (bound : Nat) : Reader (List String) :=
  fun text =>
    (readKeyParts bound text).filter fun read => read.1.length ≤ longestKey

end Provision.Toml
