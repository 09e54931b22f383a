import Provision.Json.Basic

/-!
Contract: the two texts of a data document.

Owns:
- the escapes inside strings: quote, backslash and the control characters;
- `compact`, without any blank;
- `pretty`, with two blanks per level and one member or item a line.

Does not own: what a document means, or which of the two texts a file holds.
-/

namespace Provision.Json

def Number.text : Number → List Char
  | .integer value => Text.integerText value
  | .real value => value.dataText

/-- One character of a string as it stands between the quotes. -/
def escape (character : Char) : List Char :=
  if character = '"' then ['\\', '"']
  else if character = '\\' then ['\\', '\\']
  else if character = '\x08' then ['\\', 'b']
  else if character = '\x0c' then ['\\', 'f']
  else if character = '\n' then ['\\', 'n']
  else if character = '\r' then ['\\', 'r']
  else if character = '\t' then ['\\', 't']
  else if character.toNat < 0x20 then
    ['\\', 'u'] ++ Text.padLeft 4 (Text.hexadecimal character.toNat)
  else [character]

def quoted (text : String) : List Char :=
  '"' :: (text.toList.flatMap escape ++ ['"'])

mutual

def compact : Json → List Char
  | .null => ['n', 'u', 'l', 'l']
  | .boolean true => ['t', 'r', 'u', 'e']
  | .boolean false => ['f', 'a', 'l', 's', 'e']
  | .number value => value.text
  | .string value => quoted value
  | .array [] => ['[', ']']
  | .array (first :: rest) => '[' :: (compact first ++ compactItems rest)
  | .object [] => ['{', '}']
  | .object ((name, first) :: rest) =>
      '{' :: (quoted name ++ ':' :: (compact first ++ compactMembers rest))

/-- The items after the first one, and the closing bracket. -/
def compactItems : List Json → List Char
  | [] => [']']
  | item :: rest => ',' :: (compact item ++ compactItems rest)

/-- The members after the first one, and the closing brace. -/
def compactMembers : List (String × Json) → List Char
  | [] => ['}']
  | (name, value) :: rest =>
      ',' :: (quoted name ++ ':' :: (compact value ++ compactMembers rest))

end

/-- The start of a line at a level of nesting. -/
def newLine (level : Nat) : List Char :=
  '\n' :: List.replicate (2 * level) ' '

mutual

/-- The document with one item or member a line, as it stands inside a given
number of enclosing containers. -/
def prettyAt (level : Nat) : Json → List Char
  | .null => ['n', 'u', 'l', 'l']
  | .boolean true => ['t', 'r', 'u', 'e']
  | .boolean false => ['f', 'a', 'l', 's', 'e']
  | .number value => value.text
  | .string value => quoted value
  | .array [] => ['[', ']']
  | .array (first :: rest) =>
      '[' :: (newLine (level + 1) ++ prettyAt (level + 1) first ++
        prettyItems level rest)
  | .object [] => ['{', '}']
  | .object ((name, first) :: rest) =>
      '{' :: (newLine (level + 1) ++ quoted name ++ ':' :: ' ' ::
        (prettyAt (level + 1) first ++ prettyMembers level rest))

/-- The lines of the items after the first one, and the closing bracket. -/
def prettyItems (level : Nat) : List Json → List Char
  | [] => newLine level ++ [']']
  | item :: rest =>
      ',' :: (newLine (level + 1) ++ prettyAt (level + 1) item ++
        prettyItems level rest)

/-- The lines of the members after the first one, and the closing brace. -/
def prettyMembers (level : Nat) : List (String × Json) → List Char
  | [] => newLine level ++ ['}']
  | (name, value) :: rest =>
      ',' :: (newLine (level + 1) ++ quoted name ++ ':' :: ' ' ::
        (prettyAt (level + 1) value ++ prettyMembers level rest))

end

/-- The document without blanks, as a text. -/
def compactText (document : Json) : String :=
  String.ofList document.compact

/-- The document with one item or member a line, as a text. -/
def prettyText (document : Json) : String :=
  String.ofList (document.prettyAt 0)

end Provision.Json
