import Provision.Json.Basic
import Provision.Text.Pieces
import Provision.Text.Digits

/-!
Contract: pointers into a data document.

A pointer is a path of raw tokens.  Its text puts a slash in front of each
token and escapes the two characters that the text itself needs.

Owns:
- `escape` and `unescape` of a token, each in two passes over the text;
- the text of a path and the path of a text;
- `at?` and `replaceAt`, the look-up and the update along a path.

Does not own: which paths a program uses.
-/

namespace Provision.Json.Pointer

/-- Writes one character of a token as two wherever it stands. -/
def expand (plain mark : Char) : List Char → List Char
  | [] => []
  | head :: tail =>
      if head = plain then '~' :: mark :: expand plain mark tail
      else head :: expand plain mark tail

/-- Reads two characters of an escaped token as one wherever they stand. -/
def contract (plain mark : Char) : List Char → List Char
  | [] => []
  | [last] => [last]
  | first :: second :: rest =>
      if first = '~' ∧ second = mark then plain :: contract plain mark rest
      else first :: contract plain mark (second :: rest)

/-- The escaped form of a token: first the escape character, then the slash. -/
def escape (token : String) : String :=
  String.ofList (expand '/' '1' (expand '~' '0' token.toList))

/-- The token of an escaped form: first the slash, then the escape
character, so that an escaped escape is read only once. -/
def unescape (escaped : String) : String :=
  String.ofList (contract '~' '0' (contract '/' '1' escaped.toList))

def text (tokens : List String) : String :=
  String.join (tokens.map fun token => "/" ++ escape token)

/-- The path of a text.  The empty text is the root; any other text begins
with a slash. -/
def tokens? (pointer : String) : Option (List String) :=
  if pointer = "" then some []
  else
    match Text.splitAt '/' pointer with
    | "" :: escaped => some (escaped.map unescape)
    | _ => none

/-- The position that a token names in an array: decimal digits without a
sign and without a leading zero. -/
def position? (token : String) : Option Nat :=
  let characters := token.toList
  if characters.head? = some '0' && characters.length ≠ 1 then none
  else Text.readNatural 10 characters

end Pointer

/-- The part of a document one token further. -/
def child? (token : String) : Json → Option Json
  | .object members => Members.get? token members
  | .array items => (Pointer.position? token).bind fun place => items[place]?
  | _ => none

/-- The part of a document at the end of a path. -/
def at? : List String → Json → Option Json
  | [], document => some document
  | token :: rest, document => (document.child? token).bind (at? rest)

/-- The document with another part one token further, if there is one. -/
def replaceChild (token : String) : Json → Json → Json
  | .object members, part =>
      if Members.contains token members then
        .object (Members.put token part members)
      else .object members
  | .array items, part =>
      match Pointer.position? token with
      | some place => .array (items.set place part)
      | none => .array items
  | document, _ => document

/-- The document with another part at the end of a path.  A path that leads
nowhere leaves the document as it is. -/
def replaceAt : List String → Json → Json → Json
  | [], _, part => part
  | token :: rest, document, part =>
      match document.child? token with
      | some below => document.replaceChild token (replaceAt rest below part)
      | none => document

end Provision.Json
