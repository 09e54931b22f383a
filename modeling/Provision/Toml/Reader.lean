import Provision.Toml.Quotation
import Provision.Toml.Scalar
import Provision.Toml.Table

/-!
Contract: reading the text of a batch file.

A file is a list of statements, one to a line: headers of tables, headers of
items of lists, and keys with values.

Owns:
- values with their lists and inline tables, which nest to a given depth;
- statements, and the table that they make together;
- `parse`, which gives the data of a whole file.

Does not own: what a batch file should hold.
-/

namespace Provision.Toml

/-- The deepest nesting of lists and inline tables in a value. -/
def greatestDepth : Nat := 80

/-- Whether a character may stand in a word without quotes. -/
def isWordCharacter (character : Char) : Bool :=
  character.isAlphanum || "+-_.:".toList.contains character

/-- A word and the text after it.  One blank may stand between a date and a
time. -/
def cutWord (text : List Char) : List Char × List Char :=
  let first := text.takeWhile isWordCharacter
  match text.dropWhile isWordCharacter with
  | ' ' :: next :: rest =>
      if skipDate first = some [] && Text.isDecimal next then
        (first ++ ' ' :: (next :: rest).takeWhile isWordCharacter,
          (next :: rest).dropWhile isWordCharacter)
      else (first, ' ' :: next :: rest)
  | rest => (first, rest)

/-- A value that is no list and no table. -/
def readScalar (text : List Char) : Option (Datum × List Char) :=
  match text with
  | '"' :: _ => (readText text).map fun read => (.text read.1, read.2)
  | '\'' :: _ => (readText text).map fun read => (.text read.1, read.2)
  | _ =>
      let (word, rest) := cutWord text
      (readWord word).map fun datum => (datum, rest)

/-- The items of a list behind its bracket, with a bound on their number.  A
comma may stand behind the last item. -/
def readItems {α : Type} (close : Char) (item : Reader α) :
    Nat → Reader (List α)
  | 0, _ => none
  | bound + 1, text =>
      match skipGap (bound + 1) text with
      | [] => none
      | next :: rest =>
          if next = close then some ([], rest)
          else
            match item (next :: rest) with
            | none => none
            | some (read, after) =>
                match skipGap (bound + 1) after with
                | ',' :: more =>
                    (readItems close item bound more).map fun others =>
                      (read :: others.1, others.2)
                | mark :: more =>
                    if mark = close then some ([read], more) else none
                | [] => none

/-- A key with its value, and what may stand around the sign between them. -/
def readPair (skip : List Char → List Char) (bound : Nat)
    (value : Reader Datum) : Reader (List String × Datum) :=
  fun text =>
    match readKey bound text with
    | none => none
    | some (key, after) =>
        match skip after with
        | '=' :: rest =>
            (value (skip rest)).map fun read => ((key, read.1), read.2)
        | _ => none

def inlineTable (pairs : List (List String × Datum)) : Option Datum :=
  (pairs.foldlM (fun table pair => Node.addValue pair.1 pair.2 table)
    Node.empty).map Node.toDatum

/-- A value, with a bound on the loops inside it and on its nesting. -/
def readValue (bound : Nat) : Nat → Reader Datum
  | 0 => readScalar
  | depth + 1 => fun text =>
      match text with
      | '[' :: rest =>
          (readItems ']' (readValue bound depth) bound rest).map fun read =>
            (.sequence read.1, read.2)
      | '\x7b' :: rest =>
          match readItems '\x7d'
              (readPair (skipGap bound) bound (readValue bound depth)) bound
              rest with
          | some (pairs, after) =>
              (inlineTable pairs).map fun datum => (datum, after)
          | none => none
      | _ => readScalar text

/-- One line of a batch file that says something. -/
inductive Statement where
  | table (path : List String)
  | item (path : List String)
  | pair (key : List String) (datum : Datum)

def readStatement (bound : Nat) : Reader Statement
  | '[' :: '[' :: rest =>
      match readKey bound rest with
      | some (path, ']' :: ']' :: after) => some (.item path, after)
      | _ => none
  | '[' :: rest =>
      match readKey bound rest with
      | some (path, ']' :: after) => some (.table path, after)
      | _ => none
  | text =>
      (readPair skipBlanks bound (readValue bound greatestDepth) text).map
        fun read => (.pair read.1.1 read.1.2, read.2)

/-- The text behind the end of a line, where only a comment may stand. -/
def finishLine (text : List Char) : Option (List Char) :=
  match skipComment (skipBlanks text) with
  | [] => some []
  | behind => afterLineEnd behind

/-- The statements of a file, with a bound on their number. -/
def readStatements (size : Nat) : Nat → List Char → Option (List Statement)
  | 0, _ => none
  | bound + 1, text =>
      match skipGap size text with
      | [] => some []
      | begun =>
          match readStatement size begun with
          | none => none
          | some (statement, after) =>
              match finishLine after with
              | none => none
              | some rest =>
                  (readStatements size bound rest).map fun others =>
                    statement :: others

/-- The tables so far, and the path of the last header. -/
structure Assembly where
  root : Node := .empty
  path : List String := []

def Assembly.add (tables : Assembly) : Statement → Option Assembly
  | .table path =>
      (tables.root.addTable path).map fun root => { root, path }
  | .item path => (tables.root.addItem path).map fun root => { root, path }
  | .pair key datum =>
      (tables.root.addValueIn tables.path key datum).map fun root =>
        { tables with root }

/-- The text without the mark that may stand in front of it. -/
def withoutMark : List Char → List Char
  | '\ufeff' :: rest => rest
  | text => text

/-- The data of a batch file; nothing where its text is malformed or a table
is extended in a way that is not allowed. -/
def parse (text : String) : Option Datum := do
  let characters := withoutMark text.toList
  let size := characters.length + 1
  let statements ← readStatements size size characters
  let tables ← statements.foldlM Assembly.add { }
  some tables.root.toDatum

end Provision.Toml
