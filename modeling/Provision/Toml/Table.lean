import Provision.Entry.Datum
import Provision.Members

/-!
Contract: tables of a batch file and how they may be extended.

A table comes into being by a header of its own, because a longer header or a
dotted key leads through it, or as an item of a list of tables.  A header may
turn a table that only longer headers led through into its own; dotted keys
may add only to what dotted keys made.

Owns:
- the tree of tables, with the origin of each;
- the three additions: a table, an item of a list, and a value;
- the data of a table, with its members sorted by name.

Does not own: the text of a batch file.
-/

namespace Provision.Toml

/-- How a table came into being. -/
inductive Origin where
  | header
  | implied
  | dotted
deriving DecidableEq, Repr

/-- A value, a table, or a list of tables with the newest last.  A value is
closed: nothing can be added to it, also where it is a record. -/
inductive Node where
  | value (datum : Datum)
  | table (origin : Origin) (members : List (String × Node))
  | tables (items : List Node)
deriving Inhabited

namespace Node

/-- The table without members that a file begins with. -/
def empty : Node := .table .header []

/-- Changes the table at the end of a path, and makes the tables that are
missing on the way.  A path leads through a list of tables to its last item.
A dotted path does not lead through a table that a header made. -/
def descend (dotted : Bool)
    (change : Origin → Members Node → Option Node) :
    List String → Node → Option Node
  | [], .table origin members => change origin members
  | key :: rest, .table origin members =>
      let place := fun (child : Node) =>
        Node.table origin (Members.put key child members)
      match Members.get? key members with
      | none =>
          (descend dotted change rest
            (.table (if dotted then .dotted else .implied) [])).map place
      | some (.table inner found) =>
          if dotted && inner = .header then none
          else (descend dotted change rest (.table inner found)).map place
      | some (.tables items) =>
          match items.getLast? with
          | none => none
          | some last =>
              (descend dotted change rest last).map fun child =>
                place (.tables (items.dropLast ++ [child]))
      | some (.value _) => none
  | _, _ => none

/-- Changes the member at the end of a path. -/
def changeMember (dotted : Bool) (path : List String)
    (change : Origin → Option Node → Option Node) (root : Node) :
    Option Node :=
  match path.getLast? with
  | none => none
  | some key =>
      descend dotted (fun origin members =>
        (change origin (Members.get? key members)).map fun child =>
          .table origin (Members.put key child members)) path.dropLast root

def addTable (path : List String) (root : Node) : Option Node :=
  changeMember false path (fun _ found =>
    match found with
    | none => some (.table .header [])
    | some (.table .implied members) => some (.table .header members)
    | some _ => none) root

/-- Adds an item to the list of tables of a header. -/
def addItem (path : List String) (root : Node) : Option Node :=
  changeMember false path (fun _ found =>
    match found with
    | none => some (.tables [.table .header []])
    | some (.tables items) => some (.tables (items ++ [.table .header []]))
    | some _ => none) root

/-- Adds a value under a key.  A key with dots ends in a table that such keys
made, and a key without in one that they did not make. -/
def addValue (key : List String) (datum : Datum) (root : Node) :
    Option Node :=
  changeMember true key (fun origin found =>
    let isJoined := 1 < key.length
    if found.isNone && decide (origin = .dotted) = isJoined then
      some (.value datum)
    else none) root

/-- Adds a value under a key in the table of a header. -/
def addValueIn (path key : List String) (datum : Datum) (root : Node) :
    Option Node :=
  descend false (fun origin members =>
    addValue key datum (.table origin members)) path root

/-- Members in the order of their names. -/
def sorted (members : Members Datum) : Members Datum :=
  members.mergeSort fun left right => left.1 ≤ right.1

mutual

def toDatum : Node → Datum
  | .value datum => datum
  | .table _ members => .record (sorted (dataOfMembers members))
  | .tables items => .sequence (dataOfItems items)

/-- The data of the members of a table. -/
def dataOfMembers : List (String × Node) → List (String × Datum)
  | [] => []
  | (name, node) :: rest => (name, toDatum node) :: dataOfMembers rest

/-- The data of the items of a list of tables. -/
def dataOfItems : List Node → List Datum
  | [] => []
  | node :: rest => toDatum node :: dataOfItems rest

end

end Node

end Provision.Toml
