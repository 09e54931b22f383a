import Provision.Attempt
import Provision.Files.Error
import Provision.Members
import Provision.Text.Pieces

/-!
Contract: the files that the program reads and writes.

A file system is a tree of named nodes below a root directory.  It is a value,
so that what a run does to the files is a function of the files before it.

No name is a link.  A symbolic link would let a path lead to a file that stands
elsewhere, and with hard links two names would share one content; here each
place has a content of its own, and a change at one place is seen at no other.

Owns:
- the tree, and how a path leads to a place in it;
- reading, writing and renaming, each of which changes nothing when it fails;
- the record of the changes that were made.

Does not own: what is in the files.
-/

namespace Provision

/-- What stands under a name. -/
inductive FileNode where
  | file (content : ByteArray)
  | directory

/-- A change to the files. -/
inductive FileChange where
  | write (path : String) (content : ByteArray)
  | rename (source target : String)

/-- The place of a node: the names from the root to it. -/
abbrev Place := List String

/-- All files and directories below the root, which is a directory itself,
with the changes that were made to them.  None of the names is a symbolic or a
hard link. -/
structure FileSystem where
  here : Place := []
  nodes : List (Place × FileNode) := []
  changes : List FileChange := []

namespace FileSystem

/-- The greatest number of bytes in a name. -/
def greatestName : Nat := 255

/-- The number of bytes that a path must stay below. -/
def pathLimit : Nat := 4096

def node? (files : FileSystem) (place : Place) : Option FileNode :=
  if place = [] then some .directory else Members.get? place files.nodes

/-- What stands at a place whose last name is not too long. -/
def find (files : FileSystem) (place : Place) : Except FileError FileNode :=
  if (place.getLast?.any fun name => greatestName < name.utf8ByteSize) then
    .error .nameTooLong
  else
    match files.node? place with
    | some node => .ok node
    | none => .error .notFound

/-- One step from a directory to a directory. -/
def enter (files : FileSystem) (place : Place) (name : String) :
    Except FileError Place :=
  if name = "." then .ok place
  else if name = ".." then .ok place.dropLast
  else
    match files.find (place ++ [name]) with
    | .ok .directory => .ok (place ++ [name])
    | .ok (.file _) => .error .notDirectory
    | .error cause => .error cause

/-- Where a path ends: the directory that its last name is in, the name, and
whether a slash follows it. -/
structure PathEnd where
  parent : Place
  name : String
  closed : Bool

/-- Follows a path up to its last name. -/
def follow (files : FileSystem) (path : String) :
    Except FileError PathEnd := do
  if path.toList.contains '\x00' then throw .nulCharacter
  if path = "" then throw .notFound
  if pathLimit ≤ path.utf8ByteSize then throw .nameTooLong
  let pieces := Text.splitAt '/' path
  let names := pieces.filter (· ≠ "")
  let start := if pieces.head? = some "" then [] else files.here
  let parent ← names.dropLast.foldlM files.enter start
  return ⟨parent, names.getLast?.getD ".", pieces.getLast? = some ""⟩

/-- Whether a name stands for a directory wherever it occurs. -/
def isDots (name : String) : Bool :=
  name = "." || name = ".."

def read (files : FileSystem) (path : String) :
    Except FileError ByteArray := do
  let ending ← files.follow path
  if isDots ending.name then throw .isDirectory
  match ← files.find (ending.parent ++ [ending.name]) with
  | .directory => throw .isDirectory
  | .file content =>
      if ending.closed then throw .notDirectory else return content

/-- The text of a file, which must be in UTF-8. -/
def readText (files : FileSystem) (path : String) :
    Except FileError String := do
  match String.fromUTF8? (← files.read path) with
  | some text => return text
  | none => throw .notUtf8

/-- The place at which a path lets a file be written. -/
def target (files : FileSystem) (path : String) :
    Except FileError Place := do
  let ending ← files.follow path
  if ending.closed || isDots ending.name then throw .isDirectory
  let place := ending.parent ++ [ending.name]
  match files.find place with
  | .ok .directory => throw .isDirectory
  | .ok (.file _) => return place
  | .error .notFound => return place
  | .error cause => throw cause

def put (files : FileSystem) (place : Place) (node : FileNode) :
    FileSystem :=
  { files with nodes := Members.put place node files.nodes }

/-- Takes the node at a place away. -/
def drop (files : FileSystem) (place : Place) : FileSystem :=
  { files with nodes := Members.erase place files.nodes }

def changed (files : FileSystem) :
    FileChange → Except FileError FileSystem
  | .write path content =>
      (files.target path).map fun place => files.put place (.file content)
  | .rename source target => do
      let content ← files.read source
      let sourcePlace ← files.target source
      let targetPlace ← files.target target
      return (files.drop sourcePlace).put targetPlace (.file content)

def perform (change : FileChange) : Attempt FileSystem FileError Unit := do
  let files ← get
  match files.changed change with
  | .ok after => set { after with changes := files.changes ++ [change] }
  | .error cause => throw cause

/-- A working directory without files, which is not the root. -/
def fresh : FileSystem :=
  { here := ["work"], nodes := [(["work"], .directory)] }

/-- All files and directories below the working directory, sorted by their
paths from it; a directory's path ends in a slash. -/
def listing (files : FileSystem) : List (String × Option ByteArray) :=
  let below := files.nodes.filter fun node =>
    files.here.isPrefixOf node.1 && node.1 ≠ files.here
  let shown := below.map fun node =>
    let path := Text.glue "/" (node.1.drop files.here.length)
    match node.2 with
    | .file content => (path, some content)
    | .directory => (path ++ "/", none)
  shown.mergeSort fun left right => left.1 ≤ right.1

end FileSystem

end Provision
