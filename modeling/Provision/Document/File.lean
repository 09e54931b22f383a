import Provision.Document.Memory
import Provision.Files.System
import Provision.Json.Printer
import Provision.Json.Reader

/-!
Contract: documents in files.

Every transform reads the whole file, and writes the changed document to a
second file, which then takes the place of the first.  So the document is at
every moment either the old one or the new one, and a transform that fails
leaves all files as they are.

Owns:
- the reading of a document;
- the changes to the files that one transform makes;
- the document in a file as something that transforms are applied to.

Does not own: transforms, and the files themselves.
-/

namespace Provision

/-- A document in a file. -/
structure DocumentFile where
  path : String
  registry : Document.Registry

namespace DocumentFile

/-- The file that the changed document is written to first. -/
def temporaryPath (document : DocumentFile) : String :=
  document.path ++ ".tmp"

def load (document : DocumentFile) (files : FileSystem) :
    Except DocumentError Json :=
  match files.readText document.path with
  | .error cause => .error (.read document.path cause.message)
  | .ok text =>
      match Json.parse text with
      | some tree => .ok tree
      | none => .error (.parse document.path)

def transformed (document : DocumentFile) (files : FileSystem)
    (transform : Document.Transform) : Except DocumentError Json := do
  let tree ← document.load files
  match document.registry.apply tree transform with
  | .ok changed => return changed
  | .error cause => throw (.refused cause)

/-- The text of a document in a file. -/
def written (tree : Json) : String :=
  tree.prettyText

/-- The changes that put a document in place of the one in the file. -/
def replacement (document : DocumentFile) (tree : Json) : List FileChange :=
  [.write document.temporaryPath (written tree).toUTF8,
    .rename document.temporaryPath document.path]

def performAll : List FileChange → Attempt FileSystem FileError Unit
  | [] => return ()
  | change :: rest => do
      FileSystem.perform change
      performAll rest

/-- Applies a transform to the document in the file. -/
def apply (document : DocumentFile) (transform : Document.Transform) :
    Attempt FileSystem DocumentError Unit := do
  match document.transformed (← get) transform with
  | .error cause => throw cause
  | .ok tree =>
      ExceptT.adapt (fun cause => .write document.path cause.message)
        (performAll (document.replacement tree))

/-- The document in the file as something that transforms are applied to. -/
def backend (document : DocumentFile) : OfflineDocument FileSystem where
  apply := document.apply

end DocumentFile

end Provision
