import Provision.Program

/-!
Contract: the program on a machine.

The files that the arguments name are looked at first, then the program runs as
a function, and then its changes to the files are made.  There is no network
here, so a server is never reached.

Owns:
- looking at files and changing them;
- printing, and the exit code.

Does not own: any decision.
-/

namespace Provision.Main

/-- The place that a path leads to. -/
def placeOf (here : Place) (path : String) : Place :=
  let start := if path.startsWith "/" then [] else here
  (Text.splitAt '/' path).foldl (fun place name =>
    if name = "" || name = "." then place
    else if name = ".." then place.dropLast
    else place ++ [name]) start

/-- The code of the system for a directory where a file should be. -/
def directoryCode : UInt32 := 21

/-- Looks at what stands at a place. -/
def lookAt (files : FileSystem) (place : Place) : IO FileSystem := do
  match ← (IO.FS.readBinFile ("/" ++ Text.glue "/" place)).toBaseIO with
  | .ok content => return files.put place (.file content)
  | .error (.inappropriateType _ code _) =>
      if code = directoryCode then return files.put place .directory
      else return files
  | .error _ => return files

/-- Looks at all places on a path. -/
def lookAlong (files : FileSystem) (path : String) : IO FileSystem :=
  let place := placeOf files.here path
  (List.range place.length).foldlM
    (fun files count => lookAt files (place.take (count + 1))) files

/-- The files that the command line names. -/
def namedFiles (arguments : List String) : List String :=
  match CommandLine.read arguments with
  | .error _ => []
  | .ok line =>
      match line.action with
      | some (.init output) => [output]
      | _ => line.config.toList

/-- The files that a run works on. -/
def documentFiles (arguments : List String) (files : FileSystem) :
    List String :=
  match CommandLine.read arguments with
  | .error _ => []
  | .ok line =>
      match Configuration.load line files with
      | .ok { target := .offline path, .. } =>
          [path, (Configuration.documentFile path).temporaryPath]
      | _ => []

def carryOut : FileChange → IO Unit
  | .write path content => IO.FS.writeBinFile path content
  | .rename source target => IO.FS.rename source target

def unreachable : Transport :=
  fun _ => .error (.connection "no network")

end Provision.Main

open Provision Provision.Main in
def main (arguments : List String) : IO UInt32 := do
  let start : FileSystem :=
    { here := placeOf [] (toString (← IO.currentDir)) }
  let named ← (namedFiles arguments).foldlM lookAlong start
  let files ← (documentFiles arguments named).foldlM lookAlong named
  let (ending, after) := Program.run unreachable arguments files
  after.changes.forM carryOut
  ending.output.forM fun line => IO.println line
  ending.complaints.forM fun line => IO.eprintln line
  return ending.code.toUInt32
