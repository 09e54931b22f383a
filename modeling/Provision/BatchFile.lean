import Provision.Entry.Draft
import Provision.Toml.Reader

/-!
Contract: batch files.

A batch file names a target, says how long to wait for a reload, and lists the
entries of a batch.  Each of the three parts may be left out.

Owns:
- what a batch file holds;
- `BatchFile.parse`, with the two ways in which it fails.

Does not own: the checks of what the parts say, which need the command line
too.
-/

namespace Provision

namespace BatchFile

/-- What a batch file says about the target. -/
structure TargetSection where
  url : Option String := none
  document : Option String := none
  headers : Members String := []
  bearer : Option String := none
deriving DecidableEq, Repr

/-- What a batch file says about reloads, in seconds. -/
structure ReloadSection where
  timeout : Option UInt64 := none
  pollInterval : Option UInt64 := none
deriving DecidableEq, Repr

end BatchFile

/-- The contents of a batch file. -/
structure BatchFile where
  target : BatchFile.TargetSection := { }
  reload : BatchFile.ReloadSection := { }
  entries : List ResourceDraft := []
deriving DecidableEq, Repr

namespace BatchFile

/-- Why a text is no batch file: it is malformed, or its data do not fit. -/
inductive ParseError where
  | malformed
  | data (fault : Datum.Fault)
deriving Repr

open Datum

/-- A path, which is a text of its own kind to messages. -/
def readPath : DataReader String
  | .text value => .ok value
  | found => .error (.wrongType found "path string")

def targetShape : RecordShape TargetSection :=
  let url := textField "url"
  let document : Datum.Field (Option String) :=
    ⟨"document", readOptional readPath, none⟩
  let headers : Datum.Field (Members String) :=
    ⟨"headers", readTable readText, []⟩
  let bearer := textField "bearer"
  { title := "struct TargetSection"
    fields :=
      [url.positional, document.positional, headers.optional,
        bearer.positional]
    surplusRefused := false
    make := fun members =>
      .ok
        { url := url.get members
          document := document.get members
          headers := headers.get members
          bearer := bearer.get members } }

/-- A field for seconds that may be left out. -/
def secondsField (name : String) : Datum.Field (Option UInt64) :=
  ⟨name, readOptional readWord64, none⟩

/-- The record of the waiting for a reload. -/
def reloadShape : RecordShape ReloadSection :=
  let timeout := secondsField "timeout"
  let pollInterval := secondsField "poll_interval"
  { title := "struct ReloadSection"
    fields := [timeout.positional, pollInterval.positional]
    surplusRefused := false
    make := fun members =>
      .ok
        { timeout := timeout.get members
          pollInterval := pollInterval.get members } }

/-- The record of a whole file. -/
def shape : RecordShape BatchFile :=
  let target : Datum.Field TargetSection :=
    ⟨"target", targetShape.read, { }⟩
  let reload : Datum.Field ReloadSection :=
    ⟨"reload", reloadShape.read, { }⟩
  let entries := listField "command" readEntry
  { title := "batch file"
    fields := [target.optional, reload.optional, entries.optional]
    surplusRefused := false
    make := fun members =>
      .ok
        { target := target.get members
          reload := reload.get members
          entries := entries.get members } }

/-- The greatest whole number with a sign. -/
def greatestSigned : Int := 0x7fffffffffffffff

mutual

/-- Whether a whole number in the data has no place among those with a
sign. -/
def exceedsSigned : Datum → Bool
  | .integer value => greatestSigned < value
  | .sequence items => anyExceedsSigned items
  | .record members => anyMemberExceedsSigned members
  | _ => false

/-- Whether such a number is in one of the items. -/
def anyExceedsSigned : List Datum → Bool
  | [] => false
  | item :: rest => exceedsSigned item || anyExceedsSigned rest

/-- Whether such a number is in one of the members. -/
def anyMemberExceedsSigned : List (String × Datum) → Bool
  | [] => false
  | (_, value) :: rest => exceedsSigned value || anyMemberExceedsSigned rest

end

/-- Reads a batch file.  The form of these files promises numbers with a sign
only: greater ones may stand where a field holds them, but where the data do
not fit, the file with such a number counts as malformed. -/
def parse (text : String) : Except ParseError BatchFile :=
  match Toml.parse text with
  | none => .error .malformed
  | some datum =>
      match shape.read datum with
      | .ok file => .ok file
      | .error fault =>
          if exceedsSigned datum then .error .malformed
          else .error (.data fault)

end BatchFile

end Provision
