import Provision.Text.Pieces

/-!
Contract: addresses of nodes in the configuration tree.

An address is a path of `(kind, name)` segments from the root to a node.  The
last segment is a field of its own, so that every address names a node and
`leaf` needs no bound.

Owns:
- the checked constructors `root` and `child`, which refuse empty texts;
- `parent`, the text form `/kind=name/kind=name`, and its reader;
- the list of raw path tokens from which a document pointer is written.

Does not own: pointers, wire forms, or any notion of a backend.
-/

namespace Provision

/-- One step of an address. -/
structure Segment where
  kind : String
  name : String
deriving DecidableEq, Repr, Inhabited, Hashable

namespace Segment

/-- Why a segment cannot be made. -/
inductive Fault where
  | emptyKind
  | emptyName
deriving DecidableEq, Repr

def Fault.message : Fault → String
  | .emptyKind => "address segment type must not be empty"
  | .emptyName => "address segment name must not be empty"

/-- Both texts of the segment say something. -/
def WellFormed (segment : Segment) : Prop :=
  segment.kind ≠ "" ∧ segment.name ≠ ""

instance (segment : Segment) : Decidable segment.WellFormed := by
  unfold WellFormed
  infer_instance

/-- Makes a segment.  The kind is looked at before the name. -/
def make (kind name : String) : Except Fault Segment :=
  if kind = "" then .error .emptyKind
  else if name = "" then .error .emptyName
  else .ok ⟨kind, name⟩

def text (segment : Segment) : String :=
  "/" ++ segment.kind ++ "=" ++ segment.name

end Segment

/-- The path of one node: the segments above it, from the root down, and the
segment that names the node itself. -/
structure Address where
  above : List Segment
  leaf : Segment
deriving DecidableEq, Repr, Inhabited, Hashable

namespace Address

/-- All segments from the root to the node. -/
def segments (address : Address) : List Segment :=
  address.above ++ [address.leaf]

/-- Every segment of the address is well-formed. -/
def WellFormed (address : Address) : Prop :=
  ∀ segment ∈ address.segments, segment.WellFormed

instance (address : Address) : Decidable address.WellFormed := by
  unfold WellFormed
  infer_instance

def root (kind name : String) : Except Segment.Fault Address :=
  (Segment.make kind name).map fun leaf => ⟨[], leaf⟩

def subsystem (name : String) : Except Segment.Fault Address :=
  root "subsystem" name

/-- The address of a node one level below. -/
def child (address : Address) (kind name : String) :
    Except Segment.Fault Address :=
  (Segment.make kind name).map fun leaf => ⟨address.segments, leaf⟩

/-- The address one level above, which the root segment does not have. -/
def parent (address : Address) : Option Address :=
  address.above.getLast?.map fun leaf => ⟨address.above.dropLast, leaf⟩

def text (address : Address) : String :=
  String.join (address.segments.map Segment.text)

/-- The raw path tokens of the address: kind and name of each segment. -/
def tokens (address : Address) : List String :=
  address.segments.flatMap fun segment => [segment.kind, segment.name]

/-- What is wrong with a text that is no address. -/
inductive Refusal where
  | noSegment
  | noPair
  | emptyPart
deriving DecidableEq, Repr

def Refusal.message : Refusal → String
  | .noSegment => "address must have at least one segment"
  | .noPair => "segment must be 'type=name'"
  | .emptyPart => "segment type and name must not be empty"

/-- A text that was refused, with the cause. -/
structure ParseError where
  input : String
  cause : Refusal
deriving DecidableEq, Repr

def ParseError.message (error : ParseError) : String :=
  "Invalid address '" ++ error.input ++ "': " ++ error.cause.message

/-- Reads one segment: the kind ends at the first equals sign, so only the
name may hold further ones. -/
def readSegment (part : List Char) : Except Refusal Segment :=
  match Text.cutAt '=' part with
  | none => .error .noPair
  | some (kind, name) =>
      if kind.isEmpty || name.isEmpty then .error .emptyPart
      else .ok ⟨String.ofList kind, String.ofList name⟩

/-- Reads the segments from left to right; the first bad one decides. -/
def readSegments : List (List Char) → Except Refusal (List Segment)
  | [] => .ok []
  | part :: rest =>
      match readSegment part with
      | .error cause => .error cause
      | .ok segment =>
          match readSegments rest with
          | .error cause => .error cause
          | .ok others => .ok (segment :: others)

/-- The address made of a list of segments, unless the list is empty. -/
def ofSegments (segments : List Segment) : Option Address :=
  segments.getLast?.map fun leaf => ⟨segments.dropLast, leaf⟩

/-- The characters after one leading slash, which an address may have. -/
def withoutSlash : List Char → List Char
  | '/' :: rest => rest
  | characters => characters

/-- Reads `/kind=name/kind=name`; the leading slash may be left out. -/
def parse (input : String) : Except ParseError Address :=
  let body := withoutSlash input.toList
  if body.isEmpty then .error ⟨input, .noSegment⟩
  else
    match readSegments (Text.pieces '/' body) with
    | .error cause => .error ⟨input, cause⟩
    | .ok segments =>
        match ofSegments segments with
        | none => .error ⟨input, .noSegment⟩
        | some address => .ok address

/-! ## Nodes and their parents -/

@[simp]
theorem segments_ne_nil (address : Address) : address.segments ≠ [] := by
  simp [segments]

/-- The parent of a node one level below is the node. -/
theorem parent_eq_of_child {address below : Address} {kind name : String}
    (made : address.child kind name = .ok below) :
    below.parent = some address := by
  unfold child at made
  cases leaf : Segment.make kind name with
  | error fault => simp [leaf, Except.map] at made
  | ok segment =>
      simp only [leaf, Except.map, Except.ok.injEq] at made
      subst made
      simp [parent, segments]

end Address

end Provision
