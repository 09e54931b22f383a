import Provision.Endpoint.DomainName.Direction
import Provision.Endpoint.DomainName.Label
import Provision.Text.Pieces

/-!
Contract: domain names, written with ASCII characters only.

The characters of a name are mapped one by one and composed.  Each label of
the result is written on its own.  Where one label is read from the right, all
labels must be read in one direction each.

Owns:
- the order of these steps;
- `toAscii?`, the written form of a whole name.

Does not own: the conditions on one label, or addresses that look like names.
-/

namespace Provision.Endpoint.DomainName

/-- The characters that a name stands for; nothing where one of them must not
occur. -/
def normalize? (name : List Char) : Option (List Char) := do
  let mapped := Text.compose (← name.mapM mapCharacter).flatten
  if mapped.any isForbidden then none else some mapped

/-- Whether the labels of a name can be told from those of other names. -/
def areTellable (labels : List Label) : Bool :=
  !labels.any (fun label => isFromRight label.shown) ||
    labels.all fun label => isOneWay label.shown

/-- The written form of a name; nothing where the name is not allowed. -/
def toAscii? (name : List Char) : Option (List Char) := do
  let labels ← (Text.pieces '.' (← normalize? name)).mapM Label.read?
  if areTellable labels then
    some (['.'].intercalate (labels.map Label.written))
  else none

end Provision.Endpoint.DomainName
