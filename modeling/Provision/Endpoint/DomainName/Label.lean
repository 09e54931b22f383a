import Provision.Endpoint.DomainName.Joining
import Provision.Endpoint.DomainName.Mapping
import Provision.Endpoint.Punycode
import Provision.Text.Composition

/-!
Contract: one label of a domain name.

A label that is not of ASCII is written in an encoded form behind `xn--`.  A
label that is written so already must be the encoded form of an allowed label.

Owns:
- the conditions on a label that is not of ASCII;
- `Label.read?`, which gives the characters of a label and its written form.

Does not own: conditions on all labels of a name.
-/

namespace Provision.Endpoint.DomainName

/-- A label: the characters that it shows, and the form that is written. -/
structure Label where
  shown : List Char
  written : List Char
deriving DecidableEq, Repr

namespace Label

/-- The mark in front of an encoded label. -/
def mark : List Char := "xn--".toList

/-- The greatest number of characters of a label that is not of ASCII. -/
def longestShown : Nat := 1000

/-- The greatest number of characters behind the mark. -/
def longestEncoded : Nat := 2000

/-- Whether a joiner may stand between two stretches of text, the first from
its end.  Both joiners may follow a virama; the one that parts letters may
also stand where these would be joined. -/
def joinerMayStand (joiner : Char) (before behind : List Char) : Bool :=
  match before with
  | [] => false
  | last :: _ =>
      Text.combiningClass last = Text.viramaClass ||
        (joiner = '\u200c' && joinsOnward before && joinsBack behind)

/-- Whether all joiners stand where they may. -/
def joinersMayStand (before : List Char) : List Char → Bool
  | [] => true
  | head :: rest =>
      (!isJoiner head || joinerMayStand head before rest) &&
        joinersMayStand (head :: before) rest

/-- Whether a label begins with a mark. -/
def beginsWithMark : List Char → Bool
  | [] => false
  | first :: _ => Text.isMark first

/-- Whether a label that is not of ASCII is allowed. -/
def isAllowed (shown : List Char) : Bool :=
  !beginsWithMark shown && joinersMayStand [] shown &&
    shown.length ≤ longestShown

/-- Whether a character may stand in a label that was encoded. -/
def mayBeEncoded (character : Char) : Bool :=
  isKept character && !isForbidden character && character ≠ '.'

def ofEncoded? (encoded : List Char) : Option (List Char) :=
  if encoded.length ≤ longestEncoded && encoded.getLast? ≠ some '-' &&
      !encoded.isEmpty && encoded.all Text.isAscii then
    (Punycode.decode? encoded).filter fun shown =>
      shown.all mayBeEncoded && Text.compose shown = shown && isAllowed shown
  else none

def read? (label : List Char) : Option Label :=
  match Text.after? mark label with
  | some encoded =>
      (ofEncoded? encoded).map fun shown => { shown, written := label }
  | none =>
      if label.all Text.isAscii then some ⟨label, label⟩
      else if isAllowed label then
        some ⟨label, mark ++ Punycode.encode label⟩
      else none

end Label

end Provision.Endpoint.DomainName
