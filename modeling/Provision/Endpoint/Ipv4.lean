import Provision.Text.Digits
import Provision.Text.Pieces

/-!
Contract: host addresses of thirty-two bits.

A host is such an address when its last label is a number.  Up to four numbers
may stand in it, decimal, octal behind a zero, or hexadecimal behind `0x`; the
last one fills all the bytes that the others leave.

Owns:
- `endsInNumber`, the test that decides whether a host is an address;
- `parse?` and the text with four decimal numbers.

Does not own: the strict form inside a longer address.
-/

namespace Provision.Endpoint

/-- A host address of thirty-two bits. -/
structure Ipv4 where
  bits : UInt32
deriving DecidableEq, Repr

namespace Ipv4

/-- The base of a number and its digits. -/
def baseAndDigits : List Char → Nat × List Char
  | '0' :: 'x' :: digits => (16, digits)
  | '0' :: 'X' :: digits => (16, digits)
  | '0' :: digit :: digits => (8, digit :: digits)
  | digits => (10, digits)

/-- Reads one number.  A prefix without digits is zero. -/
def readNumber (label : List Char) : Option Nat :=
  let parts := baseAndDigits label
  if label.isEmpty then none
  else if parts.2.isEmpty then some 0
  else Text.readNatural parts.1 parts.2

/-- The labels of a host without one empty label at the end. -/
def labels (host : List Char) : List (List Char) :=
  let all := Text.pieces '.' host
  if all.getLast? = some [] then all.dropLast else all

/-- Whether the last label of a host is a number. -/
def endsInNumber (host : List Char) : Bool :=
  match (labels host).getLast? with
  | none => false
  | some last =>
      (!last.isEmpty && last.all Text.isDecimal) || (readNumber last).isSome

/-- Puts the leading numbers, one byte each, in front of the last one. -/
def join (numbers : List Nat) : Option Nat := do
  let last ← numbers.getLast?
  let leading := numbers.dropLast
  if 4 < numbers.length then none
  else if leading.any fun number => 255 < number then none
  else if 1 <<< (8 * (4 - leading.length)) ≤ last then none
  else
    some (leading.foldl (fun sum number => sum * 256 + number) 0 *
      1 <<< (8 * (4 - leading.length)) + last)

/-- Reads a host that ends in a number. -/
def parse? (host : List Char) : Option Ipv4 := do
  let numbers ← (labels host).mapM readNumber
  let joined ← join numbers
  some ⟨UInt32.ofNat joined⟩

/-- The four bytes from the first to the last. -/
def bytes (address : Ipv4) : List Nat :=
  [24, 16, 8, 0].map fun shift => address.bits.toNat >>> shift % 256

def text (address : Ipv4) : String :=
  Text.glue "." (address.bytes.map fun byte =>
    String.ofList (Text.decimal byte))

end Ipv4

end Provision.Endpoint
