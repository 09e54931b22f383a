/-!
Contract: texts of bytes that need not be well-formed.

Bytes in UTF-8 give their text.  Elsewhere, each longest piece that begins a
character without finishing it gives one replacement character, and so does
each byte that begins none.

Owns:
- the ranges of the bytes that follow a first byte;
- `charactersOf`, which writes a mark of the caller's for such a piece;
- `ofBytes`, which never fails.

Does not own: files, or what their text means.
-/

namespace Provision.Text

/-- The character that stands for bytes that are none. -/
def replacement : Char := '\ufffd'

/-- How many bytes follow a first byte, and the range of the next one. -/
def followers (first : Nat) : Option (Nat × Nat × Nat) :=
  if 0xc2 ≤ first && first ≤ 0xdf then some (1, 0x80, 0xbf)
  else if first = 0xe0 then some (2, 0xa0, 0xbf)
  else if first = 0xed then some (2, 0x80, 0x9f)
  else if 0xe1 ≤ first && first ≤ 0xef then some (2, 0x80, 0xbf)
  else if first = 0xf0 then some (3, 0x90, 0xbf)
  else if 0xf1 ≤ first && first ≤ 0xf3 then some (3, 0x80, 0xbf)
  else if first = 0xf4 then some (3, 0x80, 0x8f)
  else none

/-- The bytes at the front that carry a character on. -/
def carriedOn : Nat → Nat → Nat → List Nat → List Nat
  | 0, _, _, _ => []
  | _, _, _, [] => []
  | count + 1, low, high, byte :: rest =>
      if low ≤ byte && byte ≤ high then
        byte :: carriedOn count 0x80 0xbf rest
      else []

/-- The character of a first byte and all bytes that follow it. -/
def joined (first : Nat) (others : List Nat) : Char :=
  Char.ofNat (others.foldl (fun sum byte => sum * 64 + byte % 64)
    (first % (1 <<< (6 - others.length))))

/-- The characters of bytes, with a mark in place of each piece that is no
character. -/
def charactersOf (mark : List Char) : List Nat → List Char
  | [] => []
  | first :: rest =>
      if first < 0x80 then Char.ofNat first :: charactersOf mark rest
      else
        match followers first with
        | none => mark ++ charactersOf mark rest
        | some (count, low, high) =>
            let others := carriedOn count low high rest
            (if others.length = count then [joined first others] else mark) ++
              charactersOf mark (rest.drop others.length)
termination_by bytes => bytes.length
decreasing_by
  all_goals simp only [List.length_cons, List.length_drop]; omega

def ofBytes (bytes : ByteArray) : String :=
  match String.fromUTF8? bytes with
  | some text => text
  | none =>
      String.ofList (charactersOf [replacement] (bytes.toList.map UInt8.toNat))

end Provision.Text
