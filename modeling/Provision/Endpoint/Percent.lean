import Provision.Text.Digits

/-!
Contract: percent encoding of characters in a locator.

Owns:
- the bytes of a character, and their encoded form;
- the sets of characters that are encoded in each part of a locator;
- decoding, which leaves a percent sign without two digits as it is.

Does not own: where the parts of a locator begin and end.
-/

namespace Provision.Endpoint

/-- A hexadecimal digit in upper case. -/
def upperDigit (value : Nat) : Char :=
  if value < 10 then Char.ofNat (0x30 + value)
  else Char.ofNat (0x41 + value - 10)

/-- A byte behind a percent sign. -/
def encodeByte (byte : UInt8) : List Char :=
  ['%', upperDigit (byte.toNat / 16), upperDigit (byte.toNat % 16)]

/-- The encoded form of all bytes of a character. -/
def encodeCharacter (character : Char) : List Char :=
  (String.singleton character).toUTF8.toList.flatMap encodeByte

/-- Encodes the characters of a set; those outside ASCII are in every set. -/
def encode (set : Char → Bool) (text : List Char) : List Char :=
  text.flatMap fun character =>
    if 0x7f ≤ character.toNat || set character then encodeCharacter character
    else [character]

/-- Whether a character is a control character of ASCII. -/
def isControl (character : Char) : Bool :=
  character.toNat < 0x20

/-- What is encoded behind a hash sign. -/
def inFragment (character : Char) : Bool :=
  isControl character || " \"<>`".toList.contains character

def inPath (character : Char) : Bool :=
  inFragment character || "#?\x7b\x7d".toList.contains character

/-- What is encoded in the name and the password of a user. -/
def inUserInfo (character : Char) : Bool :=
  inPath character || "/:;=@[\\]^|".toList.contains character

/-- What is encoded behind a question mark. -/
def inQuery (character : Char) : Bool :=
  isControl character || " \"#<>'".toList.contains character

/-- The bytes of a text in which encoded bytes stand for themselves. -/
def decode : List Char → List UInt8
  | [] => []
  | '%' :: first :: second :: rest =>
      match Text.readNatural 16 [first, second] with
      | some value => UInt8.ofNat value :: decode rest
      | none => '%'.toNat.toUInt8 :: decode (first :: second :: rest)
  | character :: rest =>
      (String.singleton character).toUTF8.toList ++ decode rest

end Provision.Endpoint
