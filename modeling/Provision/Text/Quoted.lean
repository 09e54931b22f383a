import Provision.Text.Digits
import Provision.Text.Unprintable

/-!
Contract: texts quoted for a reader of messages.

Owns:
- the escapes of a quoted text: a letter for the usual ones, the code point
  between braces for every other character that cannot be shown;
- `quoted`, the text between quotes.

Does not own: the strings of data documents, which have escapes of their own.
-/

namespace Provision.Text

/-- One character as it stands between the quotes. -/
def shownCharacter (character : Char) : List Char :=
  if character = '\x00' then ['\\', '0']
  else if character = '\t' then ['\\', 't']
  else if character = '\n' then ['\\', 'n']
  else if character = '\r' then ['\\', 'r']
  else if character = '"' then ['\\', '"']
  else if character = '\\' then ['\\', '\\']
  else if isUnprintable character then
    ['\\', 'u', '\x7b'] ++ hexadecimal character.toNat ++ ['\x7d']
  else [character]

def quoted (text : String) : String :=
  String.ofList ('"' :: (text.toList.flatMap shownCharacter ++ ['"']))

end Provision.Text
