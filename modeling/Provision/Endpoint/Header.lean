import Provision.Members

/-!
Contract: the headers that go with every request.

Owns:
- names, which are kept in lower case, and values;
- the checks of both, with the wording of a refusal;
- the two ways to add a header.

Does not own: where headers come from.
-/

namespace Provision.Endpoint

/-- The name of a header, in lower case. -/
structure HeaderName where
  text : String
deriving DecidableEq, Repr

/-- Whether a character may stand in the name of a header. -/
def isTokenCharacter (character : Char) : Bool :=
  character.isAlphanum || "!#$%&'*+-.^_`|~".toList.contains character

/-- The greatest number of bytes in the name of a header. -/
def HeaderName.longest : Nat := 0xffff

/-- The name with a text; nothing for an empty text, one with a character that
no name holds, or one that is too long. -/
def HeaderName.ofText? (text : String) : Option HeaderName :=
  if text ≠ "" ∧ text.toList.all isTokenCharacter ∧
      text.utf8ByteSize ≤ HeaderName.longest then
    some ⟨text.toLower⟩
  else none

def HeaderName.refusal : String := "invalid HTTP header name"

/-- The name of the header that says what the body is. -/
def HeaderName.contentType : HeaderName := ⟨"content-type"⟩

/-- The name of the header that says who asks. -/
def HeaderName.authorization : HeaderName := ⟨"authorization"⟩

/-- The value of a header. -/
structure HeaderValue where
  text : String
deriving DecidableEq, Repr

/-- Whether a character may stand in a value: a tab, or anything that is no
control character of ASCII. -/
def isValueCharacter (character : Char) : Bool :=
  character = '\t' || (0x20 ≤ character.toNat && character.toNat ≠ 0x7f)

/-- The value with a text, if every character may stand in it. -/
def HeaderValue.ofText? (text : String) : Option HeaderValue :=
  if text.toList.all isValueCharacter then some ⟨text⟩ else none

def HeaderValue.refusal : String := "failed to parse header value"

/-- Headers in the order in which they were added. -/
abbrev Headers := List (HeaderName × HeaderValue)

namespace Headers

/-- Gives a name one value, in place of the one that it had. -/
def insert (headers : Headers) (name : HeaderName) (value : HeaderValue) :
    Headers :=
  Members.put name value headers

def append (headers : Headers) (name : HeaderName) (value : HeaderValue) :
    Headers :=
  headers ++ [(name, value)]

/-- The headers sorted by name; values of one name keep their order. -/
def sorted (headers : Headers) : Headers :=
  headers.mergeSort fun left right => left.1.text ≤ right.1.text

end Headers

end Provision.Endpoint
