import Provision.Endpoint.Host

/-!
Contract: the locator of a management endpoint.

Only locators of the web are endpoints.  Others are still read far enough to
tell a malformed one from one with an unsupported scheme.

Owns:
- the parts of a locator, each in its encoded form;
- `Url.parse` and the text of a locator;
- the removal of dot segments from a path.

Does not own: hosts, or requests to an endpoint.
-/

namespace Provision.Endpoint

/-- The schemes of endpoints. -/
inductive Scheme where
  | http
  | https
deriving DecidableEq, Repr

namespace Scheme

def text : Scheme → String
  | .http => "http"
  | .https => "https"

def ofText? (text : String) : Option Scheme :=
  [Scheme.http, Scheme.https].find? fun scheme => scheme.text = text

end Scheme

/-- Who asks, as far as the locator says it. -/
structure UserInfo where
  name : String
  password : String
deriving DecidableEq, Repr

namespace UserInfo

/-- The user in front of the host, unless nothing is said. -/
def text (user : UserInfo) : String :=
  if user.name = "" && user.password = "" then ""
  else
    user.name ++ (if user.password = "" then "" else ":" ++ user.password) ++
      "@"

/-- Reads the text in front of the at sign; the name ends at its first
colon. -/
def ofText (text : List Char) : UserInfo :=
  let parts := (Text.cutAt ':' text).getD (text, [])
  ⟨String.ofList (encode inUserInfo parts.1),
    String.ofList (encode inUserInfo parts.2)⟩

end UserInfo

/-- The locator of an endpoint.  A path has at least one segment, which may
be empty. -/
structure Url where
  scheme : Scheme
  user : UserInfo
  host : Host
  port : Option Nat
  path : List String
  query : Option String
  fragment : Option String
deriving DecidableEq, Repr

namespace Url

/-- A part with a mark in front of it, or nothing. -/
def marked (mark : String) : Option String → String
  | some part => mark ++ part
  | none => ""

def text (url : Url) : String :=
  url.scheme.text ++ "://" ++ url.user.text ++ url.host.text ++
    marked ":" (url.port.map fun port => String.ofList (Text.decimal port)) ++
    String.join (url.path.map fun segment => "/" ++ segment) ++
    marked "?" url.query ++ marked "#" url.fragment

/-! ## Schemes -/

/-- Whether a character is a letter of ASCII. -/
def isLetter (character : Char) : Bool :=
  character.isAlpha

/-- Whether a character may stand in a scheme behind the first one. -/
def isSchemeCharacter (character : Char) : Bool :=
  character.isAlphanum || "+-.".toList.contains character

/-- The scheme in lower case, and the text behind its colon. -/
def cutScheme (text : List Char) : Option (String × List Char) :=
  match text with
  | first :: _ =>
      match Text.cutAt ':' text with
      | some (scheme, rest) =>
          if isLetter first && scheme.all isSchemeCharacter then
            some ((String.ofList scheme).toLower, rest)
          else none
      | none => none
  | [] => none

/-- How the text behind a scheme is read: the schemes of the web and their
kin take backslashes for slashes and need a host; files have a host of their
own kind; any other scheme has a host that is not looked into. -/
inductive Manner where
  | web
  | file
  | other
deriving DecidableEq, Repr

def manner (scheme : String) : Manner :=
  if scheme = "file" then .file
  else if ["http", "https", "ws", "wss", "ftp"].contains scheme then .web
  else .other

/-- The port that a scheme of the web or its kin has when none is given; it is
never written. -/
def quietPort (scheme : String) : Option Nat :=
  match scheme with
  | "http" | "ws" => some 80
  | "https" | "wss" => some 443
  | "ftp" => some 21
  | _ => none

/-! ## The part before the path -/

/-- Whether a character is a slash in a manner. -/
def isSlash (manner : Manner) (character : Char) : Bool :=
  character = '/' || (character = '\\' && manner ≠ .other)

/-- Whether a character ends the part before the path. -/
def endsAuthority (manner : Manner) (character : Char) : Bool :=
  isSlash manner character || character = '?' || character = '#'

/-- The text up to the last at sign before the path, if there is one, and
the text after it. -/
def cutUser (manner : Manner) (text : List Char) :
    Option (List Char) × List Char :=
  let authority := text.takeWhile fun character =>
    !endsAuthority manner character
  if authority.contains '@' then
    let after := (authority.reverse.takeWhile (· ≠ '@')).length
    let before := authority.length - after - 1
    (some (text.take before), text.drop (before + 1))
  else (none, text)

/-- The host, which ends at a colon outside brackets or where the path
begins, and the text after it. -/
def cutHost (manner : Manner) (bracketed : Bool) :
    List Char → List Char × List Char
  | [] => ([], [])
  | head :: tail =>
      if (head = ':' && !bracketed) || endsAuthority manner head then
        ([], head :: tail)
      else
        let rest := cutHost manner
          (if head = '[' then true else if head = ']' then false
            else bracketed) tail
        (head :: rest.1, rest.2)

/-- The port behind the host, if one is given, and the text after it. -/
def cutPort : List Char → Except Refusal (Option Nat × List Char)
  | ':' :: rest =>
      let digits := rest.takeWhile Text.isDecimal
      let after := rest.drop digits.length
      let ends := match after with
        | [] => true
        | next :: _ => "/\\?#".toList.contains next
      let port := Text.digitsFrom 10 0 digits
      if !ends || 65535 < port then .error .invalidPort
      else .ok (if digits.isEmpty then none else some port, after)
  | text => .ok (none, text)

/-- What stands before the path. -/
structure Authority where
  user : UserInfo
  host : Host
  port : Option Nat

def nobody : UserInfo := ⟨"", ""⟩

/-- Whether an empty user stands before an empty host. -/
def isVoid (manner : Manner) (user : Option (List Char))
    (rest : List Char) : Bool :=
  match user, rest with
  | some [], next :: _ => endsAuthority manner next
  | _, _ => false

/-- Reads the part before the path of a scheme of the web or its kin. -/
def readAuthority (scheme : String) (text : List Char) :
    Except Refusal (Authority × List Char) := do
  let (user, rest) := cutUser .web text
  if isVoid .web user rest then throw .emptyHost
  let (host, rest) := cutHost .web false rest
  if host.isEmpty then throw .emptyHost
  let host ← Host.parse host
  let (port, rest) ← cutPort rest
  let written := port.filter fun port => some port ≠ quietPort scheme
  return (⟨(user.map UserInfo.ofText).getD nobody, host, written⟩, rest)

/-- Checks the part before the path of any other scheme. -/
def checkOther (text : List Char) : Except Refusal Unit := do
  let (user, rest) := cutUser .other text
  if isVoid .other user rest then throw .emptyHost
  let (host, rest) := cutHost .other false rest
  Host.checkOpaque host
  let written := (user.map fun user => (UserInfo.ofText user).text).getD ""
  if host.isEmpty && (written ≠ "" || rest.head? = some ':') then
    throw .emptyHost
  let _ ← cutPort rest

/-- Whether a text is a letter and a colon or bar, as drives are named. -/
def isDrive (text : List Char) : Bool :=
  match text with
  | [letter, mark] => isLetter letter && (mark = ':' || mark = '|')
  | _ => false

def checkFile (text : List Char) : Except Refusal Unit :=
  let host := text.takeWhile fun character => !endsAuthority .file character
  if host.isEmpty || isDrive host then .ok ()
  else (Host.parse host).map fun _ => ()

/-- Checks a locator of an unsupported scheme as far as it is read at all. -/
def checkUnsupported (scheme : String) (text : List Char) :
    Except Refusal Unit :=
  match manner scheme, text with
  | .web, text =>
      (readAuthority scheme (text.dropWhile (isSlash .web))).map fun _ => ()
  | .file, first :: second :: rest =>
      if isSlash .file first && isSlash .file second then checkFile rest
      else .ok ()
  | .other, '/' :: '/' :: rest => checkOther rest
  | _, _ => .ok ()

/-! ## The path and what follows it -/

/-- A dot, also in its encoded form, and the text after it. -/
def afterDot : List Char → Option (List Char)
  | '.' :: rest => some rest
  | '%' :: '2' :: 'e' :: rest => some rest
  | '%' :: '2' :: 'E' :: rest => some rest
  | _ => none

/-- Whether a segment stands for the place that it is in. -/
def isDot (segment : List Char) : Bool :=
  afterDot segment = some []

/-- Whether a segment stands for the place above. -/
def isDoubleDot (segment : List Char) : Bool :=
  (afterDot segment).bind afterDot = some []

/-- The segments above the last one, which a drive keeps. -/
def climb (segments : List (List Char)) : List (List Char) :=
  match segments.getLast? with
  | some last => if isDrive last then segments else segments.dropLast
  | none => segments

/-- Follows the segments of a path from the left; a dot segment at the end
leaves an empty one. -/
def follow (done : List (List Char)) : List (List Char) → List (List Char)
  | [] => done
  | [last] =>
      if isDoubleDot last then climb done ++ [[]]
      else if isDot last then done ++ [[]]
      else done ++ [last]
  | segment :: rest =>
      if isDoubleDot segment then follow (climb done) rest
      else if isDot segment then follow done rest
      else follow (done ++ [segment]) rest

/-- The segments of a path, which begins with a slash or has one added. -/
def pathSegments (text : List Char) : List String :=
  let plain := text.map fun character =>
    if character = '\\' then '/' else character
  let body := match plain with
    | '/' :: rest => rest
    | whole => whole
  let written := (Text.pieces '/' body).map (encode inPath)
  (follow [] written).map String.ofList

/-- The text up to a mark, and the text after it if there is one. -/
def cutMark (mark : Char) (text : List Char) :
    List Char × Option (List Char) :=
  match Text.cutAt mark text with
  | some (before, after) => (before, some after)
  | none => (text, none)

/-- An optional part in its encoded form. -/
def encodePart (set : Char → Bool) (part : Option (List Char)) :
    Option String :=
  part.map fun characters => String.ofList (encode set characters)

/-! ## Whole locators -/

/-- The characters that are read: without blanks and control characters at
the ends, and without tabs and line ends anywhere. -/
def readable (text : String) : List Char :=
  let isOuter := fun (character : Char) => character.toNat ≤ 0x20
  let inner := ((text.toList.dropWhile isOuter).reverse.dropWhile
    isOuter).reverse
  inner.filter fun character => !"\t\n\r".toList.contains character

/-- Reads what stands behind the scheme of an endpoint. -/
def parseBehind (scheme : Scheme) (text : List Char) :
    Except Refusal Url := do
  let (authority, rest) ← readAuthority scheme.text
    (text.dropWhile (isSlash .web))
  let (rest, fragment) := cutMark '#' rest
  let (path, query) := cutMark '?' rest
  return {
    scheme
    user := authority.user
    host := authority.host
    port := authority.port
    path := pathSegments path
    query := encodePart inQuery query
    fragment := encodePart inFragment fragment }

def parse (text : String) : Except Refusal Url :=
  match cutScheme (readable text) with
  | none => .error .noScheme
  | some (name, rest) =>
      match Scheme.ofText? name with
      | some scheme => parseBehind scheme rest
      | none => do
          checkUnsupported name rest
          throw (.unsupportedScheme name)

end Url

end Provision.Endpoint
