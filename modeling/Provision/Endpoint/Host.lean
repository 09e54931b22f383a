import Provision.Endpoint.DomainName
import Provision.Endpoint.Ipv4
import Provision.Endpoint.Ipv6
import Provision.Endpoint.Percent

/-!
Contract: the host of a locator.

Owns:
- the three forms of a host and their text;
- `Host.parse`, which refuses an empty host;
- the check of a host in a locator of an unknown scheme.

Does not own: where the host stands in a locator.
-/

namespace Provision.Endpoint

/-- Why a text is no locator of an endpoint. -/
inductive Refusal where
  | noScheme
  | emptyHost
  | invalidPort
  | invalidIpv4
  | invalidIpv6
  | invalidDomainName
  | invalidCharacter
  | unsupportedScheme (scheme : String)
deriving DecidableEq, Repr

def Refusal.message : Refusal → String
  | .noScheme => "relative URL without a base"
  | .emptyHost => "empty host"
  | .invalidPort => "invalid port number"
  | .invalidIpv4 => "invalid IPv4 address"
  | .invalidIpv6 => "invalid IPv6 address"
  | .invalidDomainName => "invalid international domain name"
  | .invalidCharacter => "invalid domain character"
  | .unsupportedScheme scheme => "unsupported scheme '" ++ scheme ++ "'"

/-- The host of a locator. -/
inductive Host where
  | name (text : String)
  | ipv4 (address : Ipv4)
  | ipv6 (address : Ipv6)
deriving DecidableEq, Repr

namespace Host

/-- The host as it stands in a locator. -/
def text : Host → String
  | .name text => text
  | .ipv4 address => address.text
  | .ipv6 address => "[" ++ address.text ++ "]"

/-- Reads an address behind its opening bracket. -/
def parseBracketed (text : List Char) : Except Refusal Host :=
  match text.reverse with
  | ']' :: reversed =>
      match Ipv6.parse? reversed.reverse with
      | some address => .ok (.ipv6 address)
      | none => .error .invalidIpv6
  | _ => .error .invalidIpv6

/-- Reads a host that is no address in brackets. -/
def parseName (text : List Char) : Except Refusal Host :=
  let decoded := String.fromUTF8? (decode text).toByteArray
  match decoded.bind fun name => DomainName.toAscii? name.toList with
  | none => .error .invalidDomainName
  | some written =>
      if written.isEmpty then .error .emptyHost
      else if Ipv4.endsInNumber written then
        match Ipv4.parse? written with
        | some address => .ok (.ipv4 address)
        | none => .error .invalidIpv4
      else .ok (.name (String.ofList written))

def parse : List Char → Except Refusal Host
  | '[' :: rest => parseBracketed rest
  | text => parseName text

/-- The characters that a host of an unknown scheme must not hold. -/
def isOpaqueForbidden (character : Char) : Bool :=
  "\x00\t\n\r #/:<>?@[\\]^|".toList.contains character

/-- Checks a host of an unknown scheme, which is not looked into. -/
def checkOpaque : List Char → Except Refusal Unit
  | '[' :: rest => (parseBracketed rest).map fun _ => ()
  | text =>
      if text.any isOpaqueForbidden then .error .invalidCharacter else .ok ()

end Host

end Provision.Endpoint
