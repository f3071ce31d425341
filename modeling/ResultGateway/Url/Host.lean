-- Hosts of URLs: names in ASCII, and addresses of four bytes or of eight
-- pieces. A name whose last part is a number has to be an address.
import ResultGateway.Domain.Ascii
import ResultGateway.Url.Ipv4
import ResultGateway.Url.Ipv6
import ResultGateway.Url.Percent

namespace ResultGateway.Url

/-! ## Errors -/

/-- Why a text is not a URL. -/
inductive UrlError where
  | emptyHost
  | badDomain
  | badPort
  | badIpv4
  | badIpv6
  | badCharacter
  | noBase
deriving DecidableEq, Repr

def UrlError.message : UrlError → String
  | .emptyHost => "empty host"
  | .badDomain => "invalid international domain name"
  | .badPort => "invalid port number"
  | .badIpv4 => "invalid IPv4 address"
  | .badIpv6 => "invalid IPv6 address"
  | .badCharacter => "invalid domain character"
  | .noBase => "relative URL without a base"

/-! ## Hosts -/

inductive Host where
  | name (text : String)
  | ipv4 (address : Nat)
  | ipv6 (pieces : List Nat)
deriving DecidableEq, Repr

namespace Host

def text : Host → String
  | name text => text
  | ipv4 address => String.ofList (Ipv4.text address)
  | ipv6 pieces => String.ofList ('[' :: Ipv6.text pieces ++ [']'])

/-- An address in brackets. -/
def bracketed? (cs : List Char) : Option (Except UrlError Host) :=
  match cs with
  | '[' :: inner =>
    some <|
      if inner.getLast? != some ']' then .error .badIpv6
      else
        match Ipv6.parse inner.dropLast with
        | some pieces => .ok (ipv6 pieces)
        | none => .error .badIpv6
  | _ => none

/-- The host of a URL for the web. -/
def parse (cs : List Char) : Except UrlError Host :=
  match bracketed? cs with
  | some result => result
  | none =>
    match Domain.toAscii (Percent.decode cs) with
    | none => .error .badDomain
    | some [] => .error .emptyHost
    | some domain =>
      if Ipv4.isNumeric domain then
        match Ipv4.parse domain with
        | some address => .ok (ipv4 address)
        | none => .error .badIpv4
      else .ok (name (String.ofList domain))

/-- Characters that no host may hold as they are. -/
def isRefused (c : Char) : Bool := "\x00\t\n\x0d #/:<>?@[\\]^|".contains c

/-- Whether the host of a URL for something else than the web is one, and whether it is empty. -/
def checkForeign (cs : List Char) : Except UrlError Bool :=
  match bracketed? cs with
  | some (.error e) => .error e
  | some (.ok _) => .ok false
  | none => if cs.any isRefused then .error .badCharacter else .ok cs.isEmpty

end Host

end ResultGateway.Url
