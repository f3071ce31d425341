-- Cookies. A server sets a cookie for its host and for the paths under
-- one; the jar keeps it until it expires, and gives it to requests that it
-- fits. A cookie replaces one of the same name, host and path.
import ResultGateway.Http.Date
import ResultGateway.Text.Blank
import ResultGateway.Text.Table
import ResultGateway.Url.Basic

namespace ResultGateway.Http

structure Cookie where
  name : String
  value : String
  domain : String
  /-- Whether the cookie is for the hosts below its domain too. -/
  isWide : Bool
  path : String
  secure : Bool
deriving DecidableEq, Repr

namespace Cookie

/-! ## Names and values -/

def isNameChar (c : Char) : Bool := c.isAlphanum || "!#$%&'*+-.^_`|~".contains c

def isValueChar (c : Char) : Bool :=
  0x21 ≤ c.toNat && c.toNat ≤ 0x7e && !"\",;\\".contains c

/-- The parts before and behind the first equals sign, trimmed. -/
def splitPair (part : List Char) : Option (String × String) :=
  match part.dropWhile (· != '=') with
  | [] => none
  | _ :: value =>
    some (Text.trim (String.ofList (part.takeWhile (· != '='))), Text.trim (String.ofList value))

/-! ## Attributes -/

/-- What a cookie says about itself. -/
structure Attributes where
  domain : Option String := none
  path : Option String := none
  /-- How many seconds it is good for. -/
  maxAge : Option Nat := none
  /-- The time it is good until. -/
  expires : Option Int := none
  secure : Bool := false

def maxAgeOf (value : String) : Option Nat :=
  match value.toList with
  | '-' :: digits => if digits.all Text.isDigit then some 0 else none
  | [] => some 0x7fffffffffffffff
  | digits => if digits.all Text.isDigit then some (Text.ofDigits digits) else none

/-- A domain in lower case, without the dot that may stand before it. -/
def domainOf (value : String) : Option String :=
  match value.toList.map Char.toLower with
  | [] => none
  | '.' :: rest => some (String.ofList rest)
  | cs => some (String.ofList cs)

/-- Takes one attribute into account; what is not understood changes nothing. -/
def Attributes.add (a : Attributes) (part : List Char) : Attributes :=
  let name := match splitPair part with
    | some (name, _) => name
    | none => Text.trim (String.ofList part)
  match String.ofList (name.toList.map Char.toLower), (splitPair part).map Prod.snd with
  | "secure", _ => { a with secure := true }
  | "domain", some value => { a with domain := (domainOf value).or a.domain }
  | "path", some value => { a with path := some value }
  | "max-age", some value => { a with maxAge := (maxAgeOf value).or a.maxAge }
  | "expires", some value => { a with expires := (Date.parse value).or a.expires }
  | _, _ => a

/-! ## Hosts and paths -/

/-- A host that is a domain, or has a name below it. -/
def domainFits (domain : String) (host : Url.Host) : Bool :=
  match host with
  | .name text => text == domain || ('.' :: domain.toList).isSuffixOf text.toList
  | host => host.text == domain

/-- A host that a cookie is for. -/
def hostFits (c : Cookie) (host : Url.Host) : Bool :=
  if c.isWide then domainFits c.domain host else c.domain == host.text

/-- The path that a cookie is for when it names none: that of the request up to its last slash. -/
def defaultPath (u : Url) : String :=
  match u.path.dropLast with
  | [] => "/"
  | front => Url.pathText front

/-- A path at or under another one. -/
def pathFits (cookiePath path : List Char) : Bool :=
  cookiePath.isPrefixOf path &&
    (cookiePath.length == path.length || cookiePath.getLast? == some '/'
      || (path.drop cookiePath.length).head? == some '/')

/-- A host on this very machine. -/
def isLoopback : Url.Host → Bool
  | .name text => text == "localhost"
  | .ipv4 address => address / 0x1000000 == 127
  | .ipv6 pieces => pieces == [0, 0, 0, 0, 0, 0, 0, 1]

def fits (c : Cookie) (u : Url) : Bool :=
  c.hostFits u.host && pathFits c.path.toList (Url.pathText u.path).toList
    && (!c.secure || u.scheme == .https || isLoopback u.host)

def samePlace (a b : Cookie) : Bool := a.name == b.name && a.domain == b.domain && a.path == b.path

/-! ## Reading a header -/

/-- The cookie that a header of a reply sets, and whether it has expired by now. -/
def read (header : String) (u : Url) (now : Int) : Option (Cookie × Bool) := do
  let parts := Text.splitBy (· == ';') header.toList
  let (name, value) ← splitPair (parts.headD [])
  if name = "" || !name.toList.all isNameChar || !value.toList.all isValueChar then none
  let a := (parts.drop 1).foldl Attributes.add {}
  let named := a.domain.filter (· != "")
  if !named.all fun domain => domainFits domain u.host then none
  let path := (a.path.filter fun p => p.startsWith "/").getD (defaultPath u)
  let expired := match a.maxAge, a.expires with
    | some age, _ => age == 0
    | none, some time => time ≤ now
    | none, none => false
  let domain := named.getD u.host.text
  return (⟨name, value, domain, named.isSome, path, a.secure⟩, expired)

end Cookie

/-! ## Jars -/

abbrev Jar := List Cookie

namespace Jar

/-- Puts a cookie in the place of one like it; one that has expired only takes it out. -/
def put (jar : Jar) (cookie : Cookie) (expired : Bool) : Jar :=
  let others := jar.filter fun c => !c.samePlace cookie
  if expired then others else others ++ [cookie]

/-- Takes the cookies that a reply to a request for a URL sets. -/
def store (jar : Jar) (u : Url) (now : Int) (headers : List String) : Jar :=
  headers.foldl (fun jar header =>
    match Cookie.read header u now with
    | some (cookie, expired) => jar.put cookie expired
    | none => jar) jar

/-- Puts a text into its place among sorted texts. -/
def insertText (s : String) : List String → List String
  | [] => [s]
  | t :: rest => if s < t then s :: t :: rest else t :: insertText s rest

/-- The header that gives a request its cookies, sorted. -/
def header? (jar : Jar) (u : Url) : Option String :=
  let pairs := (jar.filter fun c => c.fits u).map fun c => c.name ++ "=" ++ c.value
  if pairs.isEmpty then none else some (String.intercalate ";" (pairs.foldr insertText []))

end Jar

end ResultGateway.Http
