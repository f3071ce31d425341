-- URLs for the web. A URL has a scheme, a host, and a path of segments; it
-- may have a user, a password, a port other than the usual one, a query
-- and a fragment. All parts are kept as they are written, encoded.
import ResultGateway.Url.Host

namespace ResultGateway

open Url (Host)

inductive Url.Scheme where
  | http
  | https
deriving DecidableEq, Repr

def Url.Scheme.name : Scheme → String
  | http => "http"
  | https => "https"

/-- The port of a scheme, which a URL does not name. -/
def Url.Scheme.port : Scheme → Nat
  | http => 80
  | https => 443

structure Url where
  scheme : Url.Scheme
  user : String
  /-- A password of no characters counts as none. -/
  password : Option String
  host : Host
  /-- The port when it is not that of the scheme. -/
  port : Option Nat
  /-- The segments of the path, at least one. The path ends in a slash when the last is empty. -/
  path : List String
  query : Option String
  fragment : Option String
deriving DecidableEq, Repr

namespace Url

/-! ## Texts -/

def pathText (path : List String) : String :=
  String.join (path.map fun segment => "/" ++ segment)

def hasUserInfo (u : Url) : Bool := u.user != "" || u.password.isSome

/-- The user and the password, as they stand before the host. -/
def userInfo (u : Url) : String :=
  match u.password with
  | some password => u.user ++ ":" ++ password
  | none => u.user

def authority (u : Url) : String :=
  (if u.hasUserInfo then u.userInfo ++ "@" else "") ++ u.host.text ++
    match u.port with
    | some port => ":" ++ String.ofList (Text.decimal port)
    | none => ""

def queryText (u : Url) : String :=
  match u.query with
  | some query => "?" ++ query
  | none => ""

/-- What a request asks for: the path and the query. -/
def target (u : Url) : String := pathText u.path ++ u.queryText

def text (u : Url) : String :=
  u.scheme.name ++ "://" ++ u.authority ++ u.target ++
    match u.fragment with
    | some fragment => "#" ++ fragment
    | none => ""

/-- The port that the URL leads to. -/
def effectivePort (u : Url) : Nat := u.port.getD u.scheme.port

/-! ## Paths -/

/-- The path ends in a slash. -/
def endsInSlash (u : Url) : Bool := u.path.getLast? == some ""

/-- The URL as a base for others: the path ends in a slash, and nothing stands behind it. -/
def asBase (u : Url) : Url :=
  { u with
    path := if u.endsInSlash then u.path else u.path ++ [""]
    query := none
    fragment := none }

/-- Puts a segment at the end of a path, in the place of an empty last segment. A path of two
slashes counts as one slash. -/
def appendSegment (path : List String) (segment : String) : List String :=
  let front := if path.getLast? = some "" then path.dropLast else path
  if front = [""] then [segment] else front ++ [segment]

def endpoint (u : Url) (segment : String) : Url :=
  { u with path := appendSegment u.path segment }

end Url

end ResultGateway
