-- Requests and replies. A request names what it asks of a server and the
-- headers it carries; a reply has a status, headers and a body, of which
-- some bytes may not arrive. A body is read up to a length only.
import ResultGateway.Text.Utf8
import ResultGateway.Url.Basic

namespace ResultGateway.Http

/-! ## Requests -/

inductive Method where
  | get
  | post
deriving DecidableEq, Repr

def Method.name : Method → String
  | get => "GET"
  | post => "POST"

structure Request where
  method : Method
  url : Url
  accept : String
  contentType : Option String
  token : Option String
  cookie : Option String
  authorization : Option String
  body : String
deriving DecidableEq, Repr

/-- What a request asks its server for. -/
def Request.target (r : Request) : String := r.url.target

/-! ## Replies -/

structure Reply where
  status : Nat
  headers : List (String × String)
  /-- The content of the body: what it holds once the transfer and the coding, such as gzip, that
  the headers tell of are undone. -/
  body : List UInt8
  /-- How many bytes of the body were announced but do not arrive. -/
  missing : Nat
deriving Repr

namespace Reply

def isNamed (name : String) (header : String × String) : Bool :=
  header.1.toList.map Char.toLower == name.toList.map Char.toLower

/-- The values of all headers of a name, in any case of letters. -/
def headers? (r : Reply) (name : String) : List String :=
  (r.headers.filter (isNamed name)).map Prod.snd

def header? (r : Reply) (name : String) : Option String := (r.headers? name).head?

/-- A status that a body cannot go with. -/
def hasNoBody (r : Reply) : Bool := r.status == 204 || r.status == 304

/-- How many bytes of a body are read at most. -/
def greatestBody : Nat := 10 * 1024 * 1024

/-- The body as a text, in which a replacement character stands for what is no text. -/
def content (r : Reply) : String := String.ofList (Text.Utf8.decodeLossy r.body)

/-- The text of the body, unless it is too long, or the connection ends before all of it is
there. -/
def text? (r : Reply) : Option String :=
  if r.hasNoBody then some ""
  else if r.body.length ≤ greatestBody ∧ r.missing = 0 then some r.content
  else none

/-- Why a body has no text. One that is too long is not read to its end. -/
def unreadCause (r : Reply) : String :=
  if r.body.length ≤ greatestBody then "response body closed before all bytes were read"
  else "response too big for into_string"

/-- A status that the request failed with. -/
def isFailed (r : Reply) : Bool := 400 ≤ r.status

/-- A status that sends the client elsewhere, when it says where. -/
def isRedirect (r : Reply) : Bool := 300 ≤ r.status && r.status < 399

end Reply

end ResultGateway.Http
