-- Exchanges with servers. The servers of a network are a list of replies,
-- given one to a request; when none is left, the connection ends without
-- one. A client follows a reply that sends it elsewhere, four times at
-- most, and keeps the cookies that come with each reply.
import ResultGateway.Failure
import ResultGateway.Http.Base64
import ResultGateway.Http.Cookie
import ResultGateway.Http.Message
import ResultGateway.Url.Parse

namespace ResultGateway.Http

/-! ## Networks -/

/-- What a client asks for. -/
structure Call where
  method : Method
  url : Url
  contentType : Option String := none
  token : Option String := none
  body : String := ""
deriving Repr

/-- The part of a network that changes: the replies still to come, and the cookies of the client. -/
structure Wire where
  replies : List Reply
  jar : Jar := []
deriving Repr

/-- The part of a network that stays as it is. -/
structure Network where
  /-- Whether a connection to the host of a URL succeeds. -/
  reaches : Url → Bool
  /-- The time, in seconds from the start of 1970. -/
  now : Int
  /-- The error that the client names when a call, made on a wire, gets no reply to read. Where the
  network does not tell it, one that names the URL stands for it. -/
  cause : Call → Wire → Failure.Cause := fun call _ => .other (call.url.text ++ ": no reply") none

/-- What a call gives: its result, the requests it made, and the network after it. -/
structure Exchange (α : Type) where
  result : α
  requests : List Request
  wire : Wire
deriving Repr

/-! ## Calls -/

/-- A character that the value of a header may hold. -/
def isHeaderChar (c : Char) : Bool := c == '\t' || (' ' ≤ c && c ≤ '~')

def isHeaderValue (s : String) : Bool := s.toList.all isHeaderChar

/-- The value of a header as it arrives. -/
def trimmedValue (s : String) : String :=
  String.ofList (Text.trimBy (fun c => c == ' ' || c == '\t') s.toList)

/-- The credentials of a URL, as they are written there. -/
def authorization? (u : Url) : Option String :=
  if u.hasUserInfo then
    let credentials := u.user ++ ":" ++ u.password.getD ""
    some ("Basic " ++ String.ofList (Base64.encode (Text.Utf8.encode credentials.toList)))
  else none

/-- The request of a call, with the cookies of a jar. -/
def Call.request (call : Call) (jar : Jar) : Request where
  method := call.method
  url := call.url
  accept := "application/json"
  contentType := call.contentType
  token := call.token.map trimmedValue
  cookie := jar.header? call.url
  authorization := authorization? call.url
  body := call.body

/-! ## Being sent elsewhere -/

/-- What a client does with a reply that may send it elsewhere. -/
inductive Next where
  /-- It reads the reply itself. -/
  | read
  | go (call : Call)
  | fail

/-- The method of the next request, if there is one. A call with a body is not sent twice. -/
def nextMethod? (method : Method) (status : Nat) : Option Method :=
  if status = 301 || status = 302 || status = 303 then some .get
  else if (status = 307 || status = 308) && method == .get then some .get
  else none

def Call.next (call : Call) (reply : Reply) : Next :=
  match reply.header? "location" with
  | none => .read
  | some location =>
    match Url.resolve call.url location, nextMethod? call.method reply.status with
    | .error _, _ => .fail
    | .ok _, none => .read
    | .ok .foreign, some _ => .fail
    | .ok (.web url), some method => .go { call with method, url, body := "" }

/-! ## Sending -/

/-- Makes one request. -/
def sendOnce (net : Network) (call : Call) (wire : Wire) : Exchange (Option Reply) :=
  if !net.reaches call.url then ⟨none, [], wire⟩
  else
    let request := call.request wire.jar
    match wire.replies with
    | [] => ⟨none, [request], wire⟩
    | reply :: replies =>
      ⟨some reply, [request],
        ⟨replies, wire.jar.store call.url net.now (reply.headers? "set-cookie")⟩⟩

/-- Makes a request, and those that the replies lead to, as long as it may be sent on. -/
def sendFollowing (net : Network) : Nat → Call → Wire → Exchange (Option Reply)
  | left, call, wire =>
    let first := sendOnce net call wire
    match first.result with
    | none => first
    | some reply =>
      if !reply.isRedirect then first
      else
        match left with
        | 0 => { first with result := none }
        | left + 1 =>
          match call.next reply with
          | .read => first
          | .fail => { first with result := none }
          | .go call =>
            let later := sendFollowing net left call first.wire
            { later with requests := first.requests ++ later.requests }

/-- How often a client lets itself be sent elsewhere. -/
def greatestFollowed : Nat := 4

/-- The reply that a call ends with, or nothing when the network fails it. A token that no header
can carry fails it before anything is sent. -/
def send (net : Network) (call : Call) (wire : Wire) : Exchange (Option Reply) :=
  if call.token.all isHeaderValue then sendFollowing net greatestFollowed call wire
  else ⟨none, [], wire⟩

end ResultGateway.Http
