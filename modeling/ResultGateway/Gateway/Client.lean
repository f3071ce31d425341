-- Calls of the API and of the run server. A query needs a token: the one
-- of the session, or else one that is fetched first and then kept. Each
-- failure names the URL that was called, wherever the replies led.
import ResultGateway.Gateway.Endpoint
import ResultGateway.Gateway.Session
import ResultGateway.GraphQl.Reply
import ResultGateway.Http.Exchange

namespace ResultGateway.Gateway

open Http (Network Wire Exchange Call Reply)
open Json (Reader)

/-! ## Replies -/

/-- The kind of failure that a status stands for. -/
def kindOfStatus (status : Nat) : Failure.Kind :=
  if status = 400 || status = 413 then .usage
  else if status = 401 || status = 403 then .permission
  else if status = 404 then .notFound
  else if 500 ≤ status && status ≤ 599 then .internal
  else .io

/-- The message of a failed reply: that of the first error of its body, if it can be read. -/
def complaint (status : Nat) (body : String) : String :=
  match GraphQl.complaintsShape.reader.decode body with
  | .ok (message :: _) => message
  | _ => "remote error status " ++ String.ofList (Text.decimal status)

def failedReply (reply : Reply) (url : Url) : Failure :=
  { kind := kindOfStatus reply.status
    message := some (complaint reply.status (reply.text?.getD ""))
    status := some reply.status
    url := some url.text }

/-- The failure of a call that gets no reply to read, over the error that the network names. -/
def unanswered (cause : Failure.Cause) (url : Url) : Failure :=
  Failure.dueTo { kind := .io, message := some "request failed", url := some url.text } (some cause)

/-- What a reply holds, or why that cannot be known. Where there is none, a cause is given. -/
def readReply {α : Type} (read : Reader α) (cause : Failure.Cause) (url : Url) :
    Option Reply → Except Failure α
  | none => .error (unanswered cause url)
  | some reply =>
    if reply.isFailed then .error (failedReply reply url)
    else
      match reply.text? with
      | none =>
        .error (Failure.dueTo
          { kind := .io, message := some "failed to read response body", url := some url.text }
          (some (.other reply.unreadCause none)))
      | some body =>
        match read.decode body with
        | .ok a => .ok a
        | .error e =>
          .error (Failure.dueTo
            { kind := .internal, message := some "invalid response json", url := some url.text }
            (some (.other e.message none)))

/-! ## Log records -/

def failedStatus (reply : Reply) (url : Url) : Log.Record where
  level := .warn
  origin := .client
  message := "api request failed"
  fields := [("status", String.ofList (Text.decimal reply.status)), ("url", url.text)]

def fetchedToken (url : Url) : Log.Record where
  level := .debug
  origin := .client
  message := "fetched csrf token"
  fields := [("url", url.text)]

def carriedErrors (count : Nat) : Log.Record where
  level := .debug
  origin := .client
  message := "graphql response carried errors"
  fields := [("count", String.ofList (Text.decimal count))]

def postingCode (url : Url) (code : String) : Log.Record where
  level := .debug
  origin := .client
  message := "posting code to local server"
  fields := [("url", url.text), ("code_bytes", String.ofList (Text.decimal code.utf8ByteSize))]

/-- The record that a reply of a failed status leaves. -/
def statusLog (url : Url) : Option Reply → List Log.Record
  | some reply => if reply.isFailed then [failedStatus reply url] else []
  | none => []

/-! ## Calls -/

/-- What a call gives: its result, the requests it made, the network after it, and the log. -/
structure Outcome (α : Type) where
  result : Except Failure α
  requests : List Http.Request
  wire : Wire
  log : List Log.Record

/-- Makes a call and reads what the reply holds. -/
def perform {α : Type} (net : Network) (read : Reader α) (call : Call) (wire : Wire) : Outcome α :=
  let exchange := Http.send net call wire
  ⟨readReply read (net.cause call wire) call.url exchange.result, exchange.requests,
    exchange.wire, statusLog call.url exchange.result⟩

def tokenCall (e : Endpoints) : Call := { method := .get, url := e.token }

def jsonType : Option String := some "application/json"

def queryCall (e : Endpoints) (token query : String) (vars : Option Json) : Call :=
  { method := .post, url := e.query, contentType := jsonType, token := some token,
    body := (GraphQl.requestBody query vars).compact }

/-! ## Tokens -/

/-- Asks for a new token, and leaves every session as it is. -/
def fetchToken (net : Network) (e : Endpoints) (wire : Wire) : Outcome String :=
  let outcome := perform net GraphQl.tokenShape.reader (tokenCall e) wire
  match outcome.result with
  | .ok _ => { outcome with log := outcome.log ++ [fetchedToken e.token] }
  | .error _ => outcome

/-- The token of the session, or else a new one, which the session then keeps. -/
def ensureToken (net : Network) (e : Endpoints) (s : Session) (wire : Wire) :
    Outcome String × Session :=
  match s.token with
  | some token => (⟨.ok token, [], wire, []⟩, s)
  | none =>
    let outcome := fetchToken net e wire
    match outcome.result with
    | .ok token => (outcome, s.withToken token)
    | .error _ => (outcome, s)

/-! ## Queries -/

def rejectedHint : String :=
  "The CSRF token or session cookie was rejected; start a new session."

/-- A refused query may be due to its token. -/
def hintRejected (f : Failure) : Failure :=
  if f.kind = .permission then { f with hint := some rejectedHint } else f

/-- Sends a query with a token. -/
def postQuery (net : Network) (e : Endpoints) (token query : String) (vars : Option Json)
    (wire : Wire) : Outcome GraphQl.Reply :=
  let outcome := perform net GraphQl.Reply.shape.reader (queryCall e token query vars) wire
  match outcome.result with
  | .error f => { outcome with result := .error (hintRejected f) }
  | .ok reply =>
    match reply.errors with
    | some errors => { outcome with log := outcome.log ++ [carriedErrors errors.length] }
    | none => outcome

/-- Runs a query in a session. -/
def query (net : Network) (e : Endpoints) (s : Session) (query : String)
    (vars : Option Json) (wire : Wire) : Outcome GraphQl.Reply × Session :=
  let (first, s) := ensureToken net e s wire
  match first.result with
  | .error f => (⟨.error f, first.requests, first.wire, first.log⟩, s)
  | .ok token =>
    let second := postQuery net e token query vars first.wire
    ({ second with
        requests := first.requests ++ second.requests
        log := first.log ++ second.log }, s)

/-! ## Runs -/

/-- The body that asks for a run of a code on a graph. -/
def runBody (code : String) (graph : Json) : Json :=
  .obj [("code", .str code), ("graph", graph)]

def runCall (url : Url) (code : String) (graph : Json) : Call :=
  { method := .post, url, contentType := jsonType, body := (runBody code graph).compact }

/-- Sends a code and a graph to the run server. -/
def Runner.run (net : Network) (r : Runner) (code : String) (graph : Json) (port : Option Nat)
    (wire : Wire) : Outcome Json :=
  match r.url port with
  | .error f => ⟨.error f, [], wire, []⟩
  | .ok url =>
    let outcome := perform net Reader.value (runCall url code graph) wire
    { outcome with log := postingCode url code :: outcome.log }

end ResultGateway.Gateway
