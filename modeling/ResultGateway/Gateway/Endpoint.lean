-- Endpoints. A client of the API is made from its base URL, and asks for
-- tokens and queries right under it. The run server is asked at one path
-- of a host and a port.
import ResultGateway.Settings
import ResultGateway.Url.Parse

namespace ResultGateway.Gateway

/-! ## The API -/

/-- The base URL that a text names. It has to be for the web. -/
def baseUrl (raw : String) : Except Failure Url :=
  match Url.parse raw with
  | .error e =>
    .error (Failure.dueTo
      { kind := .usage, message := some "invalid api base url", url := some raw }
      (some (.other e.message none)))
  | .ok .foreign =>
    .error { kind := .usage, message := some "api base url must use http or https scheme",
             url := some raw }
  | .ok (.web url) => .ok url.asBase

/-- The URLs of the API. -/
structure Endpoints where
  base : Url
  token : Url
  query : Url
deriving DecidableEq, Repr

def Endpoints.ofBase (base : Url) : Endpoints :=
  ⟨base, base.endpoint "csrf", base.endpoint "graphql"⟩

/-- The URLs under the base URL that a text names. -/
def endpoints (raw : String) : Except Failure Endpoints :=
  match baseUrl raw with
  | .error f => .error f
  | .ok base => .ok (.ofBase base)

/-! ## The run server -/

/-- The run server: its host, and its port when a call names none. -/
structure Runner where
  host : String := Settings.defaultLocalHost
  port : Nat := Settings.defaultLocalPort
deriving DecidableEq, Repr

def Runner.ofSettings (s : Settings) : Runner := ⟨s.localHost, s.localPort⟩

def Runner.rawUrl (r : Runner) (port : Option Nat) : String :=
  "http://" ++ r.host ++ ":" ++ String.ofList (Text.decimal (port.getD r.port)) ++ "/run"

/-- The URL that a code is sent to. -/
def Runner.url (r : Runner) (port : Option Nat) : Except Failure Url :=
  let raw := r.rawUrl port
  let bad (cause : Option Failure.Cause) : Failure := Failure.dueTo
    { kind := .usage, message := some "invalid local server address", url := some raw } cause
  match Url.parse raw with
  | .error e => .error (bad (some (.other e.message none)))
  | .ok (.web url) => .ok url
  | .ok .foreign => .error (bad none)

end ResultGateway.Gateway
