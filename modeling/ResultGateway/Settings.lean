-- Settings: where the API and the local run server are. An explicit value
-- comes before one of the environment, and that before the default. A
-- value is trimmed, and one that is all blanks counts as not given.
import ResultGateway.Failure
import ResultGateway.Text.Blank
import ResultGateway.Text.Decimal

namespace ResultGateway

namespace Settings

/-! ## Defaults -/

def defaultApiUrl : String := "http://localhost:8000/"

def defaultLocalHost : String := "localhost"

def defaultLocalPort : Nat := 7590

/-- The variables that settings are read from. -/
structure Environment where
  apiUrl : Option String
  localPort : Option String
deriving DecidableEq, Repr

def localPortVariable : String := "GRAPHERY_LOCAL_PORT"

/-! ## The URL of the API -/

def chooseApiUrl (explicit fromEnv : Option String) : String :=
  let given := (explicit.filter Text.isNonBlank).or (fromEnv.filter Text.isNonBlank)
  Text.trim (given.getD defaultApiUrl)

/-! ## The port of the local server -/

def greatestPort : Nat := 65535

/-- The number of a text of digits, with at most one plus sign before them. -/
def portNumber? (cs : List Char) : Option Nat :=
  let digits := match cs with
    | '+' :: rest => rest
    | cs => cs
  if digits.isEmpty || !digits.all Text.isDigit || greatestPort < Text.ofDigits digits then none
  else some (Text.ofDigits digits)

/-- The texts of a port: digits for a number from 1 to 65535, with at most one plus sign before
them. -/
inductive IsPort (port : Nat) : List Char → Prop where
  | digits (cs : List Char) (some_digit : cs ≠ []) (all_digits : ∀ c ∈ cs, Text.isDigit c = true)
      (value : Text.ofDigits cs = port) (low : 1 ≤ port) (high : port ≤ greatestPort) :
      IsPort port cs
  | signed (cs : List Char) (some_digit : cs ≠ []) (all_digits : ∀ c ∈ cs, Text.isDigit c = true)
      (value : Text.ofDigits cs = port) (low : 1 ≤ port) (high : port ≤ greatestPort) :
      IsPort port ('+' :: cs)

/-- A text that is no port. -/
structure InvalidPort where
  text : String
deriving DecidableEq, Repr

def chooseLocalPort (explicit : Option Nat) (fromEnv : Option String) : Except InvalidPort Nat :=
  match explicit with
  | some port => .ok port
  | none =>
    match fromEnv.map Text.trim with
    | none => .ok defaultLocalPort
    | some text =>
      if text = "" then .ok defaultLocalPort
      else
        match portNumber? text.toList with
        | some (port + 1) => .ok (port + 1)
        | _ => .error ⟨text⟩

def InvalidPort.failure (e : InvalidPort) : Failure where
  kind := .usage
  message := some ("invalid local server port: " ++ e.text)
  hint := some ("Set " ++ localPortVariable ++ " to a port between 1 and 65535.")

end Settings

/-! ## All settings -/

structure Settings where
  baseUrl : String
  localHost : String
  localPort : Nat
deriving DecidableEq, Repr

namespace Settings

def default : Settings := ⟨defaultApiUrl, defaultLocalHost, defaultLocalPort⟩

/-- The settings of an environment, with a URL that comes before that of the environment. -/
def ofEnvironment (env : Environment) (apiUrl : Option String) : Except Failure Settings :=
  match chooseLocalPort none env.localPort with
  | .error e => .error e.failure
  | .ok localPort => .ok ⟨chooseApiUrl apiUrl env.apiUrl, defaultLocalHost, localPort⟩

end Settings

end ResultGateway
