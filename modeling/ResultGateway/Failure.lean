-- Failures of a command or a call. A failure has a kind, which fixes the
-- exit code, and may name a message, a hint, the URL and the status of a
-- request, and the causes below it, nearest first.
import ResultGateway.Text.Decimal

namespace ResultGateway

/-! ## Kinds -/

inductive Failure.Kind where
  | internal
  | usage
  | notFound
  | permission
  | parse
  | io
deriving DecidableEq, Repr

namespace Failure.Kind

def name : Kind → String
  | internal => "Internal"
  | usage => "Usage"
  | notFound => "NotFound"
  | permission => "Permission"
  | parse => "Parse"
  | io => "Io"

def exitCode : Kind → Nat
  | internal => 1
  | usage => 2
  | notFound => 3
  | permission => 4
  | parse => 5
  | io => 6

def all : List Kind := [internal, usage, notFound, permission, parse, io]

end Failure.Kind

/-! ## Failures -/

structure Failure where
  kind : Failure.Kind
  message : Option String := none
  hint : Option String := none
  url : Option String := none
  status : Option Nat := none
  causes : List String := []
deriving DecidableEq, Repr

namespace Failure

/-- One line that names the kind, the message, the status and the URL. -/
def summary (f : Failure) : String :=
  let message := match f.message with
    | some message => ": " ++ message
    | none => ""
  let status := match f.status with
    | some status => " (status: " ++ String.ofList (Text.decimal status) ++ ")"
    | none => ""
  let url := match f.url with
    | some url => " (url: " ++ url ++ ")"
    | none => ""
  f.kind.name ++ message ++ status ++ url

/-! ## Causes -/

/-- An error that another one came of: a failure, or an error from elsewhere, of which only its
text is known. Each of them may have come of an error in turn. -/
inductive Cause where
  | failure (kind : Kind) (message hint url : Option String) (status : Option Nat)
      (cause : Option Cause)
  | other (text : String) (cause : Option Cause)
deriving Repr

namespace Cause

/-- What an error tells of itself. -/
def text : Cause → String
  | failure kind message hint url status _ => summary { kind, message, hint, url, status }
  | other text _ => text

/-- The error that an error came of. -/
def cause : Cause → Option Cause
  | failure _ _ _ _ _ cause => cause
  | other _ cause => cause

mutual

/-- What an error and all errors below it tell, nearest first, after what is told already. -/
def tell (told : List String) : Cause → List String
  | failure kind message hint url status cause =>
    tellBelow (told ++ [summary { kind, message, hint, url, status }]) cause
  | other text cause => tellBelow (told ++ [text]) cause

def tellBelow (told : List String) : Option Cause → List String
  | none => told
  | some cause => tell told cause

end

end Cause

/-- The failure come of an error, if there is one. It tells of all errors below it. -/
def dueTo (f : Failure) (cause : Option Cause) : Failure :=
  { f with causes := Cause.tellBelow [] cause }

end Failure

end ResultGateway
