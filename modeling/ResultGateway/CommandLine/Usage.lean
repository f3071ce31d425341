-- What is wrong with a list of arguments. A fault is told in one line, and
-- ends the program before it does anything.
import ResultGateway.Failure
import ResultGateway.Text.Blank

namespace ResultGateway.CommandLine

def programName : String := "graphery"

/-! ## Faults -/

inductive UsageError where
  | unexpectedArgument (argument : String)
  | unrecognizedCommand (name : String)
  | commandMissing
  | argumentsMissing
  | valueMissing (parameter : String)
  | unexpectedValue (value flag : String)
  | invalidValue (value parameter : String) (reason : Option String)
  | exclusive (first second : String)
  | repeated (parameter : String)
deriving DecidableEq, Repr

namespace UsageError

def text : UsageError → String
  | unexpectedArgument argument => "unexpected argument '" ++ argument ++ "' found"
  | unrecognizedCommand name => "unrecognized subcommand '" ++ name ++ "'"
  | commandMissing => "'" ++ programName ++ "' requires a subcommand but one was not provided"
  | argumentsMissing => "the following required arguments were not provided:"
  | valueMissing parameter =>
    "a value is required for '" ++ parameter ++ "' but none was supplied"
  | unexpectedValue value flag =>
    "unexpected value '" ++ value ++ "' for '" ++ flag ++ "' found; no more were expected"
  | invalidValue value parameter reason =>
    "invalid value '" ++ value ++ "' for '" ++ parameter ++ "'"
      ++ (match reason with
        | some reason => ": " ++ reason
        | none => "")
  | exclusive first second =>
    "the argument '" ++ first ++ "' cannot be used with '" ++ second ++ "'"
  | repeated parameter => "the argument '" ++ parameter ++ "' cannot be used multiple times"

/-! ## One line -/

/-- A character that a message shows: any but the controls that are not blank. -/
def isShown (c : Char) : Bool :=
  (' ' ≤ c && c != '\x7f') || c == '\t' || c == '\n' || c == '\x0c' || c == '\x0d'

/-- The first line of the text. An argument that is named there may have more lines. -/
def message (e : UsageError) : String :=
  let shown := e.text.toList.filter isShown
  String.ofList (Text.trimBy Text.isBlank (shown.takeWhile (· != '\n')))

def helpHint : String := "Run `" ++ programName ++ " --help` for usage."

def failure (e : UsageError) : Failure where
  kind := .usage
  message := some e.message
  hint := some helpHint

end UsageError

end ResultGateway.CommandLine
