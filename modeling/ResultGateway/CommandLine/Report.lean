-- How documents and failures are shown. A document is JSON, indented for
-- a terminal. A failure is one line of JSON, or lines of text with colored
-- labels on a terminal. Both forms of a failure tell the same.
import ResultGateway.CommandLine.Command
import ResultGateway.Json.Writer

namespace ResultGateway.CommandLine

/-! ## Displays -/

/-- Where a command shows what it has to show. -/
structure Display where
  color : ColorMode
  stdoutIsTerminal : Bool
  stderrIsTerminal : Bool
deriving DecidableEq, Repr

def ColorMode.isColored (mode : ColorMode) (isTerminal : Bool) : Bool :=
  match mode with
  | auto => isTerminal
  | always => true
  | never => false

/-- A document is indented for a terminal, and wherever there is color. -/
def Display.indents (d : Display) : Bool :=
  d.stdoutIsTerminal || d.color.isColored d.stdoutIsTerminal

/-! ## Documents -/

/-- A document with the members of all objects sorted, and a line end. -/
def Display.document (d : Display) (value : Json) : String :=
  (if d.indents then value.sorted.indented else value.sorted.compact) ++ "\n"

/-! ## Failures as JSON -/

def shownMessage (f : Failure) : String := f.message.getD f.kind.name

/-- A member for a part that may be missing. -/
def optionalMember (name : String) : Option Json → List (String × Json)
  | some value => [(name, value)]
  | none => []

def failureJson (f : Failure) : Json :=
  let causes := if f.causes.isEmpty then none else some (Json.arr (f.causes.map Json.str))
  .ofMembers [("error", .ofMembers
    ([("kind", .str f.kind.name), ("message", .str (shownMessage f))]
      ++ optionalMember "hint" (f.hint.map Json.str)
      ++ optionalMember "url" (f.url.map Json.str)
      ++ optionalMember "status" (f.status.map Json.nat)
      ++ optionalMember "causes" causes))]

/-! ## Failures as text -/

inductive Color where
  | red
  | yellow
deriving DecidableEq, Repr

def Color.code : Color → String
  | red => "31"
  | yellow => "33"

/-- A label in bold letters of a color. -/
def label (isColored : Bool) (color : Color) (s : String) : String :=
  if isColored then "\x1b[1;" ++ color.code ++ "m" ++ s ++ "\x1b[0m" else s

/-- The lines of a failure: labels, and what belongs to each. -/
def failureLines (f : Failure) : List (Color × String × String) :=
  [(.red, "error:", shownMessage f)]
    ++ (f.hint.map fun hint => (Color.yellow, "hint:", hint)).toList
    ++ (f.url.map fun url => (Color.yellow, "url:", url)).toList
    ++ (f.status.map fun status =>
        (Color.yellow, "status:", String.ofList (Text.decimal status))).toList
    ++ f.causes.map fun cause => (Color.yellow, "caused by:", cause)

def failureText (f : Failure) (isColored : Bool) : String :=
  String.intercalate "\n"
    ((failureLines f).map fun line => label isColored line.1 line.2.1 ++ " " ++ line.2.2)

/-- What is shown of a failure, with a line end. -/
def Display.failure (d : Display) (f : Failure) : String :=
  (if d.stderrIsTerminal then failureText f (d.color.isColored true) else (failureJson f).compact)
    ++ "\n"

/-! ## Hints -/

def reachableHint : String :=
  "Check that the server is running and reachable (see --api-url / --port)."

/-- A failure of input or output that has no hint gets one. -/
def hintReachable (f : Failure) : Failure :=
  if f.kind = .io ∧ f.hint = none then { f with hint := some reachableHint } else f

end ResultGateway.CommandLine
