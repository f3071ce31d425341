-- The program as a function: from its arguments and all that it finds
-- around it to its exit code, both streams, its log and its requests.
import ResultGateway.CommandLine.Execute
import ResultGateway.CommandLine.Report
import ResultGateway.Log.Filter

namespace ResultGateway.CommandLine

/-! ## What the program leaves -/

structure Answer where
  exitCode : Nat
  stdout : String := ""
  stderr : String := ""
  log : List Log.Record := []
  requests : List Http.Request := []

/-- The answer that shows what a command left. -/
def Display.answer (d : Display) (e : Execution) : Answer :=
  match e.result with
  | .ok value =>
    { exitCode := 0, stdout := d.document value, log := e.log, requests := e.requests }
  | .error f =>
    { exitCode := f.kind.exitCode, stderr := d.failure (hintReachable f), log := e.log,
      requests := e.requests }

/-! ## Commands -/

def runCommand (w : World) (d : Display) (apiUrl : Option String) : Command → Answer
  | .query document vars field => d.answer (executeQuery w apiUrl document vars field)
  | .run code graph port host => d.answer (executeRun w apiUrl code graph port host)
  | .results path keys => d.answer (executeResults w path keys)
  | .version => d.answer { result := .ok versionJson }
  | .completion shell => { exitCode := 0, stdout := w.pages.script shell }

/-! ## The program -/

/-- What the terminal and the environment set beside the world of a command. -/
structure Console where
  stdoutIsTerminal : Bool
  stderrIsTerminal : Bool
  logSetting : Option String
deriving DecidableEq, Repr

def Console.display (c : Console) (color : ColorMode) : Display :=
  ⟨color, c.stdoutIsTerminal, c.stderrIsTerminal⟩

def runRequest (w : World) (c : Console) : Request → Answer
  | .run invocation =>
    runCommand w (c.display invocation.color) invocation.apiUrl invocation.command
  | .help verb => { exitCode := 0, stdout := w.pages.help verb }
  | .guide verb => { exitCode := Failure.Kind.usage.exitCode, stderr := w.pages.help verb }
  | .version => { exitCode := 0, stdout := versionLine }

/-- Arguments that are no request are a failure, shown in color on a terminal. -/
def refuse (c : Console) (e : UsageError) : Answer :=
  { exitCode := Failure.Kind.usage.exitCode, stderr := (c.display .auto).failure e.failure }

/-- Runs the program. The log holds what its filter lets pass. -/
def run (w : World) (c : Console) (args : List String) : Answer :=
  let answer := match Request.ofArguments args with
    | .ok request => runRequest w c request
    | .error e => refuse c e
  { answer with log := answer.log.filter (Log.Filter.ofSetting c.logSetting).passes }

end ResultGateway.CommandLine
