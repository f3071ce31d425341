-- Commands. An invocation names a command and what it works on, and says
-- where the API is and when to color; or it asks for help or the version.
import ResultGateway.CommandLine.Arguments
import ResultGateway.Result.Record

namespace ResultGateway.CommandLine

/-! ## Parts of an invocation -/

inductive ColorMode where
  | auto
  | always
  | never
deriving DecidableEq, Repr

namespace ColorMode

def all : List ColorMode := [auto, always, never]

def name : ColorMode → String
  | auto => "auto"
  | always => "always"
  | never => "never"

/-- The mode of a name; that of no name is `auto`. -/
def named (name : Option String) : ColorMode :=
  (name >>= fun name => all.find? fun mode => mode.name == name).getD auto

end ColorMode

inductive Shell where
  | bash
  | elvish
  | fish
  | powershell
  | zsh
deriving DecidableEq, Repr

namespace Shell

def all : List Shell := [bash, elvish, fish, powershell, zsh]

def name : Shell → String
  | bash => "bash"
  | elvish => "elvish"
  | fish => "fish"
  | powershell => "powershell"
  | zsh => "zsh"

def named? (name : String) : Option Shell := all.find? fun shell => shell.name == name

end Shell

/-- A text that is given, or the file that holds it. -/
inductive Source where
  | text (s : String)
  | file (path : String)
deriving DecidableEq, Repr

inductive Command where
  | query (document : Source) (vars resultsField : Option String)
  | run (code graph : Source) (port : Option Nat) (host : String)
  | results (path : String) (keys : Option Result.Keys)
  | version
  | completion (shell : Shell)
deriving DecidableEq, Repr

def Source.paths : Source → List String
  | .text _ => []
  | .file path => [path]

/-- The files that a command may read. -/
def Command.paths : Command → List String
  | .query document _ _ => document.paths
  | .run code graph _ _ => code.paths ++ graph.paths
  | .results path _ => [path]
  | .version | .completion _ => []

structure Invocation where
  apiUrl : Option String
  color : ColorMode
  command : Command
deriving DecidableEq, Repr

/-! ## Names of commands -/

inductive Verb where
  | query
  | run
  | results
  | version
  | completion
deriving DecidableEq, Repr

namespace Verb

def all : List Verb := [query, run, results, version, completion]

def name : Verb → String
  | query => "query"
  | run => "run"
  | results => "results"
  | version => "version"
  | completion => "completion"

def about : Verb → String
  | query => "Run a GraphQL query or mutation"
  | run => "Run code on the local execution server"
  | results => "Inspect a result JSON set offline"
  | version => "Print version info as JSON"
  | completion => "Generate shell completions"

def named? (name : String) : Option Verb := all.find? fun verb => verb.name == name

/-- What a command takes. -/
def grammar : Verb → Grammar
  | query => {
      named := [
        { name := "query", label := "QUERY", about := "GraphQL document" },
        { name := "query-file", label := "QUERY_FILE", form := .path,
          about := "Read the GraphQL document from a file" },
        { name := "variables", label := "VARIABLES", about := "Variables as a JSON object" },
        { name := "results-field", label := "RESULTS_FIELD",
          about := "Load data.<FIELD> as a result JSON set" }]
      exclusive := [("query", "query-file")] }
  | run => {
      named := [
        { name := "code", label := "CODE", about := "Code to execute" },
        { name := "code-file", label := "CODE_FILE", form := .path,
          about := "Read the code from a file" },
        { name := "graph-json", label := "GRAPH_JSON",
          about := "Graph as JSON (object or string)" },
        { name := "graph-file", label := "GRAPH_FILE", form := .path,
          about := "Read the graph JSON from a file" },
        { name := "port", label := "PORT", form := .port,
          about := "Local server port (overrides GRAPHERY_LOCAL_PORT)" },
        { name := "host", label := "HOST", about := "Local server host (default: localhost)" }]
      exclusive := [("code", "code-file"), ("graph-json", "graph-file")] }
  | results => {
      named := [
        { name := "query-data", label := "QUERY_DATA", form := .path,
          about := "File holding the result JSON set" },
        { name := "graph-id", label := "GRAPH_ID", about := "Graph id to look up" },
        { name := "code-id", label := "CODE_ID", about := "Code id to look up" }] }
  | version => {}
  | completion => {
      unnamed := some { name := "shell", label := "SHELL", isNamed := false,
                        form := .word (Shell.all.map Shell.name),
                        about := "Shell to generate completions for" } }

/-- Whether a command without any value shows its help. -/
def needsValues : Verb → Bool
  | completion => true
  | query | run | results | version => false

end Verb

def helpName : String := "help"

/-- What stands before a command. -/
def mainGrammar : Grammar where
  named := [
    { name := "api-url", label := "API_URL",
      about := "API base URL (overrides GRAPHERY_API_URL)" },
    { name := "color", label := "COLOR", form := .word (ColorMode.all.map ColorMode.name),
      about := "Color of diagnostics and indented output: auto, always or never" }]
  commands := Verb.all.map Verb.name ++ [helpName]
  hasVersion := true

/-! ## Commands of values -/

/-- The source that one of two parameters gives. -/
def sourceOf (s : Scan) (text file : String) : Except UsageError Source :=
  match s.value? text, s.value? file with
  | some text, _ => .ok (.text text)
  | none, some path => .ok (.file path)
  | none, none => .error .argumentsMissing

/-- The keys to look up, of which both or neither are given. -/
def keysOf (s : Scan) : Except UsageError (Option Result.Keys) :=
  match s.value? "graph-id", s.value? "code-id" with
  | some graphId, some codeId => .ok (some ⟨graphId, codeId⟩)
  | none, none => .ok none
  | _, _ => .error .argumentsMissing

/-- The command that values give. -/
def Verb.command (verb : Verb) (s : Scan) : Except UsageError Command :=
  match verb with
  | query => do
    let document ← sourceOf s "query" "query-file"
    return .query document (s.value? "variables") (s.value? "results-field")
  | run => do
    let code ← sourceOf s "code" "code-file"
    let graph ← sourceOf s "graph-json" "graph-file"
    let port := s.value? "port" >>= fun text => (readPort text).toOption
    return .run code graph port ((s.value? "host").getD Settings.defaultLocalHost)
  | results =>
    match s.value? "query-data" with
    | none => .error .argumentsMissing
    | some path => (keysOf s).map fun keys => .results path keys
  | version => .ok .version
  | completion =>
    match s.value? "shell" >>= Shell.named? with
    | none => .error .argumentsMissing
    | some shell => .ok (.completion shell)

/-! ## Requests of a user -/

/-- What a list of arguments asks for. -/
inductive Request where
  | run (invocation : Invocation)
  /-- The help of a command, or of the program. -/
  | help (verb : Option Verb)
  /-- The same, where values are missing that nothing can be done without. -/
  | guide (verb : Option Verb)
  | version
deriving DecidableEq, Repr

/-- The files that a request may read. -/
def Request.paths : Request → List String
  | .run invocation => invocation.command.paths
  | .help _ | .guide _ | .version => []

/-- The help that the names of commands ask for. -/
def helpOf : List String → Except UsageError Request
  | [] => .ok (.help none)
  | name :: rest =>
    if !mainGrammar.commands.contains name then .error (.unrecognizedCommand name)
    else
      match rest with
      | [] => .ok (.help (Verb.named? name))
      | other :: _ => .error (.unrecognizedCommand other)

/-- The command of a verb, from the arguments behind it. -/
def Verb.ofArguments (verb : Verb) (before : Scan) (args : List String) :
    Except UsageError Request :=
  match verb.grammar.read {} args with
  | .error e => .error e
  | .ok .help | .ok .version => .ok (.help (some verb))
  | .ok (.command name _ _) => .error (.unrecognizedCommand name)
  | .ok (.values s) =>
    if s.given.isEmpty && verb.needsValues then .ok (.guide (some verb))
    else
      match verb.grammar.clash? s.given with
      | some e => .error e
      | none => do
        let command ← verb.command s
        let before ← before.settle
        return .run ⟨before.value? "api-url", .named (before.value? "color"), command⟩

/-- What the arguments of the program ask for. A fault behind a command comes before one that is
pending before it. -/
def Request.ofArguments (args : List String) : Except UsageError Request :=
  match mainGrammar.read {} args with
  | .error e => .error e
  | .ok .help => .ok (.help none)
  | .ok .version => .ok .version
  | .ok (.values s) => if s.given.isEmpty then .ok (.guide none) else .error .commandMissing
  | .ok (.command name rest before) =>
    match Verb.named? name with
    | none => helpOf rest
    | some verb => verb.ofArguments before rest

end ResultGateway.CommandLine
