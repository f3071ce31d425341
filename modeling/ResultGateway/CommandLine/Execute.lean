-- What a command does. It first gets all that it needs together, and only
-- then makes a request; what it shows is a JSON document. How a document
-- or a failure is shown is not known here.
import ResultGateway.CommandLine.Command
import ResultGateway.CommandLine.File
import ResultGateway.CommandLine.Help
import ResultGateway.Gateway.Client

namespace ResultGateway.CommandLine

open Gateway (Endpoints Runner)
open Result (Entry Keys Store)

/-! ## The surroundings of a command -/

/-- All that a command finds around it. -/
structure World where
  environment : Settings.Environment
  files : Files
  network : Http.Network
  replies : List Http.Reply
  ids : FreshIds
  pages : Pages := .plain

/-- What a command leaves: a document or a failure, the requests it made, and its log. -/
structure Execution where
  result : Except Failure Json
  requests : List Http.Request := []
  log : List Log.Record := []

/-! ## What is given -/

/-- A JSON value that a parameter or its file gives. -/
def readJson (parameter text : String) : Except Failure Json :=
  match Json.parse text with
  | .ok value => .ok value
  | .error e =>
    .error (Failure.dueTo
      { kind := .usage, message := some (parameter ++ " is not valid JSON") }
      (some (.other e.message none)))

def Source.read (files : Files) (what : String) : Source → Except Failure String
  | .text s => .ok s
  | .file path => files.read what path

/-- A JSON value of a source, with the names of the parameters that give it. -/
def Source.readJson (files : Files) (what textName fileName : String) :
    Source → Except Failure Json
  | .text s => CommandLine.readJson textName s
  | .file path =>
    match files.read what path with
    | .error f => .error f
    | .ok s => CommandLine.readJson fileName s

def readVariables : Option String → Except Failure (Option Json)
  | none => .ok none
  | some text => (readJson "--variables" text).map some

/-! ## Documents -/

def summaryJson (s : Store.Summary) : Json :=
  .ofMembers [("records", .nat s.records), ("placeholders", .nat s.placeholders)]

def errorsJson : Option (List GraphQl.QueryError) → Json
  | none => .null
  | some errors => .arr (errors.map GraphQl.QueryError.toJson)

/-- The reply of a query, and what was loaded from it. -/
def replyJson (reply : GraphQl.Reply) (loaded : Option Store.Summary) : Json :=
  let results := match loaded with
    | some summary => [("results", summaryJson summary)]
    | none => []
  .ofMembers ([("data", .orNull reply.data), ("errors", errorsJson reply.errors)] ++ results)

def setJson (summary : Store.Summary) (store : Store) : Json :=
  .ofMembers [("results", summaryJson summary),
    ("strings", .arr ((store.strings.getD []).map Result.Record.toJson)),
    ("objects", .arr ((store.objects.getD []).map Result.ObjectRecord.toJson))]

def versionJson : Json :=
  .ofMembers [("name", .str "graphery-client"), ("version", .str "0.1.0")]

/-! ## Queries -/

/-- A query that can be sent. -/
structure QueryPlan where
  endpoints : Endpoints
  document : String
  vars : Option Json

def planQuery (w : World) (apiUrl : Option String) (document : Source)
    (vars : Option String) : Except Failure QueryPlan := do
  let settings ← Settings.ofEnvironment w.environment apiUrl
  let document ← document.read w.files "query"
  let vars ← readVariables vars
  let endpoints ← Gateway.endpoints settings.baseUrl
  return { endpoints, document, vars }

def noSetRecord (field : String) : Log.Record where
  level := .debug
  origin := .command
  message := "no result json set in response data"
  fields := [("field", Text.quoted field)]

/-- The result set in a field of the data, if there is one. -/
def setIn (data : Option Json) (field : String) : Option Json :=
  (data >>= fun data => data.get? field).filter fun set => !set.isNull

/-- Loads the result set in a field of the data. -/
def loadField (data : Option Json) (field : String) (ids : FreshIds) :
    Except Failure (Option Store.Summary) × List Log.Record :=
  match setIn data field with
  | none => (.ok none, [noSetRecord field])
  | some set =>
    match Entry.listOfJson set with
    | .error e =>
      (.error (Failure.dueTo
        { kind := .usage, message := some ("data." ++ field ++ " is not a result json set") }
        (some (.other e.message none))), [])
    | .ok entries =>
      let effect := (Store.empty.loadEntries entries ids).1
      (effect.result.map some, effect.log)

def loadOptional (data : Option Json) (field : Option String) (ids : FreshIds) :
    Except Failure (Option Store.Summary) × List Log.Record :=
  match field with
  | none => (.ok none, [])
  | some field => loadField data field ids

def executeQuery (w : World) (apiUrl : Option String) (document : Source)
    (vars field : Option String) : Execution :=
  match planQuery w apiUrl document vars with
  | .error f => { result := .error f }
  | .ok plan =>
    let outcome :=
      (Gateway.query w.network plan.endpoints {} plan.document plan.vars ⟨w.replies, []⟩).1
    match outcome.result with
    | .error f => ⟨.error f, outcome.requests, outcome.log⟩
    | .ok reply =>
      let (loaded, log) := loadOptional reply.data field w.ids
      ⟨loaded.map (replyJson reply), outcome.requests, outcome.log ++ log⟩

/-! ## Runs -/

/-- A code and a graph that can be sent. -/
structure RunPlan where
  runner : Runner
  code : String
  graph : Json

def planRun (w : World) (apiUrl : Option String) (code graph : Source) (port : Option Nat)
    (host : String) : Except Failure RunPlan := do
  let settings ← Settings.ofEnvironment w.environment apiUrl
  let code ← code.read w.files "code"
  let graph ← graph.readJson w.files "graph" "--graph-json" "--graph-file"
  let runner : Runner := ⟨host, port.getD settings.localPort⟩
  return { runner, code, graph }

def executeRun (w : World) (apiUrl : Option String) (code graph : Source) (port : Option Nat)
    (host : String) : Execution :=
  match planRun w apiUrl code graph port host with
  | .error f => { result := .error f }
  | .ok plan =>
    let outcome := plan.runner.run w.network plan.code plan.graph none ⟨w.replies, []⟩
    ⟨outcome.result, outcome.requests, outcome.log⟩

/-! ## Result sets -/

/-- The entries of a result set that a file holds. -/
def readSet (w : World) (path : String) : Except Failure (List Entry) := do
  let text ← w.files.read "query data" path
  match (Json.Reader.list Entry.reader).decode text with
  | .ok entries => .ok entries
  | .error e =>
    .error (Failure.dueTo
      { kind := .usage, message := some "query data must be a JSON array of result json entries" }
      (some (.other e.message none)))

/-- The record of the keys in both of its forms. -/
def recordJson (store : Store) (k : Keys) : Except Failure Json :=
  match store.record? k, store.object? k with
  | some string, some object =>
    .ok (.ofMembers [("string", string.toJson), ("object", object.toJson)])
  | _, _ =>
    .error { kind := .notFound
             message := some ("no result json for graph " ++ k.graphId ++ " / code " ++ k.codeId) }

def showSet (store : Store) (keys : Option Keys) (summary : Store.Summary) :
    Except Failure Json :=
  match keys with
  | some k => recordJson store k
  | none => .ok (setJson summary store)

def executeResults (w : World) (path : String) (keys : Option Keys) : Execution :=
  match readSet w path with
  | .error f => { result := .error f }
  | .ok entries =>
    let effect := (Store.empty.loadEntries entries w.ids).1
    { result := effect.result >>= showSet effect.store keys, log := effect.log }

end ResultGateway.CommandLine
