-- Result records. A record holds the result of running a code on a graph
-- as a JSON text, under the ids of the graph and the code. Its object form
-- holds the value of that text, and is always made from the text.
import ResultGateway.Failure
import ResultGateway.Json.Shape
import ResultGateway.Json.Writer

namespace ResultGateway.Result

/-! ## Records -/

/-- The ids that a record is found by. -/
structure Keys where
  graphId : String
  codeId : String
deriving DecidableEq, Repr

structure Record where
  json : String
  keys : Keys
deriving DecidableEq, Repr

structure ObjectRecord where
  value : Json
  keys : Keys
deriving Repr

/-- The text of an empty result. -/
def emptyText : String := "[]"

/-- The value of an empty result. -/
def emptyValue : Json := .arr []

/-- An empty result under one id. -/
def Record.placeholder (id : String) : Record := ⟨emptyText, ⟨id, id⟩⟩

/-! ## The object form -/

/-- The value of a result text. A text of no characters is an empty result. -/
def parse (json : String) : Except Failure Json :=
  if json = "" then .ok emptyValue
  else
    match Json.parse json with
    | .ok value => .ok value
    | .error e => .error (Failure.dueTo { kind := .parse } (some (.other e.message none)))

def Record.toObject (r : Record) : Except Failure ObjectRecord :=
  match parse r.json with
  | .ok value => .ok ⟨value, r.keys⟩
  | .error f =>
    .error { f with
      message := some ("invalid result json for graph " ++ r.keys.graphId ++ " / code "
        ++ r.keys.codeId) }

/-! ## On the wire -/

def Keys.toJson (k : Keys) : Json :=
  .obj [("graphId", .str k.graphId), ("codeId", .str k.codeId)]

def Record.toJson (r : Record) : Json :=
  .obj [("json", .str r.json), ("graphId", .str r.keys.graphId), ("codeId", .str r.keys.codeId)]

def ObjectRecord.toJson (r : ObjectRecord) : Json :=
  .obj [("jsonObject", r.value), ("graphId", .str r.keys.graphId),
    ("codeId", .str r.keys.codeId)]

open Json (Field Shape Reader)

def Keys.shape : Shape Keys where
  name := "Keys"
  fields := [
    .of "graphId" true Reader.text fun id k => { k with graphId := id },
    .of "codeId" true Reader.text fun id k => { k with codeId := id }]
  start := ⟨"", ""⟩

def Record.shape : Shape Record where
  name := "ResultJsonRecord"
  fields := [
    .of "json" true Reader.text fun json r => { r with json },
    .of "graphId" true Reader.text fun id r => { r with keys.graphId := id },
    .of "codeId" true Reader.text fun id r => { r with keys.codeId := id }]
  start := ⟨"", ⟨"", ""⟩⟩

def ObjectRecord.shape : Shape ObjectRecord where
  name := "ResultJsonObjectRecord"
  fields := [
    .of "jsonObject" true Reader.value fun value r => { r with value },
    .of "graphId" true Reader.text fun id r => { r with keys.graphId := id },
    .of "codeId" true Reader.text fun id r => { r with keys.codeId := id }]
  start := ⟨.null, ⟨"", ""⟩⟩

end ResultGateway.Result
