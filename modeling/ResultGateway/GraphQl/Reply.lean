-- Replies of a GraphQL server. A reply holds data, errors, both or
-- neither. An error has a message, places in the query, and sometimes a
-- path into the data and further details.
import ResultGateway.Json.Shape
import ResultGateway.Json.Writer

namespace ResultGateway.GraphQl

open Json (Field Shape Reader)

/-! ## Errors of a query -/

structure Location where
  line : Nat
  column : Nat
deriving DecidableEq, Repr

structure QueryError where
  message : String
  locations : List Location
  path : Option (List Json)
  extensions : Option Json
deriving Repr

def Location.shape : Shape Location where
  name := "GraphQlLocation"
  fields := [
    .of "line" true Reader.word fun line l => { l with line },
    .of "column" true Reader.word fun column l => { l with column }]
  start := ⟨0, 0⟩

def QueryError.shape : Shape QueryError where
  name := "GraphQlError"
  fields := [
    .of "message" true Reader.text fun message e => { e with message },
    .of "locations" false (.list Location.shape.reader) fun locations e => { e with locations },
    .of "path" false (.optional (.list .value)) fun path e => { e with path },
    .of "extensions" false (.optional .value) fun extensions e => { e with extensions }]
  start := ⟨"", [], none, none⟩

def Location.toJson (l : Location) : Json :=
  .obj [("line", .nat l.line), ("column", .nat l.column)]

/-- What an error lacks is left out. -/
def QueryError.toJson (e : QueryError) : Json :=
  let locations := if e.locations.isEmpty then []
    else [("locations", Json.arr (e.locations.map Location.toJson))]
  let path := match e.path with
    | some path => [("path", Json.arr path)]
    | none => []
  let extensions := match e.extensions with
    | some extensions => [("extensions", extensions)]
    | none => []
  .obj ([("message", .str e.message)] ++ locations ++ path ++ extensions)

/-! ## Replies -/

structure Reply where
  data : Option Json
  errors : Option (List QueryError)
deriving Repr

def Reply.shape : Shape Reply where
  name := "GraphQlEnvelope"
  fields := [
    .of "data" false (.optional .value) fun data r => { r with data },
    .of "errors" false (.optional (.list QueryError.shape.reader)) fun errors r =>
      { r with errors }]
  start := ⟨none, none⟩

/-- The token that a reply to a token request holds. -/
def tokenShape : Shape String where
  name := "CsrfEnvelope"
  fields := [.of "csrfToken" true Reader.text fun token _ => token]
  start := ""

/-! ## Bodies of failed replies -/

/-- An entry of the list of errors that a failed reply may hold, of which the message is read. -/
def complaintShape : Shape String where
  name := "ErrorsEntry"
  fields := [.of "message" true Reader.text fun message _ => message]
  start := ""

def complaintsShape : Shape (List String) where
  name := "ErrorsEnvelope"
  fields := [.of "errors" true (.list complaintShape.reader) fun messages _ => messages]
  start := []

/-! ## Requests -/

/-- The body of a query; variables that are not given are null. -/
def requestBody (query : String) (vars : Option Json) : Json :=
  .obj [("query", .str query), ("variables", .orNull vars)]

end ResultGateway.GraphQl
