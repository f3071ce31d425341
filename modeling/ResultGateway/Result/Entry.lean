-- Entries of a result set as a server sends them. Anything may be missing
-- from an entry. A complete entry is a record; an incomplete one is
-- replaced by an empty record under a fresh id, so that no entry spoils
-- the set.
import ResultGateway.FreshId
import ResultGateway.Result.Record

namespace ResultGateway.Result

/-! ## Entries -/

/-- The reference of an entry to a graph or a code. -/
structure Ref where
  id : Option String
deriving DecidableEq, Repr

structure Entry where
  json : Option String
  graph : Option Ref
  code : Option Ref
deriving DecidableEq, Repr

def textMember (value : Json) (name : String) : Option String :=
  value.get? name >>= Json.text?

/-- A member that is an object, read for its id. -/
def refMember (value : Json) (name : String) : Option Ref :=
  match value.get? name with
  | some (.obj members) => some ⟨textMember (.obj members) "id"⟩
  | _ => none

/-- The entry that a value holds. What is not of the right type is missing. -/
def Entry.ofJson (value : Json) : Entry :=
  ⟨textMember value "json", refMember value "graph", refMember value "code"⟩

/-- The complete entry of a record. -/
def Entry.ofRecord (r : Record) : Entry :=
  ⟨some r.json, some ⟨some r.keys.graphId⟩, some ⟨some r.keys.codeId⟩⟩

def Entry.toJson (e : Entry) : Json :=
  let ref : Option Ref → Json
    | some r => .obj [("id", .strOrNull r.id)]
    | none => .null
  .obj [("json", .strOrNull e.json), ("graph", ref e.graph), ("code", ref e.code)]

/-- Reads one entry, which any value is. -/
def Entry.reader : Json.Reader Entry := Json.Reader.value.map Entry.ofJson

/-- The entries of a set that is given as a value. -/
def Entry.listOfJson : Json → Except Json.ReadError (List Entry)
  | .arr items => .ok (items.map Entry.ofJson)
  | .null => .error ⟨.wrongType .null "a sequence", none⟩
  | .bool b => .error ⟨.wrongType (.bool b) "a sequence", none⟩
  | .num n => .error ⟨.wrongType (.num n) "a sequence", none⟩
  | .str s => .error ⟨.wrongType (.text s) "a sequence", none⟩
  | .obj _ => .error ⟨.wrongType .map "a sequence", none⟩

/-! ## Complete entries -/

/-- What an incomplete entry lacks first. -/
inductive Lack where
  | json
  | graphId
  | codeId
deriving DecidableEq, Repr

def Lack.reason : Lack → String
  | json => "missing json"
  | graphId => "missing graph id"
  | codeId => "missing code id"

/-- A text that has characters. -/
def nonEmpty (s : Option String) : Option String := s.filter (· != "")

/-- The record of a complete entry, or what the entry lacks. A text of no characters is lacking. -/
def Entry.record? (e : Entry) : Except Lack Record :=
  match nonEmpty e.json, nonEmpty (e.graph >>= Ref.id), nonEmpty (e.code >>= Ref.id) with
  | none, _, _ => .error .json
  | some _, none, _ => .error .graphId
  | some _, some _, none => .error .codeId
  | some json, some graphId, some codeId => .ok ⟨json, ⟨graphId, codeId⟩⟩

def Entry.isComplete (e : Entry) : Bool :=
  match e.record? with
  | .ok _ => true
  | .error _ => false

/-! ## Records of entries -/

/-- The record of an entry, or an empty one under the next id of the supply. -/
def Entry.recordOr (e : Entry) (ids : FreshIds) : Record × FreshIds :=
  match e.record? with
  | .ok r => (r, ids)
  | .error _ => (.placeholder ids.next, ids.rest)

/-- The records of a list of entries, each in the place of its entry. -/
def recordsOf : List Entry → FreshIds → List Record × FreshIds
  | [], ids => ([], ids)
  | e :: rest, ids =>
    let (record, ids) := e.recordOr ids
    let (records, ids) := recordsOf rest ids
    (record :: records, ids)

/-- What the incomplete entries lack, in order. -/
def lacksOf (entries : List Entry) : List Lack :=
  entries.filterMap fun e =>
    match e.record? with
    | .ok _ => none
    | .error lack => some lack

end ResultGateway.Result
