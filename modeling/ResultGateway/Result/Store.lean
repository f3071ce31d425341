-- The store of result records. It keeps two lists, of the records and of
-- their object forms, or neither. A load replaces both. A change or a
-- clear finds a record by its keys, the first one that has them, and never
-- adds one. What cannot be parsed changes nothing.
import ResultGateway.Log
import ResultGateway.Result.Entry
import ResultGateway.Text.Quoted

namespace ResultGateway.Result

structure Store where
  strings : Option (List Record)
  objects : Option (List ObjectRecord)
deriving Repr

/-- What an operation on a store gives: a result, the store after it, and the log records. -/
structure Effect (α : Type) where
  result : Except Failure α
  store : Store
  log : List Log.Record

namespace Store

def empty : Store := ⟨none, none⟩

/-! ## Looking up -/

def record? (s : Store) (k : Keys) : Option Record :=
  s.strings >>= fun records => records.find? fun r => r.keys == k

def object? (s : Store) (k : Keys) : Option ObjectRecord :=
  s.objects >>= fun objects => objects.find? fun r => r.keys == k

/-- Whether the list of records is empty, once there is one. -/
def stringsEmpty (s : Store) : Option Bool := s.strings.map List.isEmpty

def objectsEmpty (s : Store) : Option Bool := s.objects.map List.isEmpty

/-! ## Loading -/

/-- How many records a load put into the store, and how many of them for incomplete entries. -/
structure Summary where
  records : Nat
  placeholders : Nat
deriving DecidableEq, Repr

/-- The object forms of all records, or the failure of the first that has none. -/
def objectsOf : List Record → Except Failure (List ObjectRecord)
  | [] => .ok []
  | r :: rest =>
    match r.toObject with
    | .error f => .error f
    | .ok object =>
      match objectsOf rest with
      | .error f => .error f
      | .ok objects => .ok (object :: objects)

def loadedRecord (count : Nat) : Log.Record where
  level := .debug
  origin := .client
  message := "loaded result json lists"
  fields := [("records", String.ofList (Text.decimal count))]

def load (s : Store) (records : List Record) : Effect Unit :=
  match objectsOf records with
  | .error f => ⟨.error f, s, []⟩
  | .ok objects => ⟨.ok (), ⟨some records, some objects⟩, [loadedRecord records.length]⟩

def lackRecord (lack : Lack) : Log.Record where
  level := .debug
  origin := .client
  message := "substituting placeholder result json"
  fields := [("reason", Text.quoted lack.reason)]

/-- Loads the records of entries. The ids that incomplete entries take stay taken when the load
fails. -/
def loadEntries (s : Store) (entries : List Entry) (ids : FreshIds) :
    Effect Summary × FreshIds :=
  let (records, ids) := recordsOf entries ids
  let lacks := lacksOf entries
  let loaded := s.load records
  (⟨loaded.result.map fun _ => ⟨records.length, lacks.length⟩, loaded.store,
    lacks.map lackRecord ++ loaded.log⟩, ids)

/-! ## Changing one record -/

/-- Applies a change to the first element with a property, if there is one. -/
def updateFirst {α : Type} (p : α → Bool) (f : α → α) : List α → Option (List α)
  | [] => none
  | a :: rest => if p a then some (f a :: rest) else (updateFirst p f rest).map (a :: ·)

/-- The list after a change of the first record with the keys, and whether there was one. -/
def updateIn {α : Type} (p : α → Bool) (f : α → α) (list : Option (List α)) :
    Option (List α) × Bool :=
  match list with
  | none => (none, false)
  | some items =>
    match updateFirst p f items with
    | some changed => (some changed, true)
    | none => (some items, false)

/-- Sets the text and the value of the record with the keys; tells whether there was one. -/
def set (s : Store) (k : Keys) (json : String) (value : Json) : Store × Bool :=
  let (strings, inStrings) := updateIn (fun r => r.keys == k) (fun r => { r with json }) s.strings
  let (objects, inObjects) := updateIn (fun r => r.keys == k) (fun r => { r with value }) s.objects
  (⟨strings, objects⟩, inStrings || inObjects)

def missRecord (k : Keys) : Log.Record where
  level := .trace
  origin := .client
  message := "change: no matching record"
  fields := [("graph_id", k.graphId), ("code_id", k.codeId)]

def change (s : Store) (r : Record) : Effect Unit :=
  match r.toObject with
  | .error f => ⟨.error f, s, []⟩
  | .ok object =>
    match s.set r.keys r.json object.value with
    | (after, true) => ⟨.ok (), after, []⟩
    | (after, false) => ⟨.ok (), after, [missRecord r.keys]⟩

/-- Makes the result of the record with the keys empty. -/
def clear (s : Store) (k : Keys) : Effect Unit :=
  ⟨.ok (), (s.set k emptyText emptyValue).1, []⟩

def clearAll (_ : Store) : Effect Unit := ⟨.ok (), empty, []⟩

end Store

end ResultGateway.Result
