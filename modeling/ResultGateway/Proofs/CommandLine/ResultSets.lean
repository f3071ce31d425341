-- What the program shows of the result set in a file. A file that holds no
-- list, a result that cannot be parsed and keys that no value holds end in
-- three failures. Whatever else the list holds, it is shown whole, or the
-- first record of the keys is shown, in both forms.
import ResultGateway.Proofs.CommandLine.Outcome
import ResultGateway.Proofs.Json.Lists
import ResultGateway.Proofs.Store.Entries

namespace ResultGateway.CommandLine

open Result

/-! ## Answers -/

/-- An answer that prints a document and nothing else. -/
structure Answer.Prints (a : Answer) (d : Display) (value : Json) : Prop where
  exitCode : a.exitCode = 0
  stdout : a.stdout = d.document value
  stderr : a.stderr = ""

/-- An answer that reports a failure with an exit code and a message, and nothing else. -/
structure Answer.Fails (a : Answer) (d : Display) (code : Nat) (message : String) : Prop where
  exitCode : a.exitCode = code
  stdout : a.stdout = ""
  stderr : ∃ f, f.message = some message ∧ a.stderr = d.failure f

/-! ## Values of a list -/

/-- All results that are held can be parsed. -/
def AllParse (items : List Json) : Prop :=
  ∀ item ∈ items, ∀ r, HoldsRecord item r → IsResultText r.json

/-- Some value holds a record of the keys. -/
def Holds (items : List Json) (k : Keys) : Prop :=
  ∃ item ∈ items, ∃ r, HoldsRecord item r ∧ r.keys = k

/-- The document of a whole list of values, of the records that stand for them, and of the object
forms of these. -/
def listDocument (items : List Json) (strings : List Record) (objects : List ObjectRecord) :
    Json :=
  .ofMembers [
    ("results", .ofMembers [("records", .nat items.length),
      ("placeholders", .nat (items.filter fun item => ¬ IsComplete item).length)]),
    ("strings", .arr (strings.map Record.toJson)),
    ("objects", .arr (objects.map ObjectRecord.toJson))]

/-- The document of one record in both forms. -/
def recordDocument (r : Record) (value : Json) : Json :=
  .ofMembers [("string", r.toJson), ("object", (ObjectRecord.mk value r.keys).toJson)]

/-- An answer that prints the records of all values in their order, and at the place of each its
object form. -/
def Answer.PrintsList (a : Answer) (d : Display) (ids : FreshIds) (items : List Json) : Prop :=
  ∃ strings objects, List.Forall₂ (StandsFor ids) items strings ∧
    List.Forall₂ (fun r o => o.keys = r.keys ∧ Result.parse r.json = .ok o.value) strings objects ∧
    a.Prints d (listDocument items strings objects)

/-- An answer that prints the first record of the keys that is held, or fails for want of one. -/
structure Answer.Finds (a : Answer) (d : Display) (items : List Json) (k : Keys) : Prop where
  found : Holds items k → ∃ r value, IsFirst (fun q => q.keys = k) items r ∧
    Result.parse r.json = .ok value ∧ a.Prints d (recordDocument r value)
  missing : ¬ Holds items k →
    a.Fails d 3 ("no result json for graph " ++ k.graphId ++ " / code " ++ k.codeId)
  exitCode : a.exitCode = 3 ↔ ¬ Holds items k

/-! ## Reading the file -/

section

variable {w : World} {path text : String} (htext : w.files.text? path = .ok text)

include htext

theorem readSet_eq : readSet w path =
    match (Json.Reader.list Entry.reader).decode text with
    | .ok entries => .ok entries
    | .error e =>
      .error { kind := .usage
               message := some "query data must be a JSON array of result json entries"
               causes := [e.message] } := by
  unfold readSet Files.read
  rw [htext]
  rfl

theorem readSet_list {items : List Json} (h : Json.parse text = .ok (.arr items)) :
    readSet w path = .ok (items.map Entry.ofJson) := by
  have hentries : (Json.Reader.list Entry.reader).decode text = .ok (items.map Entry.ofJson) :=
    (Json.decode_list Entry.ofJson text _).mpr ⟨items, h, rfl⟩
  rw [readSet_eq htext, hentries]

theorem readSet_noList (h : ∀ items, Json.parse text ≠ .ok (.arr items)) :
    ∃ f, readSet w path = .error f ∧ f.kind = .usage ∧
      f.message = some "query data must be a JSON array of result json entries" := by
  rw [readSet_eq htext]
  cases hentries : (Json.Reader.list Entry.reader).decode text with
  | ok entries =>
    obtain ⟨items, hitems, -⟩ := (Json.decode_list Entry.ofJson text entries).mp hentries
    exact absurd hitems (h items)
  | error e => exact ⟨_, rfl, rfl, rfl⟩

end

/-! ## Executions -/

theorem execution?_results {w : World} {invocation : Invocation} {path : String}
    {keys : Option Keys} (h : invocation.command = .results path keys) :
    invocation.command.execution? w invocation.apiUrl = some (executeResults w path keys) := by
  rw [h]
  rfl

theorem executeResults_requests (w : World) (path : String) (keys : Option Keys) :
    (executeResults w path keys).requests = [] := by
  unfold executeResults
  split <;> rfl

section

variable {w : World} {path : String} {entries : List Entry} (hset : readSet w path = .ok entries)
  (keys : Option Keys)

include hset

/-- A failure of a record is the failure of the command. -/
theorem executeResults_spoiled {f : Failure}
    (h : Store.objectsOf (recordsOf entries w.ids).1 = .error f) :
    (executeResults w path keys).result = .error f := by
  unfold executeResults Store.loadEntries Store.load
  rw [hset]
  simp only [h]
  rfl

theorem executeResults_loaded {objects : List ObjectRecord}
    (h : Store.objectsOf (recordsOf entries w.ids).1 = .ok objects) :
    (executeResults w path keys).result =
      showSet ⟨some (recordsOf entries w.ids).1, some objects⟩ keys
        ⟨(recordsOf entries w.ids).1.length, (lacksOf entries).length⟩ := by
  unfold executeResults Store.loadEntries Store.load
  rw [hset]
  simp only [h]
  rfl

end

section

variable {ids : FreshIds} {items : List Json} {records : List Record}
  {objects : List ObjectRecord} (hstands : List.Forall₂ (StandsFor ids) items records)

include hstands

/-- Without keys the whole list is shown. -/
theorem showSet_list :
    showSet ⟨some records, some objects⟩ none
        ⟨records.length, (lacksOf (items.map Entry.ofJson)).length⟩ =
      .ok (listDocument items records objects) := by
  rw [length_lacksOf_ofJson, ← hstands.length_eq]
  rfl

variable {k : Keys} (hids : ∀ n, ids.taken ≤ n → (⟨ids.id n, ids.id n⟩ : Keys) ≠ k)
  (summary : Store.Summary)

include hids

/-- With keys that a value holds the first record of them is shown, in both forms. -/
theorem showSet_held (hobjects : Store.objectsOf records = .ok objects) {r : Record}
    (h : IsFirst (fun q => q.keys = k) items r) :
    ∃ value, Result.parse r.json = .ok value ∧
      showSet ⟨some records, some objects⟩ (some k) summary =
        .ok (recordDocument r value) := by
  have hfound := find?_first hstands hids h
  rcases find_forms (forms_of_objectsOf hobjects) k with
    ⟨-, hnone, -⟩ | ⟨_, string, object, -, -, hstring, hobject, -, hform, -⟩
  · rw [hfound] at hnone
    cases hnone
  · rw [hfound] at hstring
    cases hstring
    refine ⟨object.value, hform.parse, ?_⟩
    have hkeys : ObjectRecord.mk object.value r.keys = object := by rw [← hform.keys]
    unfold showSet recordJson Store.record? Store.object? recordDocument
    simp only [bind, Option.bind, hfound, hobject, hkeys]

/-- With keys that no value holds the command fails. -/
theorem showSet_missing (h : ¬ Holds items k) :
    showSet ⟨some records, some objects⟩ (some k) summary =
      .error { kind := .notFound
               message := some ("no result json for graph " ++ k.graphId ++ " / code "
                 ++ k.codeId) } := by
  have hnone := find?_none hstands hids fun item hitem q hq hkeys => h ⟨item, hitem, q, hq, hkeys⟩
  unfold showSet recordJson Store.record?
  simp only [bind, Option.bind, hnone]

end

/-! ## Answers of the program -/

theorem hintReachable_message (f : Failure) : (hintReachable f).message = f.message := by
  unfold hintReachable
  split <;> rfl

section

variable {w : World} {c : Console} {args : List String} {invocation : Invocation} {e : Execution}
  (hargs : Request.ofArguments args = .ok (.run invocation))
  (he : invocation.command.execution? w invocation.apiUrl = some e)

include hargs he

theorem run_answer :
    ∃ log, run w c args = { (c.display invocation.color).answer e with log } := by
  obtain ⟨log, hrun⟩ := run_of_request (w := w) (c := c) hargs
  rw [runRequest, runCommand_eq he] at hrun
  exact ⟨log, hrun⟩

theorem run_requests : (run w c args).requests = e.requests := by
  obtain ⟨log, hrun⟩ := run_answer (c := c) hargs he
  rw [hrun]
  unfold Display.answer
  cases e.result <;> rfl

theorem run_prints {value : Json} (h : e.result = .ok value) :
    (run w c args).Prints (c.display invocation.color) value := by
  obtain ⟨log, hrun⟩ := run_answer (c := c) hargs he
  rw [hrun]
  unfold Display.answer
  rw [h]
  exact ⟨rfl, rfl, rfl⟩

theorem run_fails {f : Failure} {kind : Failure.Kind} {message : String}
    (h : e.result = .error f) (hkind : f.kind = kind) (hmessage : f.message = some message) :
    (run w c args).Fails (c.display invocation.color) kind.exitCode message := by
  obtain ⟨log, hrun⟩ := run_answer (c := c) hargs he
  rw [hrun]
  unfold Display.answer
  rw [h]
  subst hkind
  exact ⟨rfl, rfl, hintReachable f, (hintReachable_message f).trans hmessage, rfl⟩

end

/-! ## Results of the command -/

section

variable {w : World} {c : Console} {args : List String} {invocation : Invocation} {path : String}
  {keys : Option Keys} (hargs : Request.ofArguments args = .ok (.run invocation))
  (hcommand : invocation.command = .results path keys)

include hargs hcommand

/-- A file that holds no list fails the command. -/
theorem results_noList {text : String} (htext : w.files.text? path = .ok text)
    (h : ∀ items, Json.parse text ≠ .ok (.arr items)) :
    (run w c args).Fails (c.display invocation.color) 2
      "query data must be a JSON array of result json entries" := by
  obtain ⟨f, hf, hkind, hmessage⟩ := readSet_noList htext h
  have hresult : (executeResults w path keys).result = .error f := by
    unfold executeResults
    rw [hf]
  exact run_fails hargs (execution?_results hcommand) hresult hkind hmessage

variable {items : List Json} (hset : readSet w path = .ok (items.map Entry.ofJson))

include hset

/-- The first record that cannot be parsed fails the command. -/
theorem results_spoiled (h : ¬ AllParse items) :
    ∃ r, IsFirst (fun q => ¬ IsResultText q.json) items r ∧
      (run w c args).Fails (c.display invocation.color) 5
        ("invalid result json for graph " ++ r.keys.graphId ++ " / code " ++ r.keys.codeId) := by
  unfold AllParse at h
  push Not at h
  obtain ⟨r, hfirst⟩ := exists_isFirst h
  obtain ⟨f, hf, hkind, hmessage⟩ := toObject_unparsed hfirst.kind
  have hobjects := objectsOf_unparsed (standsFor_recordsOf items w.ids) hfirst hf
  exact ⟨r, hfirst, run_fails hargs (execution?_results hcommand)
    (executeResults_spoiled hset keys hobjects) hkind hmessage⟩

/-- Without keys the whole list is printed. -/
theorem results_list (hkeys : keys = none) (h : AllParse items) :
    (run w c args).PrintsList (c.display invocation.color) w.ids items := by
  cases hkeys
  have hstands := standsFor_recordsOf items w.ids
  obtain ⟨objects, hobjects⟩ := objectsOf_parsed hstands h
  have hresult := (executeResults_loaded hset none hobjects).trans (showSet_list hstands)
  refine ⟨_, objects, hstands, ?_, run_prints hargs (execution?_results hcommand) hresult⟩
  exact (forms_of_objectsOf hobjects).imp fun _ _ hform => toObject_eq_ok.mp hform

/-- With keys the first record of them is printed, if a value holds one. -/
theorem results_record {k : Keys} (hkeys : keys = some k)
    (hids : ∀ n, w.ids.taken ≤ n → (⟨w.ids.id n, w.ids.id n⟩ : Keys) ≠ k) (h : AllParse items) :
    (run w c args).Finds (c.display invocation.color) items k := by
  cases hkeys
  have he := execution?_results (w := w) hcommand
  have hstands := standsFor_recordsOf items w.ids
  obtain ⟨objects, hobjects⟩ := objectsOf_parsed hstands h
  have hresult := executeResults_loaded hset (some k) hobjects
  by_cases hholds : Holds items k
  · obtain ⟨r, hfirst⟩ := exists_isFirst hholds
    obtain ⟨value, hvalue, hshows⟩ := showSet_held hstands hids _ hobjects hfirst
    have hprints := run_prints (c := c) hargs he (hresult.trans hshows)
    refine ⟨fun _ => ⟨r, value, hfirst, hvalue, hprints⟩, fun hnone => absurd hholds hnone, ?_⟩
    rw [hprints.exitCode]
    simp [hholds]
  · rw [showSet_missing hstands hids _ hholds] at hresult
    have hfails := run_fails (c := c) hargs he hresult rfl rfl
    exact ⟨fun hsome => absurd hsome hholds, fun _ => hfails, fun _ => hholds,
      fun _ => hfails.exitCode⟩

end

/-! ## The law -/

/-- A list of a value that holds no record, and of one that does. -/
def listText : String :=
  "[7,\x7b\"json\":\"[]\",\"graph\":\x7b\"id\":\"g\"\x7d,\"code\":\x7b\"id\":\"c\"\x7d\x7d]"

def listItems : List Json :=
  [.num (.integer 7), .obj [("code", .obj [("id", .str "c")]), ("graph", .obj [("id", .str "g")]),
    ("json", .str "[]")]]

/-- A world in which all files hold the list. -/
def listWorld : World :=
  { refusingWorld with files := fun _ => .ok (Text.Utf8.encode listText.toList) }

def lookupArguments : List String :=
  ["results", "--query-data", "f", "--graph-id", "g", "--code-id", "c"]

/-- The record that the list holds. -/
def listRecord : Record := ⟨"[]", ⟨"g", "c"⟩⟩

end ResultGateway.CommandLine
