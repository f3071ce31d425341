-- What the program shows of the reply to a query. The data and the errors
-- are shown as they came, whether or not a result set is loaded from them.
-- A field of the data that holds no set changes nothing; one that holds
-- another value, or a result that cannot be parsed, fails the command.
import ResultGateway.Proofs.CommandLine.ReplyDocument
import ResultGateway.Proofs.CommandLine.ResultSets
import ResultGateway.Proofs.Gateway.Calls

namespace ResultGateway.CommandLine

open GraphQl (Reply)
open Result

/-! ## Sets in the data -/

/-- A value in a field of the data. -/
def IsIn (data : Option Json) (field : String) (set : Json) : Prop :=
  ∃ members, data = some (.obj members) ∧ Json.lookup field members = some set

/-- Data that are no object, or have no such field, or have null there. -/
def HasNoSet (data : Option Json) (field : String) : Prop :=
  ∀ set, IsIn data field set → set = .null

theorem get?_eq_some {data : Option Json} {field : String} {set : Json} :
    (data >>= fun data => data.get? field) = some set ↔ IsIn data field set := by
  unfold IsIn
  cases data with
  | none => simp
  | some data => cases data <;> simp [Json.get?]

theorem isNull_iff {j : Json} : j.isNull = true ↔ j = .null := by
  cases j <;> simp [Json.isNull]

theorem setIn_eq_some {data : Option Json} {field : String} {set : Json} :
    setIn data field = some set ↔ IsIn data field set ∧ set ≠ .null := by
  unfold setIn
  rw [Option.filter_eq_some_iff, get?_eq_some]
  simp [← isNull_iff]

theorem setIn_eq_none {data : Option Json} {field : String} :
    setIn data field = none ↔ HasNoSet data field := by
  unfold HasNoSet
  rw [Option.eq_none_iff_forall_ne_some]
  constructor
  · intro h set hset
    by_contra hne
    exact h set (setIn_eq_some.mpr ⟨hset, hne⟩)
  · intro h set hset
    obtain ⟨hin, hne⟩ := setIn_eq_some.mp hset
    exact hne (h set hin)

/-! ## Documents -/

/-- The data and the errors of a reply. -/
def plainDocument (reply : Reply) : Json :=
  .ofMembers [("data", .orNull reply.data), ("errors", errorsJson reply.errors)]

/-- The data and the errors of a reply, and the count of what was loaded from a list of values. -/
def loadedDocument (reply : Reply) (items : List Json) : Json :=
  .ofMembers [("data", .orNull reply.data), ("errors", errorsJson reply.errors),
    ("results", .ofMembers [("records", .nat items.length),
      ("placeholders", .nat (items.filter fun item => ¬ IsComplete item).length)])]

/-! ## Loads from the data -/

section

variable {data : Option Json} {field : String} (ids : FreshIds)

theorem loadField_noSet (h : HasNoSet data field) : (loadField data field ids).1 = .ok none := by
  unfold loadField
  rw [setIn_eq_none.mpr h]

theorem listOfJson_other {set : Json} (h : ∀ items, set ≠ .arr items) :
    ∃ e, Entry.listOfJson set = .error e := by
  cases set with
  | arr items => exact absurd rfl (h items)
  | _ => exact ⟨_, rfl⟩

theorem loadField_other {set : Json} (hset : IsIn data field set) (hnull : set ≠ .null)
    (h : ∀ items, set ≠ .arr items) : ∃ f, (loadField data field ids).1 = .error f ∧
      f.kind = .usage ∧ f.message = some ("data." ++ field ++ " is not a result json set") := by
  obtain ⟨e, he⟩ := listOfJson_other h
  unfold loadField
  rw [setIn_eq_some.mpr ⟨hset, hnull⟩]
  simp only [he]
  exact ⟨_, rfl, rfl, rfl⟩

variable {items : List Json} (hset : IsIn data field (.arr items))

include hset

theorem loadField_list : (loadField data field ids).1 =
    (Store.empty.loadEntries (items.map Entry.ofJson) ids).1.result.map some := by
  unfold loadField
  rw [setIn_eq_some.mpr ⟨hset, by simp⟩]
  rfl

theorem loadField_parsed (h : AllParse items) : (loadField data field ids).1 =
    .ok (some ⟨items.length, (items.filter fun item => ¬ IsComplete item).length⟩) := by
  have hstands := standsFor_recordsOf items ids
  obtain ⟨objects, hobjects⟩ := objectsOf_parsed hstands h
  rw [loadField_list ids hset, loadEntries_eq_ok _ hobjects, length_lacksOf_ofJson,
    ← hstands.length_eq]
  rfl

theorem loadField_spoiled {r : Record} (h : IsFirst (fun q => ¬ IsResultText q.json) items r) :
    ∃ f, (loadField data field ids).1 = .error f ∧ f.kind = .parse ∧ f.message =
      some ("invalid result json for graph " ++ r.keys.graphId ++ " / code " ++ r.keys.codeId) := by
  obtain ⟨f, hf, hkind, hmessage⟩ := toObject_unparsed h.kind
  have hobjects := objectsOf_unparsed (standsFor_recordsOf items ids) h hf
  refine ⟨f, ?_, hkind, hmessage⟩
  rw [loadField_list ids hset, (loadEntries_eq_error _).mpr ((load_eq_error _).mpr hobjects)]
  rfl

end

/-! ## Answers to a query -/

/-- A world in which a query gets a reply. -/
def World.Replies (w : World) (apiUrl : Option String) (document : Source) (vars : Option String)
    (reply : Reply) : Prop :=
  ∃ plan, planQuery w apiUrl document vars = .ok plan ∧
    (Gateway.query w.network plan.endpoints {} plan.document plan.vars ⟨w.replies, []⟩).1.result =
      .ok reply

/-- Arguments that ask for a query, and for a result set from a field of its data. -/
def AsksFor (args : List String) (apiUrl : Option String) (color : ColorMode) (document : Source)
    (vars field : Option String) : Prop :=
  Request.ofArguments args = .ok (.run ⟨apiUrl, color, .query document vars field⟩)

/-- What an answer shows of a reply. -/
structure Answer.ShowsReply (a : Answer) (d : Display) (reply : Reply) (field : Option String) :
    Prop where
  /-- Without a field, or without a set in the field, the data and the errors are printed. -/
  plain : (∀ name, field = some name → HasNoSet reply.data name) →
    a.Prints d (plainDocument reply)
  /-- With a list all of whose results can be parsed, what is loaded is counted. -/
  loaded : ∀ name items, field = some name → IsIn reply.data name (.arr items) →
    AllParse items → a.Prints d (loadedDocument reply items)
  /-- The first record of a list that cannot be parsed fails the command. -/
  spoiled : ∀ name items, field = some name → IsIn reply.data name (.arr items) →
    ¬ AllParse items → ∃ r, IsFirst (fun q => ¬ IsResultText q.json) items r ∧
      a.Fails d 5
        ("invalid result json for graph " ++ r.keys.graphId ++ " / code " ++ r.keys.codeId)
  /-- Any other value fails the command. -/
  other : ∀ name set, field = some name → IsIn reply.data name set → set ≠ .null →
    (∀ items, set ≠ .arr items) →
      a.Fails d 2 ("data." ++ name ++ " is not a result json set")

section

variable {w : World} {c : Console} {apiUrl : Option String} {document : Source}
  {vars : Option String} {reply : Reply} (h : w.Replies apiUrl document vars reply)

include h

theorem executeQuery_result (field : Option String) :
    (executeQuery w apiUrl document vars field).result =
      (loadOptional reply.data field w.ids).1.map (replyJson reply) := by
  obtain ⟨plan, hplan, hreply⟩ := h
  unfold executeQuery
  rw [hplan]
  simp only [hreply]

theorem Replies.isAdmitted : reply.IsAdmitted 123 := by
  obtain ⟨plan, -, hreply⟩ := h
  obtain ⟨body, hbody⟩ := Gateway.query_decoded _ _ _ _ _ _ hreply
  obtain ⟨rest, hread, -⟩ := Json.whole_eq_ok.mp hbody
  exact GraphQl.yields_reply 122 hread

variable {args : List String} {color : ColorMode} {field : Option String}
  (hargs : AsksFor args apiUrl color document vars field)

include hargs

theorem run_shows {loaded : Option Store.Summary}
    (hloaded : (loadOptional reply.data field w.ids).1 = .ok loaded) :
    (run w c args).Prints (c.display color) (replyJson reply loaded) := by
  have hresult := executeQuery_result h field
  rw [hloaded] at hresult
  exact run_prints hargs rfl hresult

theorem run_refuses {f : Failure} (hf : (loadOptional reply.data field w.ids).1 = .error f)
    {kind : Failure.Kind} {message : String} (hkind : f.kind = kind)
    (hmessage : f.message = some message) :
    (run w c args).Fails (c.display color) kind.exitCode message := by
  have hresult := executeQuery_result h field
  rw [hf] at hresult
  exact run_fails hargs rfl hresult hkind hmessage

theorem run_showsReply : (run w c args).ShowsReply (c.display color) reply field := by
  refine ⟨?_, ?_, ?_, ?_⟩
  · intro hnone
    cases field with
    | none => exact run_shows h hargs rfl
    | some name => exact run_shows h hargs (loadField_noSet w.ids (hnone name rfl))
  · rintro name items rfl hset hparse
    exact run_shows h hargs (loadField_parsed w.ids hset hparse)
  · rintro name items rfl hset hparse
    unfold AllParse at hparse
    push Not at hparse
    obtain ⟨r, hfirst⟩ := exists_isFirst hparse
    obtain ⟨f, hf, hkind, hmessage⟩ := loadField_spoiled w.ids hset hfirst
    exact ⟨r, hfirst, run_refuses h hargs hf hkind hmessage⟩
  · rintro name set rfl hset hnull hother
    obtain ⟨f, hf, hkind, hmessage⟩ := loadField_other w.ids hset hnull hother
    exact run_refuses h hargs hf hkind hmessage

/-- An answer that succeeds prints the document of the reply. -/
theorem run_succeeds (hexit : (run w c args).exitCode = 0) :
    ∃ loaded, (run w c args).Prints (c.display color) (replyJson reply loaded) := by
  cases hloaded : (loadOptional reply.data field w.ids).1 with
  | ok loaded => exact ⟨loaded, run_shows h hargs hloaded⟩
  | error f =>
    have hresult := executeQuery_result h field
    rw [hloaded] at hresult
    obtain ⟨log, hrun⟩ := run_answer (w := w) (c := c) hargs rfl
    have hfailed : (run w c args).exitCode = f.kind.exitCode := by
      rw [hrun]
      unfold Display.answer
      dsimp only
      rw [hresult]
      rfl
    exact absurd (hfailed.symm.trans hexit) (exitCode_ne_zero f.kind)

theorem run_decodes (hexit : (run w c args).exitCode = 0) (hreals : reply.HasNoReals) :
    Reply.shape.reader.decode (run w c args).stdout = .ok reply := by
  obtain ⟨loaded, hprints⟩ := run_succeeds h hargs hexit
  rw [hprints.stdout]
  exact decode_document (Replies.isAdmitted h) hreals loaded (c.display color)

end

/-! ## The law -/

/-- A query that gets a reply shows its data and its errors, with a count of what was loaded, or
fails as the field that is asked for says. Whatever the field, the data and the errors that are
shown are the same, and a reply whose values have no reals is decoded from what is shown. -/
theorem a_query_shows_its_reply {w : World} {apiUrl : Option String} {document : Source}
    {vars : Option String} {reply : Reply} (h : w.Replies apiUrl document vars reply)
    (c : Console) :
    (∀ args color field, AsksFor args apiUrl color document vars field →
      (run w c args).ShowsReply (c.display color) reply field) ∧
    (∀ args args' color color' field field', AsksFor args apiUrl color document vars field →
      AsksFor args' apiUrl color' document vars field' → (run w c args).exitCode = 0 →
      (run w c args').exitCode = 0 → ∃ shown shown', (run w c args).Prints (c.display color) shown ∧
        (run w c args').Prints (c.display color') shown' ∧
        shown.get? "data" = shown'.get? "data" ∧ shown.get? "errors" = shown'.get? "errors") ∧
    (∀ args color field, AsksFor args apiUrl color document vars field →
      (run w c args).exitCode = 0 → reply.HasNoReals →
        Reply.shape.reader.decode (run w c args).stdout = .ok reply) := by
  refine ⟨?_, ?_, ?_⟩
  · exact fun args color field hargs => run_showsReply h hargs
  · intro args args' color color' field field' hargs hargs' hexit hexit'
    obtain ⟨loaded, hprints⟩ := run_succeeds h hargs hexit
    obtain ⟨loaded', hprints'⟩ := run_succeeds h hargs' hexit'
    obtain ⟨hdata, herrors⟩ := get?_replyJson reply loaded
    obtain ⟨hdata', herrors'⟩ := get?_replyJson reply loaded'
    exact ⟨_, _, hprints, hprints', hdata.trans hdata'.symm, herrors.trans herrors'.symm⟩
  · exact fun args color field hargs hexit hreals => run_decodes h hargs hexit hreals

/-! ## A query -/

/-- A text of data with a list, and of an error. -/
def sampleText : String :=
  "\x7b\"data\":\x7b\"f\":[7]\x7d,\"errors\":[\x7b\"message\":\"m\"\x7d]\x7d"

/-- A world of one query: its servers grant a token, and then reply with the text. -/
def answeringWorld : World :=
  { refusingWorld with replies := [
    ⟨200, [], "\x7b\"csrfToken\":\"t\"\x7d".toUTF8.data.toList, 0⟩,
    ⟨200, [], sampleText.toUTF8.data.toList, 0⟩] }

def sampleReply : Reply :=
  ⟨some (.obj [("f", .arr [.nat 7])]), some [⟨"m", [], none, none⟩]⟩

def queryUrl : Url :=
  ⟨.http, "", none, .ipv6 [0, 0, 0, 0, 0, 0, 0, 1], none, [""], none, none⟩

def queryArguments : List String :=
  ["--api-url", "http://[::1]/", "query", "--query", "q", "--results-field", "f"]

theorem a_query_loads_what_its_reply_holds :
    answeringWorld.Replies (some "http://[::1]/") (.text "q") none sampleReply ∧
    (run answeringWorld plainConsole queryArguments).Prints (plainConsole.display .auto)
      (loadedDocument sampleReply [.nat 7]) ∧
    Reply.shape.reader.decode (run answeringWorld plainConsole queryArguments).stdout =
      .ok sampleReply := by
  have hplan : planQuery answeringWorld (some "http://[::1]/") (.text "q") none =
      .ok ⟨.ofBase queryUrl, "q", none⟩ := by cbv
  have hreply : (Gateway.query answeringWorld.network (.ofBase queryUrl) {} "q" none
      ⟨answeringWorld.replies, []⟩).1.result = .ok sampleReply := by cbv
  have hreplies : answeringWorld.Replies (some "http://[::1]/") (.text "q") none sampleReply :=
    ⟨_, hplan, hreply⟩
  have hasks : AsksFor queryArguments (some "http://[::1]/") .auto (.text "q") none (some "f") :=
    rfl
  obtain ⟨hshows, -, hdecodes⟩ := a_query_shows_its_reply hreplies plainConsole
  have hset : IsIn sampleReply.data "f" (.arr [.nat 7]) := ⟨_, rfl, rfl⟩
  have hparse : AllParse [.nat 7] := by
    intro item hitem r hr
    cases List.mem_singleton.mp hitem
    cases hr.json
  have hreals : sampleReply.HasNoReals := by
    constructor
    · rintro _ ⟨⟩
      refine ⟨2, .obj ?_⟩
      intro member hmember
      cases List.mem_singleton.mp hmember
      refine .arr ?_
      intro item hitem
      cases List.mem_singleton.mp hitem
      exact .num (Json.isExact_word (by decide))
    · rintro _ ⟨⟩ e he
      cases List.mem_singleton.mp he
      constructor
      · rintro _ ⟨⟩
      · rintro _ ⟨⟩
  have hprints := (hshows _ _ _ hasks).loaded "f" _ rfl hset hparse
  exact ⟨hreplies, hprints, hdecodes _ _ _ hasks hprints.exitCode hreals⟩

end ResultGateway.CommandLine
