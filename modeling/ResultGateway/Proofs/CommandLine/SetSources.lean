-- Two sources of a result set. A set that a file holds and one that stands
-- in the data of a reply are loaded alike: both are counted alike, both
-- fail for the same record and with the same report, or neither is a set.
import ResultGateway.Proofs.CommandLine.Queries

namespace ResultGateway.CommandLine

open GraphQl (Reply)
open Result

/-! ## What both sources show -/

/-- An answer that shows a failure, and nothing else. -/
structure Answer.ShowsFailure (a : Answer) (d : Display) (f : Failure) : Prop where
  exitCode : a.exitCode = f.kind.exitCode
  stdout : a.stdout = ""
  stderr : a.stderr = d.failure f

/-- How many records stand for the values of a list, and how many of them are empty. -/
def countsJson (items : List Json) : Json :=
  .ofMembers [("records", .nat items.length),
    ("placeholders", .nat (items.filter fun item => ¬ IsComplete item).length)]

/-- An answer that prints a document with the counts of a list. -/
def Answer.Counts (a : Answer) (d : Display) (items : List Json) : Prop :=
  ∃ document, a.Prints d document ∧ document.get? "results" = some (countsJson items)

/-- A failure of the first record of a list whose result cannot be parsed. -/
def IsSpoiledBy (items : List Json) (f : Failure) : Prop :=
  ∃ r, IsFirst (fun q => ¬ IsResultText q.json) items r ∧ f.kind = .parse ∧ f.message =
    some ("invalid result json for graph " ++ r.keys.graphId ++ " / code " ++ r.keys.codeId)

/-- Two answers to loads of one list: both count what is loaded, or both show the same failure. -/
structure LoadAlike (items : List Json) (a b : Answer) (d d' : Display) : Prop where
  counted : AllParse items → a.Counts d items ∧ b.Counts d' items
  spoiled : ¬ AllParse items → ∃ f, IsSpoiledBy items f ∧ a.ShowsFailure d f ∧
    b.ShowsFailure d' f ∧ a.exitCode = 5 ∧ b.exitCode = 5
  exitCode : a.exitCode = 0 ↔ b.exitCode = 0

/-! ## Lists -/

theorem get?_listDocument (items : List Json) (strings : List Record)
    (objects : List ObjectRecord) :
    (listDocument items strings objects).get? "results" = some (countsJson items) := by
  unfold listDocument
  rw [Json.get?_ofMembers]
  rfl

theorem get?_loadedDocument (reply : Reply) (items : List Json) :
    (loadedDocument reply items).get? "results" = some (countsJson items) := by
  unfold loadedDocument
  rw [Json.get?_ofMembers]
  rfl

theorem run_showsFailure {w : World} {c : Console} {args : List String} {invocation : Invocation}
    {e : Execution} {f : Failure} (hargs : Request.ofArguments args = .ok (.run invocation))
    (he : invocation.command.execution? w invocation.apiUrl = some e) (h : e.result = .error f) :
    (run w c args).ShowsFailure (c.display invocation.color) (hintReachable f) := by
  obtain ⟨log, hrun⟩ := run_answer (c := c) hargs he
  rw [hrun]
  unfold Display.answer
  rw [h]
  refine ⟨?_, rfl, rfl⟩
  rw [hintReachable_kind]

/-- A failure that is not one of input or output is shown as it is. -/
theorem hintReachable_eq_self {f : Failure} (h : f.kind ≠ .io) : hintReachable f = f := by
  simp [hintReachable, h]

theorem loadAlike {items : List Json} {a b : Answer} {d d' : Display}
    (hcounted : AllParse items → a.Counts d items ∧ b.Counts d' items)
    (hspoiled : ¬ AllParse items →
      ∃ f, IsSpoiledBy items f ∧ a.ShowsFailure d f ∧ b.ShowsFailure d' f) :
    LoadAlike items a b d d' := by
  have hfailed : ¬ AllParse items → ∃ f, IsSpoiledBy items f ∧ a.ShowsFailure d f ∧
      b.ShowsFailure d' f ∧ a.exitCode = 5 ∧ b.exitCode = 5 := by
    intro hparse
    obtain ⟨f, hf, ha, hb⟩ := hspoiled hparse
    have hcode : f.kind.exitCode = 5 := by
      obtain ⟨-, -, hkind, -⟩ := hf
      rw [hkind]
      rfl
    exact ⟨f, hf, ha, hb, ha.exitCode.trans hcode, hb.exitCode.trans hcode⟩
  refine ⟨hcounted, hfailed, ?_⟩
  by_cases hparse : AllParse items
  · obtain ⟨⟨_, ha, -⟩, ⟨_, hb, -⟩⟩ := hcounted hparse
    rw [ha.exitCode, hb.exitCode]
  · obtain ⟨_, -, -, -, ha, hb⟩ := hfailed hparse
    rw [ha, hb]

/-- The failure of the first record that cannot be parsed, for each supply of ids. -/
theorem exists_spoiling {items : List Json} (h : ¬ AllParse items) :
    ∃ f, IsSpoiledBy items f ∧ ∀ ids,
      Store.objectsOf (recordsOf (items.map Entry.ofJson) ids).1 = .error f := by
  unfold AllParse at h
  push Not at h
  obtain ⟨r, hfirst⟩ := exists_isFirst h
  obtain ⟨f, hf, hkind, hmessage⟩ := toObject_unparsed hfirst.kind
  refine ⟨f, ⟨r, hfirst, hkind, hmessage⟩, ?_⟩
  exact fun ids => objectsOf_unparsed (standsFor_recordsOf items ids) hfirst hf

/-! ## A file -/

section

variable {w : World} {c : Console} {args : List String} {apiUrl : Option String}
  {color : ColorMode} {path text : String}
  (hargs : Request.ofArguments args = .ok (.run ⟨apiUrl, color, .results path none⟩))
  (htext : w.files.text? path = .ok text) {items : List Json}
  (hset : Json.parse text = .ok (.arr items))

include hargs htext hset

theorem results_counts (h : AllParse items) : (run w c args).Counts (c.display color) items := by
  obtain ⟨strings, objects, -, -, hprints⟩ :=
    results_list (c := c) hargs rfl (readSet_list htext hset) rfl h
  exact ⟨_, hprints, get?_listDocument items strings objects⟩

theorem results_showsFailure {f : Failure} (hkind : f.kind ≠ .io)
    (h : Store.objectsOf (recordsOf (items.map Entry.ofJson) w.ids).1 = .error f) :
    (run w c args).ShowsFailure (c.display color) f := by
  rw [← hintReachable_eq_self hkind]
  exact run_showsFailure hargs rfl (executeResults_spoiled (readSet_list htext hset) none h)

end

/-! ## A reply -/

section

variable {w : World} {c : Console} {args : List String} {apiUrl : Option String}
  {color : ColorMode} {document : Source} {vars : Option String} {field : String} {reply : Reply}
  (hargs : AsksFor args apiUrl color document vars (some field))
  (hreply : w.Replies apiUrl document vars reply) {items : List Json}
  (hset : IsIn reply.data field (.arr items))

include hargs hreply hset

theorem query_counts (h : AllParse items) : (run w c args).Counts (c.display color) items :=
  ⟨_, run_shows hreply hargs (loadField_parsed w.ids hset h), get?_loadedDocument reply items⟩

theorem query_showsFailure {f : Failure} (hkind : f.kind ≠ .io)
    (h : Store.objectsOf (recordsOf (items.map Entry.ofJson) w.ids).1 = .error f) :
    (run w c args).ShowsFailure (c.display color) f := by
  have hloaded : (loadField reply.data field w.ids).1 = .error f := by
    rw [loadField_list w.ids hset, (loadEntries_eq_error _).mpr ((load_eq_error _).mpr h)]
    rfl
  have hresult := executeQuery_result hreply (some field)
  rw [loadOptional, hloaded] at hresult
  rw [← hintReachable_eq_self hkind]
  exact run_showsFailure hargs rfl hresult

end

/-! ## The law -/

/-- A world in which all files hold a list of one number. -/
def numberWorld : World :=
  { refusingWorld with files := fun _ => .ok (Text.Utf8.encode "[7]".toList) }

def numberArguments : List String := ["results", "--query-data", "f"]

end ResultGateway.CommandLine
