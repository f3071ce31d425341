-- What the plan of a command is made of. A plan is made if and only if the
-- settings, the texts that are given and the JSON values in them can all be
-- read, and it holds what they say. With a plan, a command is what its call
-- is.
import ResultGateway.Proofs.Gateway.Endpoints
import ResultGateway.Proofs.Json.Documents
import ResultGateway.Proofs.Settings
import ResultGateway.Proofs.Text.Utf8
import ResultGateway.CommandLine.Execute

namespace ResultGateway.CommandLine

open Gateway (Outcome)
open Json (IsDocument)
open Settings (Names chooseApiUrl)

/-! ## Steps -/

theorem bind_eq_ok {α β : Type} {x : Except Failure α} {f : α → Except Failure β} {b : β} :
    x >>= f = .ok b ↔ ∃ a, x = .ok a ∧ f a = .ok b := by
  cases x with
  | error e => simp [bind, Except.bind]
  | ok a => simp [bind, Except.bind]

theorem map_eq_ok {α β : Type} {x : Except Failure α} {f : α → β} {b : β} :
    x.map f = .ok b ↔ ∃ a, x = .ok a ∧ f a = b := by
  cases x with
  | error e => simp [Except.map]
  | ok a => simp [Except.map]

/-! ## Sources -/

/-- The text that a source gives. A file gives the text whose bytes it holds. -/
inductive Source.Gives (files : Files) : Source → String → Prop where
  | text (s : String) : Gives files (.text s) s
  | file (path s : String) (holds : files path = .ok (Text.Utf8.encode s.toList)) :
      Gives files (.file path) s

section

variable {files : Files}

theorem text?_eq_ok {path s : String} :
    files.text? path = .ok s ↔ files path = .ok (Text.Utf8.encode s.toList) := by
  unfold Files.text?
  cases files path with
  | error fault => simp
  | ok bytes =>
    rw [Except.ok.injEq, ← Text.Utf8.decode?_eq_some]
    dsimp only
    cases Text.Utf8.decode? bytes with
    | none => simp
    | some cs =>
      rw [Except.ok.injEq, Option.some.injEq]
      constructor
      · rintro rfl
        rw [String.toList_ofList]
      · rintro rfl
        rw [String.ofList_toList]

theorem files_read_eq_ok {what path s : String} :
    files.read what path = .ok s ↔ files path = .ok (Text.Utf8.encode s.toList) := by
  rw [← text?_eq_ok]
  unfold Files.read
  cases files.text? path <;> simp

theorem source_read_eq_ok {what s : String} {source : Source} :
    source.read files what = .ok s ↔ source.Gives files s := by
  cases source with
  | text given =>
    constructor
    · rintro ⟨⟩
      exact .text s
    · rintro ⟨⟩
      rfl
  | file path =>
    constructor
    · exact fun hread => .file path s (files_read_eq_ok.mp hread)
    · intro hgives
      cases hgives with
      | file _ _ holds => exact files_read_eq_ok.mpr holds

/-- A source gives one text only. -/
theorem Source.Gives.unique {source : Source} {s s' : String} (h : source.Gives files s)
    (h' : source.Gives files s') : s = s' := by
  have hread := @source_read_eq_ok files "" s source
  rw [← hread, @source_read_eq_ok files "" s' source |>.mpr h'] at h
  exact (Except.ok.inj h).symm

theorem readJson_eq_ok {parameter text : String} {value : Json} :
    readJson parameter text = .ok value ↔
      ∃ written, IsDocument text written ∧ value = written.sorted := by
  rw [← Json.parse_eq_ok]
  unfold readJson
  cases Json.parse text <;> simp

/-- A value is read from the text that the source gives. -/
theorem source_readJson_eq (what textName fileName : String) (source : Source) :
    ∃ parameter, source.readJson files what textName fileName =
      (source.read files what >>= readJson parameter) := by
  cases source with
  | text given => exact ⟨textName, rfl⟩
  | file path =>
    refine ⟨fileName, ?_⟩
    unfold Source.readJson Source.read
    dsimp only
    cases files.read what path <;> rfl

theorem source_readJson_eq_ok {what textName fileName : String} {source : Source} {value : Json} :
    source.readJson files what textName fileName = .ok value ↔
      ∃ text, source.Gives files text ∧
        ∃ written, IsDocument text written ∧ value = written.sorted := by
  obtain ⟨parameter, heq⟩ := @source_readJson_eq files what textName fileName source
  rw [heq, bind_eq_ok]
  simp only [source_read_eq_ok, readJson_eq_ok]

end

/-! ## Plans -/

/-- The variables that a text stands for. -/
inductive GivesVariables : Option String → Option Json → Prop where
  | none : GivesVariables none none
  | some {text : String} {written : Json} (document : IsDocument text written) :
      GivesVariables (some text) (some written.sorted)

theorem GivesVariables.document {text : String} {value : Option Json}
    (h : GivesVariables (.some text) value) : ∃ written, IsDocument text written := by
  cases h with
  | some document => exact ⟨_, document⟩

theorem readVariables_eq_ok {vars : Option String} {value : Option Json} :
    readVariables vars = .ok value ↔ GivesVariables vars value := by
  cases vars with
  | none =>
    constructor
    · rintro ⟨⟩
      exact .none
    · rintro ⟨⟩
      rfl
  | some text =>
    unfold readVariables
    constructor
    · intro h
      obtain ⟨found, hfound, rfl⟩ := map_eq_ok.mp h
      obtain ⟨written, hdocument, rfl⟩ := readJson_eq_ok.mp hfound
      exact .some hdocument
    · intro h
      cases h with
      | some hdocument => exact map_eq_ok.mpr ⟨_, readJson_eq_ok.mpr ⟨_, hdocument, rfl⟩, rfl⟩

theorem ofEnvironment_eq_ok {env : Settings.Environment} {apiUrl : Option String}
    {settings : Settings} : Settings.ofEnvironment env apiUrl = .ok settings ↔
      ∃ port, Names port env.localPort ∧
        settings = ⟨chooseApiUrl apiUrl env.apiUrl, Settings.defaultLocalHost, port⟩ := by
  simp only [← Settings.chooseLocalPort_eq_ok]
  unfold Settings.ofEnvironment
  cases Settings.chooseLocalPort none env.localPort with
  | error e => simp
  | ok port => simp [eq_comm]

/-- A plan of a query with all that the query needs. -/
structure QueryPlan.IsFor (plan : QueryPlan) (w : World) (apiUrl : Option String)
    (document : Source) (vars : Option String) : Prop where
  port : ∃ port, Names port w.environment.localPort
  document : document.Gives w.files plan.document
  vars : GivesVariables vars plan.vars
  endpoints : ∃ url, Url.parse (chooseApiUrl apiUrl w.environment.apiUrl) = .ok (.web url) ∧
    plan.endpoints = .ofBase url.asBase

/-- A plan of a run with all that the run needs, but for the URL of its server. -/
structure RunPlan.IsFor (plan : RunPlan) (w : World) (code graph : Source) (port : Option Nat)
    (host : String) : Prop where
  runner : ∃ named, Names named w.environment.localPort ∧ plan.runner = ⟨host, port.getD named⟩
  code : code.Gives w.files plan.code
  graph : ∃ text, graph.Gives w.files text ∧
    ∃ written, IsDocument text written ∧ plan.graph = written.sorted

theorem planQuery_eq_ok {w : World} {apiUrl : Option String} {document : Source}
    {vars : Option String} {plan : QueryPlan} :
    planQuery w apiUrl document vars = .ok plan ↔ plan.IsFor w apiUrl document vars := by
  unfold planQuery
  simp only [bind_eq_ok, ofEnvironment_eq_ok, source_read_eq_ok, readVariables_eq_ok,
    Gateway.endpoints_eq_ok]
  constructor
  · rintro ⟨_, ⟨port, hport, rfl⟩, s, hs, value, hvalue, e, he, hplan⟩
    cases hplan
    exact ⟨⟨port, hport⟩, hs, hvalue, he⟩
  · rintro ⟨⟨port, hport⟩, hs, hvalue, he⟩
    exact ⟨_, ⟨port, hport, rfl⟩, _, hs, _, hvalue, _, he, rfl⟩

theorem planRun_eq_ok {w : World} {apiUrl : Option String} {code graph : Source}
    {port : Option Nat} {host : String} {plan : RunPlan} :
    planRun w apiUrl code graph port host = .ok plan ↔ plan.IsFor w code graph port host := by
  unfold planRun
  simp only [bind_eq_ok, ofEnvironment_eq_ok, source_read_eq_ok, source_readJson_eq_ok]
  constructor
  · rintro ⟨_, ⟨named, hnamed, rfl⟩, s, hs, value, hvalue, hplan⟩
    cases hplan
    exact ⟨⟨named, hnamed, rfl⟩, hs, hvalue⟩
  · rintro ⟨⟨named, hnamed, hrunner⟩, hs, hvalue⟩
    refine ⟨_, ⟨named, hnamed, rfl⟩, _, hs, _, hvalue, ?_⟩
    rw [← hrunner]
    rfl

/-! ## Planned commands -/

section

variable {w : World} {apiUrl : Option String}

theorem executeQuery_planned {document : Source} {vars : Option String} {plan : QueryPlan}
    (h : planQuery w apiUrl document vars = .ok plan) (field : Option String)
    {o : Outcome GraphQl.Reply} (ho : (Gateway.query w.network plan.endpoints {} plan.document
      plan.vars ⟨w.replies, []⟩).1 = o) :
    (executeQuery w apiUrl document vars field).requests = o.requests ∧
      ∀ f, o.result = .error f → (executeQuery w apiUrl document vars field).result = .error f := by
  unfold executeQuery
  rw [h]
  dsimp only
  rw [ho]
  cases hresult : o.result with
  | error f =>
    refine ⟨rfl, ?_⟩
    rintro _ ⟨⟩
    rfl
  | ok reply =>
    refine ⟨rfl, ?_⟩
    nofun

theorem executeRun_planned {code graph : Source} {port : Option Nat} {host : String}
    {plan : RunPlan} (h : planRun w apiUrl code graph port host = .ok plan) {o : Outcome Json}
    (ho : plan.runner.run w.network plan.code plan.graph none ⟨w.replies, []⟩ = o) :
    executeRun w apiUrl code graph port host = ⟨o.result, o.requests, o.log⟩ := by
  unfold executeRun
  rw [h]
  dsimp only
  rw [ho]

end

end ResultGateway.CommandLine
