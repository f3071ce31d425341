-- Where a failure comes from that no server has a part in. Before its first
-- request, and once its last reply is read, a command fails by itself or at
-- a file that it reads. Such a failure has no status, no hint to check a
-- server, and it is one of input or output at a file only.
import ResultGateway.CommandLine.Run

namespace ResultGateway.CommandLine

open Gateway (Runner)
open Result (Entry Keys Record Store)

variable {α β : Type}

/-! ## Computations that fail -/

/-- A computation all of whose failures have a property. -/
def FailsBy (P : Failure → Prop) (x : Except Failure α) : Prop := ∀ f, x = .error f → P f

section

variable {P Q : Failure → Prop} {x : Except Failure α}

theorem failsBy_ok (a : α) : FailsBy P (.ok a) := fun _ h => nomatch h

theorem failsBy_error {f : Failure} (h : P f) : FailsBy P (.error f : Except Failure α) := by
  rintro _ ⟨⟩
  exact h

theorem FailsBy.error {f : Failure} (h : FailsBy P x) (hx : x = .error f) :
    FailsBy P (.error f : Except Failure β) := failsBy_error (h f hx)

theorem FailsBy.mono (h : FailsBy P x) (hPQ : ∀ f, P f → Q f) : FailsBy Q x :=
  fun f hx => hPQ f (h f hx)

theorem FailsBy.bind {g : α → Except Failure β} (h : FailsBy P x) (hg : ∀ a, FailsBy P (g a)) :
    FailsBy P (x >>= g) := by
  cases x with
  | error f => exact h.error rfl
  | ok a => exact hg a

theorem FailsBy.map (h : FailsBy P x) (g : α → β) : FailsBy P (x.map g) := by
  cases x with
  | error f => exact h.error rfl
  | ok a => exact failsBy_ok (g a)

end

/-! ## Failures without a server -/

/-- A failure in which neither a file nor a server has a part. -/
structure IsOwn (f : Failure) : Prop where
  kind : f.kind ≠ .io
  status : f.status = none
  hint : f.hint ≠ some reachableHint

/-- The failure to read a file that holds `what`. -/
def unreadable (what path : String) (fault : FileFault) : Failure :=
  { kind := fault.kind, message := some ("failed to read " ++ what ++ " file " ++ path),
    causes := [fault.cause] }

/-- A failure in which no server has a part, with the files that it may be about. -/
inductive IsLocal (files : Files) (paths : List String) : Failure → Prop where
  | own {f : Failure} (own : IsOwn f) : IsLocal files paths f
  | file (what : String) {path : String} {fault : FileFault} (listed : path ∈ paths)
      (faulty : files.text? path = .error fault) :
      IsLocal files paths (unreadable what path fault)

theorem IsLocal.status {files : Files} {paths : List String} {f : Failure}
    (h : IsLocal files paths f) : f.status = none := by
  cases h with
  | own own => exact own.status
  | file => rfl

theorem isOwn_bare {f : Failure} (hkind : f.kind ≠ .io) (hstatus : f.status = none)
    (hhint : f.hint = none) : IsOwn f := by
  refine ⟨hkind, hstatus, ?_⟩
  rw [hhint]
  nofun

/-! ## Values and settings -/

theorem own_invalidPort (e : Settings.InvalidPort) : IsOwn e.failure := by
  refine ⟨nofun, rfl, ?_⟩
  show some ("Set " ++ Settings.localPortVariable ++ " to a port between 1 and 65535.") ≠ _
  decide

theorem own_readJson (parameter text : String) : FailsBy IsOwn (readJson parameter text) := by
  unfold readJson
  split
  · exact failsBy_ok _
  · exact failsBy_error (isOwn_bare nofun rfl rfl)

theorem own_variables (text : Option String) : FailsBy IsOwn (readVariables text) := by
  cases text with
  | none => exact failsBy_ok none
  | some text => exact (own_readJson "--variables" text).map some

theorem own_settings (env : Settings.Environment) (apiUrl : Option String) :
    FailsBy IsOwn (Settings.ofEnvironment env apiUrl) := by
  unfold Settings.ofEnvironment
  split
  · exact failsBy_error (own_invalidPort _)
  · exact failsBy_ok _

theorem own_endpoints (raw : String) : FailsBy IsOwn (Gateway.endpoints raw) := by
  have hbase : FailsBy IsOwn (Gateway.baseUrl raw) := by
    unfold Gateway.baseUrl
    split
    · exact failsBy_error (isOwn_bare nofun rfl rfl)
    · exact failsBy_error (isOwn_bare nofun rfl rfl)
    · exact failsBy_ok _
  unfold Gateway.endpoints
  split
  · rename_i f hf
    exact hbase.error hf
  · exact failsBy_ok _

theorem own_runnerUrl (r : Runner) (port : Option Nat) : FailsBy IsOwn (r.url port) := by
  unfold Runner.url
  dsimp only
  split
  · exact failsBy_error (isOwn_bare nofun rfl rfl)
  · exact failsBy_ok _
  · exact failsBy_error (isOwn_bare nofun rfl rfl)

/-! ## Files -/

section

variable {files : Files} {paths : List String}

theorem local_files (what : String) {path : String} (h : path ∈ paths) :
    FailsBy (IsLocal files paths) (files.read what path) := by
  unfold Files.read
  split
  · exact failsBy_ok _
  · rename_i fault hfault
    exact failsBy_error (.file what h hfault)

theorem local_source (what : String) {source : Source} (h : ∀ path ∈ source.paths, path ∈ paths) :
    FailsBy (IsLocal files paths) (source.read files what) := by
  cases source with
  | text s => exact failsBy_ok s
  | file path => exact local_files what (h path List.mem_cons_self)

theorem local_sourceJson (what textName fileName : String) {source : Source}
    (h : ∀ path ∈ source.paths, path ∈ paths) :
    FailsBy (IsLocal files paths) (source.readJson files what textName fileName) := by
  cases source with
  | text s => exact (own_readJson textName s).mono fun _ => .own
  | file path =>
    unfold Source.readJson
    dsimp only
    split
    · rename_i f hf
      exact (local_files what (h path List.mem_cons_self)).error hf
    · exact (own_readJson fileName _).mono fun _ => .own

end

/-! ## Plans -/

theorem local_planQuery (w : World) (apiUrl : Option String) (document : Source)
    (vars : Option String) :
    FailsBy (IsLocal w.files document.paths) (planQuery w apiUrl document vars) :=
  ((own_settings w.environment apiUrl).mono fun _ => .own).bind fun settings =>
    (local_source "query" fun _ h => h).bind fun _ =>
      ((own_variables vars).mono fun _ => .own).bind fun _ =>
        ((own_endpoints settings.baseUrl).mono fun _ => .own).bind fun _ => failsBy_ok _

theorem local_planRun (w : World) (apiUrl : Option String) (code graph : Source)
    (port : Option Nat) (host : String) :
    FailsBy (IsLocal w.files (code.paths ++ graph.paths))
      (planRun w apiUrl code graph port host) :=
  ((own_settings w.environment apiUrl).mono fun _ => .own).bind fun _ =>
    (local_source "code" fun _ => List.mem_append_left _).bind fun _ =>
      (local_sourceJson "graph" "--graph-json" "--graph-file"
        fun _ => List.mem_append_right _).bind fun _ => failsBy_ok _

/-! ## Result sets -/

theorem own_objectsOf (records : List Record) : FailsBy IsOwn (Store.objectsOf records) := by
  induction records with
  | nil => exact failsBy_ok []
  | cons r rest ih =>
    have hobject : FailsBy IsOwn r.toObject := by
      unfold Record.toObject Result.parse
      split
      · exact failsBy_ok _
      · rename_i f hf
        apply failsBy_error
        split at hf
        · cases hf
        · split at hf <;> cases hf
          exact isOwn_bare nofun rfl rfl
    unfold Store.objectsOf
    split
    · rename_i f hf
      exact hobject.error hf
    · split
      · rename_i f hf
        exact ih.error hf
      · exact failsBy_ok _

theorem own_loadEntries (store : Store) (entries : List Entry) (ids : FreshIds) :
    FailsBy IsOwn (store.loadEntries entries ids).1.result := by
  have hload : ∀ records, FailsBy IsOwn (store.load records).result := by
    intro records
    unfold Store.load
    split
    · rename_i f hf
      exact (own_objectsOf records).error hf
    · exact failsBy_ok ()
  exact (hload _).map _

theorem own_loadOptional (data : Option Json) (field : Option String) (ids : FreshIds) :
    FailsBy IsOwn (loadOptional data field ids).1 := by
  cases field with
  | none => exact failsBy_ok none
  | some field =>
    unfold loadOptional loadField
    dsimp only
    split
    · exact failsBy_ok none
    · split
      · exact failsBy_error (isOwn_bare nofun rfl rfl)
      · exact (own_loadEntries Store.empty _ ids).map some

theorem own_showSet (store : Store) (keys : Option Keys) (summary : Store.Summary) :
    FailsBy IsOwn (showSet store keys summary) := by
  cases keys with
  | none => exact failsBy_ok _
  | some k =>
    unfold showSet recordJson
    dsimp only
    split
    · exact failsBy_ok _
    · exact failsBy_error (isOwn_bare nofun rfl rfl)

theorem local_readSet (w : World) (path : String) :
    FailsBy (IsLocal w.files [path]) (readSet w path) := by
  apply (local_files "query data" List.mem_cons_self).bind
  intro text
  split
  · exact failsBy_ok _
  · exact failsBy_error (.own (isOwn_bare nofun rfl rfl))

/-- A command without a server fails by itself, or at its file. -/
theorem local_executeResults (w : World) (path : String) (keys : Option Keys) :
    FailsBy (IsLocal w.files [path]) (executeResults w path keys).result := by
  unfold executeResults
  split
  · rename_i f hf
    exact (local_readSet w path).error hf
  · exact (((own_loadEntries Store.empty _ w.ids).bind (own_showSet _ keys)).mono
      fun _ => .own)

end ResultGateway.CommandLine
