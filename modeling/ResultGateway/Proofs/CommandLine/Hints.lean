-- The hint to check the server. It is given with each failure of input or
-- output that a command ends with. Such a failure is that of a call, and
-- names the URL of the call; or it is that of a file, which is there and may
-- be read but holds no text, and then no server has a part in it.
import Mathlib
import ResultGateway.Proofs.CommandLine.Plans
import ResultGateway.Proofs.CommandLine.SetSources
import ResultGateway.Proofs.Gateway.Failures

namespace ResultGateway.CommandLine

open Gateway (fetchToken postQuery rejectedHint)

/-! ## Failures of calls -/

/-- A failure that a command ends with because a call of it does, and the URL of the call: that of
tokens, that of queries, or that of the run server. -/
inductive Command.FailsAt (w : World) (apiUrl : Option String) :
    Command → Url → Failure → Prop where
  | token {document : Source} {vars : Option String} (field : Option String) {plan : QueryPlan}
      {base : Url} {f : Failure} (planned : plan.IsFor w apiUrl document vars)
      (under : plan.endpoints = .ofBase base)
      (failed : (fetchToken w.network (.ofBase base) ⟨w.replies, []⟩).result = .error f) :
      FailsAt w apiUrl (.query document vars field) (base.endpoint "csrf") f
  | query {document : Source} {vars : Option String} (field : Option String) {plan : QueryPlan}
      {base : Url} {token : String} {f : Failure} (planned : plan.IsFor w apiUrl document vars)
      (under : plan.endpoints = .ofBase base)
      (fetched : (fetchToken w.network (.ofBase base) ⟨w.replies, []⟩).result = .ok token)
      (failed : (postQuery w.network (.ofBase base) token plan.document plan.vars
        (fetchToken w.network (.ofBase base) ⟨w.replies, []⟩).wire).result = .error f) :
      FailsAt w apiUrl (.query document vars field) (base.endpoint "graphql") f
  | run {code graph : Source} {port : Option Nat} {host : String} {plan : RunPlan} {url : Url}
      {f : Failure} (planned : plan.IsFor w code graph port host)
      (addressed : plan.runner.url none = .ok url)
      (failed : (plan.runner.run w.network plan.code plan.graph none ⟨w.replies, []⟩).result =
        .error f) :
      FailsAt w apiUrl (.run code graph port host) url f

/-- A failure has no hint, or one of its own, as a refused one may. -/
def HasNoHintOrItsOwn (f : Failure) : Prop :=
  f.hint = none ∨ f.kind = .permission ∧ f.hint = some rejectedHint

theorem readReply_hint {α : Type} {read : Json.Reader α} {cause : Failure.Cause} {url : Url}
    {final : Option Http.Reply} {f : Failure}
    (h : Gateway.readReply read cause url final = .error f) : f.hint = none := by
  have hhint := (Gateway.readReply_explains h).hint
  simpa using hhint

theorem hintRejected_hint {f : Failure} (h : f.hint = none) :
    HasNoHintOrItsOwn (Gateway.hintRejected f) := by
  unfold Gateway.hintRejected
  split
  · rename_i hkind
    exact .inr ⟨hkind, rfl⟩
  · exact .inl h

section

variable {w : World} {apiUrl : Option String} {command : Command} {called : Url} {f : Failure}

/-- The failure of a call names the URL of the call. -/
theorem Command.FailsAt.url (h : command.FailsAt w apiUrl called f) :
    f.url = some called.text := by
  cases h with
  | token _ _ _ failed => exact (Gateway.fetchToken_explains failed).url
  | query _ _ _ _ failed => exact (Gateway.postQuery_explains failed).url
  | run _ addressed failed =>
    rw [Gateway.run_result _ _ _ _ _ _ addressed] at failed
    exact (Gateway.readReply_explains failed).url

theorem Command.FailsAt.hint (h : command.FailsAt w apiUrl called f) : HasNoHintOrItsOwn f := by
  cases h with
  | token _ _ _ failed =>
    rw [Gateway.fetchToken_result] at failed
    exact .inl (readReply_hint failed)
  | query _ _ _ _ failed =>
    obtain ⟨g, hg, rfl⟩ := Gateway.postQuery_error _ _ _ _ _ _ failed
    exact hintRejected_hint (readReply_hint hg)
  | run _ addressed failed =>
    rw [Gateway.run_result _ _ _ _ _ _ addressed] at failed
    exact .inl (readReply_hint failed)

end

/-! ## Where failures come from -/

section

variable {w : World} {apiUrl : Option String}

theorem query_failsAt {document : Source} {vars : Option String} {plan : QueryPlan} {f : Failure}
    (field : Option String) (planned : plan.IsFor w apiUrl document vars)
    (h : (Gateway.query w.network plan.endpoints {} plan.document plan.vars
      ⟨w.replies, []⟩).1.result = .error f) :
    ∃ url, (Command.query document vars field).FailsAt w apiUrl url f := by
  obtain ⟨url, -, hunder⟩ := planned.endpoints
  have hcases := Gateway.query_cases w.network plan.endpoints {} ⟨w.replies, []⟩ plan.document
    plan.vars
  rw [Gateway.ensureToken_eq_fetchToken _ _ _ _ rfl, hunder] at hcases
  rw [hunder] at h
  rcases hcases with ⟨g, hg, hresult, -⟩ | ⟨token, htoken, hresult, -⟩
  · rw [hresult] at h
    cases h
    exact ⟨_, .token field planned hunder hg⟩
  · rw [hresult] at h
    exact ⟨_, .query field planned hunder htoken h⟩

/-- A command ends with the failure of a call, or with one that no server has a part in. -/
theorem failsAt_or_isLocal {command : Command} {e : Execution} {f : Failure}
    (he : command.execution? w apiUrl = some e) (h : e.result = .error f) :
    (∃ url, command.FailsAt w apiUrl url f) ∨ IsLocal w.files command.paths f := by
  cases command with
  | query document vars field =>
    cases he
    cases hplan : planQuery w apiUrl document vars with
    | error g =>
      unfold executeQuery at h
      rw [hplan] at h
      cases h
      exact .inr (local_planQuery w apiUrl document vars f hplan)
    | ok plan =>
      unfold executeQuery at h
      rw [hplan] at h
      dsimp only at h
      split at h
      · rename_i g hg
        cases h
        exact .inl (query_failsAt field (planQuery_eq_ok.mp hplan) hg)
      · exact .inr (.own (((own_loadOptional _ field w.ids).map _) f h))
  | run code graph port host =>
    cases he
    cases hplan : planRun w apiUrl code graph port host with
    | error g =>
      unfold executeRun at h
      rw [hplan] at h
      cases h
      exact .inr (local_planRun w apiUrl code graph port host f hplan)
    | ok plan =>
      rw [executeRun_planned hplan rfl] at h
      cases hurl : plan.runner.url none with
      | error g =>
        unfold Gateway.Runner.run at h
        rw [hurl] at h
        cases h
        exact .inr (.own (own_runnerUrl plan.runner none f hurl))
      | ok url => exact .inl ⟨url, .run (planRun_eq_ok.mp hplan) hurl h⟩
  | results path keys =>
    cases he
    exact .inr (local_executeResults w path keys f h)
  | version =>
    cases he
    cases h
  | completion shell => cases he

end

/-! ## The hint -/

theorem hintReachable_hint {f : Failure} (h : HasNoHintOrItsOwn f) :
    (hintReachable f).hint = some reachableHint ↔ f.kind = .io := by
  unfold hintReachable
  rcases h with hnone | ⟨hkind, hown⟩
  · by_cases hio : f.kind = .io
    · simp [hio, hnone]
    · simp [hio, hnone]
  · have hne : rejectedHint ≠ reachableHint := by decide
    simp [hkind, hown, hne]

theorem hintReachable_own {f : Failure} (h : IsOwn f) :
    (hintReachable f).hint ≠ some reachableHint := by
  rw [hintReachable_eq_self h.kind]
  exact h.hint

/-- The faults of a file that is there and may be read. -/
theorem fault_kind {fault : FileFault} :
    fault.kind = .io ↔ fault ≠ .missing ∧ fault ≠ .denied := by
  cases fault <;> simp [FileFault.kind]

/-- A failure for which the server is to be checked. -/
inductive Command.IsHinted (w : World) (apiUrl : Option String) (command : Command) :
    Failure → Prop where
  | call {url : Url} {f : Failure} (kind : f.kind = .io)
      (fails : command.FailsAt w apiUrl url f) (named : f.url = some url.text) :
      IsHinted w apiUrl command f
  | file (what : String) {path : String} {fault : FileFault} (listed : path ∈ command.paths)
      (faulty : w.files.text? path = .error fault) (present : fault ≠ .missing)
      (readable : fault ≠ .denied) : IsHinted w apiUrl command (unreadable what path fault)

theorem isHinted_iff {w : World} {apiUrl : Option String} {command : Command} {e : Execution}
    {f : Failure} (he : command.execution? w apiUrl = some e) (h : e.result = .error f) :
    (hintReachable f).hint = some reachableHint ↔ command.IsHinted w apiUrl f := by
  constructor
  · intro hhint
    rcases failsAt_or_isLocal he h with ⟨url, hfails⟩ | hlocal
    · exact .call ((hintReachable_hint hfails.hint).mp hhint) hfails hfails.url
    · cases hlocal with
      | own own => exact absurd hhint (hintReachable_own own)
      | file what listed faulty =>
        obtain ⟨hpresent, hreadable⟩ := fault_kind.mp ((hintReachable_hint (.inl rfl)).mp hhint)
        exact .file what listed faulty hpresent hreadable
  · intro hhinted
    cases hhinted with
    | call kind fails => exact (hintReachable_hint fails.hint).mpr kind
    | file what listed faulty present readable =>
      exact (hintReachable_hint (.inl rfl)).mpr (fault_kind.mpr ⟨present, readable⟩)

theorem results_failsAt {w : World} {path : String} {fault : FileFault}
    (h : w.files.text? path = .error fault) (keys : Option Result.Keys) :
    (executeResults w path keys).result = .error (unreadable "query data" path fault) := by
  have hread : readSet w path = .error (unreadable "query data" path fault) := by
    unfold readSet Files.read
    rw [h]
    rfl
  unfold executeResults
  rw [hread]

theorem results_isHinted {w : World} {apiUrl : Option String} {path : String}
    {keys : Option Result.Keys} {f : Failure}
    (h : (executeResults w path keys).result = .error f) :
    (Command.results path keys).IsHinted w apiUrl f ↔
      ∃ fault, w.files.text? path = .error fault ∧ fault ≠ .missing ∧ fault ≠ .denied := by
  constructor
  · intro hhinted
    cases hhinted with
    | call _ fails => cases fails
    | file _ listed faulty present readable =>
      rw [List.mem_singleton.mp listed] at faulty
      exact ⟨_, faulty, present, readable⟩
  · rintro ⟨fault, hfaulty, hpresent, hreadable⟩
    rw [results_failsAt hfaulty keys] at h
    cases h
    exact .file "query data" List.mem_cons_self hfaulty hpresent hreadable

/-! ## The law -/

/-- A report has the hint to check the server if and only if its failure is one of input or output
that a call ended with, and then it names the URL of the call; or it is that of a file which is
there and may be read, but holds no text. So the report of a command that works on a file only has
the hint for such a file, and for no other reason. Arguments that are no request never get it. -/
theorem the_hint_to_check_the_server_is_given_at_calls_and_at_files (w : World) (c : Console)
    (args : List String) :
    (∀ invocation e f, Request.ofArguments args = .ok (.run invocation) →
      invocation.command.execution? w invocation.apiUrl = some e → e.result = .error f →
      (run w c args).ShowsFailure (c.display invocation.color) (hintReachable f) ∧
      ((hintReachable f).hint = some reachableHint ↔
        invocation.command.IsHinted w invocation.apiUrl f)) ∧
    (∀ apiUrl color path keys f,
      Request.ofArguments args = .ok (.run ⟨apiUrl, color, .results path keys⟩) →
      (executeResults w path keys).result = .error f →
      (run w c args).ShowsFailure (c.display color) (hintReachable f) ∧
      ((hintReachable f).hint = some reachableHint ↔
        ∃ fault, w.files.text? path = .error fault ∧ fault ≠ .missing ∧ fault ≠ .denied)) ∧
    (∀ e, Request.ofArguments args = .error e →
      (run w c args).ShowsFailure (c.display .auto) e.failure ∧
      e.failure.hint ≠ some reachableHint) := by
  refine ⟨?_, ?_, ?_⟩
  · intro invocation e f hargs he h
    exact ⟨run_showsFailure hargs he h, isHinted_iff he h⟩
  · intro apiUrl color path keys f hargs h
    have he : (Command.results path keys).execution? w apiUrl = some (executeResults w path keys) :=
      rfl
    exact ⟨run_showsFailure hargs he h, (isHinted_iff he h).trans (results_isHinted h)⟩
  · intro e hargs
    obtain ⟨log, hrun⟩ := run_of_error (w := w) (c := c) hargs
    have hhint : some UsageError.helpHint ≠ some reachableHint := by decide
    refine ⟨?_, hhint⟩
    rw [hrun]
    exact ⟨rfl, rfl, rfl⟩

/-! ## A run and a directory -/

/-- What a call meets where there is no server. -/
def refusedConnection : Failure.Cause := .other "Connection refused" none

/-- A world without a network, in which every path is that of a directory. -/
def directoryWorld : World :=
  { refusingWorld with
    files := fun _ => .error .isDirectory
    network := { reaches := fun _ => false, now := 0, cause := fun _ _ => refusedConnection } }

def directoryArguments : List String := ["results", "--query-data", "d"]

/-- A run whose server is not there gets the hint, and so does a directory. -/
theorem an_absent_server_and_a_directory_get_the_same_hint :
    (Command.run (.text "c") (.text "null") none "[::1]").IsHinted directoryWorld none
      (Gateway.unanswered refusedConnection Gateway.sampleRunUrl) ∧
    (run directoryWorld plainConsole directoryArguments).ShowsFailure (plainConsole.display .auto)
      (hintReachable (unreadable "query data" "d" .isDirectory)) ∧
    (hintReachable (unreadable "query data" "d" .isDirectory)).hint = some reachableHint ∧
    (UsageError.unrecognizedCommand "sing").failure.hint ≠ some reachableHint := by
  have hlaw := the_hint_to_check_the_server_is_given_at_calls_and_at_files directoryWorld
    plainConsole
  have hfaulty : directoryWorld.files.text? "d" = .error .isDirectory := rfl
  have hunanswered : (executeRun directoryWorld none (.text "c") (.text "null") none
      "[::1]").result = .error (Gateway.unanswered refusedConnection Gateway.sampleRunUrl) := by cbv
  obtain ⟨-, hrun⟩ := (hlaw refusedArguments).1
    ⟨none, .auto, .run (.text "c") (.text "null") none "[::1]"⟩ _ _ (by cbv) rfl hunanswered
  obtain ⟨hshows, hdirectory⟩ := (hlaw directoryArguments).2.1 none .auto "d" none _ (by cbv)
    (results_failsAt hfaulty none)
  refine ⟨hrun.mp rfl, hshows, ?_, ?_⟩
  · exact hdirectory.mpr ⟨_, hfaulty, by simp, by simp⟩
  · exact ((hlaw ["sing"]).2.2 (.unrecognizedCommand "sing") (by cbv)).2

/-- A command that makes no request sends its user to check a server, over a directory. -/
theorem a_directory_is_taken_for_an_absent_server :
    (run directoryWorld plainConsole directoryArguments).exitCode = 6 ∧
    (run directoryWorld plainConsole directoryArguments).requests = [] ∧
    (run directoryWorld plainConsole directoryArguments).stderr =
      "\x7b\"error\":\x7b\"causes\":[\"Is a directory (os error 21)\"],"
        ++ "\"hint\":\"Check that the server is running and reachable (see --api-url / --port).\","
        ++ "\"kind\":\"Io\",\"message\":\"failed to read query data file d\"\x7d\x7d\n" := by
  refine ⟨?_, ?_, ?_⟩
  · cbv
  · cbv
  · cbv

end ResultGateway.CommandLine
