-- Settings that a command has no use for. A run does not look at the URL
-- of the API, wherever it is given. A query, and a run that names its
-- port, have no use for the port of the environment: all values of the
-- variable that can be used leave the same answer. One that cannot be used
-- is refused before anything else is looked at, by those commands too.
import ResultGateway.Proofs.CommandLine.Outcome
import ResultGateway.Proofs.Settings

namespace ResultGateway.CommandLine

open Settings (chooseLocalPort InvalidPort IsUnusable Names)

/-! ## Other surroundings -/

/-- The same world, with another value of the variable for the port. -/
def World.withLocalPort (w : World) (value : Option String) : World :=
  { w with environment := { w.environment with localPort := value } }

/-- The same world, with another value of the variable for the URL of the API. -/
def World.withApiUrl (w : World) (value : Option String) : World :=
  { w with environment := { w.environment with apiUrl := value } }

/-- A query or a run, which get their settings together first. -/
def Command.NeedsSettings : Command → Prop
  | .query _ _ _ | .run _ _ _ _ => True
  | .results _ _ | .version | .completion _ => False

/-- A query, or a run that names its port. -/
def Command.HasNoUseForPort : Command → Prop
  | .query _ _ _ => True
  | .run _ _ port _ => port.isSome = true
  | .results _ _ | .version | .completion _ => False

/-! ## The URL of the API -/

section

variable (w : World) (apiUrl apiUrl' value value' : Option String) (code graph : Source)
  (port : Option Nat) (host : String)

theorem planRun_apiUrl : planRun (w.withApiUrl value) apiUrl code graph port host =
    planRun (w.withApiUrl value') apiUrl' code graph port host := by
  unfold planRun Settings.ofEnvironment World.withApiUrl
  cases chooseLocalPort none w.environment.localPort with
  | error e => rfl
  | ok localPort => rfl

theorem executeRun_apiUrl : executeRun (w.withApiUrl value) apiUrl code graph port host =
    executeRun (w.withApiUrl value') apiUrl' code graph port host := by
  unfold executeRun
  rw [planRun_apiUrl w apiUrl apiUrl' value value' code graph port host]
  rfl

end

/-! ## Values of the port that can be used -/

section

variable (w : World) {apiUrl value value' : Option String} {port port' : Nat}
  (h : Names port value) (h' : Names port' value')

include h h'

theorem planQuery_localPort (document : Source) (vars : Option String) :
    planQuery (w.withLocalPort value) apiUrl document vars =
      planQuery (w.withLocalPort value') apiUrl document vars := by
  unfold planQuery Settings.ofEnvironment World.withLocalPort
  rw [Settings.chooseLocalPort_eq_ok.mpr h, Settings.chooseLocalPort_eq_ok.mpr h']
  rfl

theorem executeQuery_localPort (document : Source) (vars field : Option String) :
    executeQuery (w.withLocalPort value) apiUrl document vars field =
      executeQuery (w.withLocalPort value') apiUrl document vars field := by
  unfold executeQuery
  rw [planQuery_localPort w h h' document vars]
  rfl

theorem planRun_localPort (code graph : Source) (own : Nat) (host : String) :
    planRun (w.withLocalPort value) apiUrl code graph (some own) host =
      planRun (w.withLocalPort value') apiUrl code graph (some own) host := by
  unfold planRun Settings.ofEnvironment World.withLocalPort
  rw [Settings.chooseLocalPort_eq_ok.mpr h, Settings.chooseLocalPort_eq_ok.mpr h']
  rfl

theorem executeRun_localPort (code graph : Source) (own : Nat) (host : String) :
    executeRun (w.withLocalPort value) apiUrl code graph (some own) host =
      executeRun (w.withLocalPort value') apiUrl code graph (some own) host := by
  unfold executeRun
  rw [planRun_localPort w h h' code graph own host]
  rfl

theorem runCommand_localPort (d : Display) {command : Command} (hunused : command.HasNoUseForPort) :
    runCommand (w.withLocalPort value) d apiUrl command =
      runCommand (w.withLocalPort value') d apiUrl command := by
  cases command with
  | query document vars field =>
    exact congrArg d.answer (executeQuery_localPort w h h' document vars field)
  | run code graph own host =>
    obtain ⟨own, rfl⟩ := Option.isSome_iff_exists.mp hunused
    exact congrArg d.answer (executeRun_localPort w h h' code graph own host)
  | results => exact hunused.elim
  | version => exact hunused.elim
  | completion => exact hunused.elim

end

/-! ## Values of the port that cannot be used -/

section

variable {w : World} {e : InvalidPort} (h : chooseLocalPort none w.environment.localPort = .error e)

include h

theorem ofEnvironment_invalidPort (apiUrl : Option String) :
    Settings.ofEnvironment w.environment apiUrl = .error e.failure := by
  unfold Settings.ofEnvironment
  rw [h]

/-- Neither a file nor the network is asked for anything. -/
theorem execution_invalidPort (apiUrl : Option String) {command : Command}
    (hneeds : command.NeedsSettings) :
    command.execution? w apiUrl = some { result := .error e.failure } := by
  cases command with
  | query document vars field =>
    have hplan : planQuery w apiUrl document vars = .error e.failure := by
      unfold planQuery
      rw [ofEnvironment_invalidPort h apiUrl]
      rfl
    show some (executeQuery w apiUrl document vars field) = _
    unfold executeQuery
    rw [hplan]
  | run code graph port host =>
    have hplan : planRun w apiUrl code graph port host = .error e.failure := by
      unfold planRun
      rw [ofEnvironment_invalidPort h apiUrl]
      rfl
    show some (executeRun w apiUrl code graph port host) = _
    unfold executeRun
    rw [hplan]
  | results => exact hneeds.elim
  | version => exact hneeds.elim
  | completion => exact hneeds.elim

theorem runCommand_invalidPort (d : Display) (apiUrl : Option String) {command : Command}
    (hneeds : command.NeedsSettings) : runCommand w d apiUrl command =
      { exitCode := Failure.Kind.usage.exitCode, stderr := d.failure e.failure } := by
  rw [runCommand_eq (execution_invalidPort h apiUrl hneeds)]
  rfl

end

/-! ## The law -/

theorem run_eq_of_runRequest {w w' : World} {c : Console} {args args' : List String}
    {request request' : Request} (h : Request.ofArguments args = .ok request)
    (h' : Request.ofArguments args' = .ok request')
    (heq : runRequest w c request = runRequest w' c request') : run w c args = run w' c args' := by
  unfold run
  rw [h, h']
  simp only [heq]

/-- A run gives the same answer for all URLs of the API. A query, and a run that names its port,
give the same answer for all values of the variable that stand for a port; any other value makes
them fail before they ask for anything, as it does a run without a port. -/
theorem a_setting_without_use_only_reaches_a_command_when_it_is_no_port (w : World) (c : Console)
    {args : List String} {invocation : Invocation}
    (hargs : Request.ofArguments args = .ok (.run invocation)) :
    (∀ code graph port host, invocation.command = .run code graph port host →
      ∀ args' apiUrl',
        Request.ofArguments args' = .ok (.run { invocation with apiUrl := apiUrl' }) →
        ∀ value value', run (w.withApiUrl value) c args = run (w.withApiUrl value') c args') ∧
    (invocation.command.HasNoUseForPort → ∀ value value' port port',
      Names port value → Names port' value' →
        run (w.withLocalPort value) c args = run (w.withLocalPort value') c args) ∧
    (invocation.command.NeedsSettings → ∀ value, IsUnusable value →
      ∃ text, value = some text ∧ run (w.withLocalPort value) c args =
        { exitCode := 2
          stderr := (c.display invocation.color).failure (InvalidPort.mk (Text.trim text)).failure
          stdout := "", log := [], requests := [] }) := by
  refine ⟨?_, ?_, ?_⟩
  · intro code graph port host hcommand args' apiUrl' hargs' value value'
    apply run_eq_of_runRequest hargs hargs'
    unfold runRequest runCommand
    simp only [hcommand]
    rw [executeRun_apiUrl w invocation.apiUrl apiUrl' value value' code graph port host]
  · intro hunused value value' port port' h h'
    apply run_eq_of_runRequest hargs hargs
    exact runCommand_localPort w h h' (c.display invocation.color) hunused
  · intro hneeds value hunusable
    obtain ⟨text, hvalue, hchosen⟩ := Settings.chooseLocalPort_unusable hunusable
    refine ⟨text, hvalue, ?_⟩
    unfold run
    rw [hargs]
    simp only [runRequest]
    rw [runCommand_invalidPort (w := w.withLocalPort value) hchosen _ _ hneeds]
    rfl

/-! ## Four commands -/

def bareQueryArguments : List String := ["--api-url", "http://[::1]/", "query", "--query", "q"]

/-- The same run as `refusedArguments`, with a port of its own. -/
def portArguments : List String := refusedArguments ++ ["--port", "8080"]

/-- No value of the variable that is a port changes what a query and a run with a port do. -/
theorem ports_of_the_environment_leave_two_commands_alone :
    run (refusingWorld.withLocalPort (some " +80 ")) plainConsole portArguments =
      run (refusingWorld.withLocalPort none) plainConsole portArguments ∧
    run (refusingWorld.withLocalPort (some " +80 ")) plainConsole bareQueryArguments =
      run (refusingWorld.withLocalPort none) plainConsole bareQueryArguments ∧
    run (refusingWorld.withApiUrl (some "x")) plainConsole portArguments =
      run (refusingWorld.withApiUrl none) plainConsole ("--api-url" :: "y" :: portArguments) ∧
    (run (refusingWorld.withLocalPort (some "x")) plainConsole refusedArguments).exitCode = 2 := by
  have hport : Names 80 (some " +80 ") := Settings.chooseLocalPort_eq_ok.mp (by cbv)
  have hnone : Names Settings.defaultLocalPort none := .unset rfl
  have hunusable : IsUnusable (some "x") := Settings.isUnusable_of_eq_error (e := ⟨"x"⟩) (by cbv)
  have hlaw : ∀ args invocation, Request.ofArguments args = .ok (.run invocation) → _ :=
    fun args invocation hargs =>
      a_setting_without_use_only_reaches_a_command_when_it_is_no_port refusingWorld plainConsole
        hargs
  have hown := hlaw portArguments
    ⟨none, .auto, .run (.text "c") (.text "null") (some 8080) "[::1]"⟩ (by cbv)
  have hquery := hlaw bareQueryArguments
    ⟨some "http://[::1]/", .auto, .query (.text "q") none none⟩ (by cbv)
  have hrefused := hlaw refusedArguments
    ⟨none, .auto, .run (.text "c") (.text "null") none "[::1]"⟩ (by cbv)
  refine ⟨?_, ?_, ?_, ?_⟩
  · exact hown.2.1 rfl _ _ _ _ hport hnone
  · exact hquery.2.1 trivial _ _ _ _ hport hnone
  · exact hown.1 _ _ _ _ rfl _ (some "y") (by cbv) (some "x") none
  · obtain ⟨text, -, hrun⟩ := hrefused.2.2 trivial _ hunusable
    rw [hrun]

/-- The exit code and the number of requests, for a value of the variable. -/
def exitAndRequests (value : Option String) (args : List String) : Nat × Nat :=
  let answer := run (refusingWorld.withLocalPort value) plainConsole args
  (answer.exitCode, answer.requests.length)

/-- Both commands make their request as long as the variable is not set. A value that neither has
a use for keeps both from it, and they exit with another code. -/
theorem a_port_without_use_refuses_two_commands :
    exitAndRequests none portArguments = (4, 1) ∧
    exitAndRequests (some "x") portArguments = (2, 0) ∧
    exitAndRequests none bareQueryArguments = (4, 1) ∧
    exitAndRequests (some "x") bareQueryArguments = (2, 0) := by
  refine ⟨?_, ?_, ?_, ?_⟩
  · cbv
  · cbv
  · cbv
  · cbv

end ResultGateway.CommandLine
