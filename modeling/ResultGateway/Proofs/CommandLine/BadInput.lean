-- What a command needs before it asks the network for anything. A query
-- needs its document, its variables and the URL of the API; a run needs its
-- port, its code, its graph and the URL of its server. As long as one of
-- them is at fault, the command fails and makes no request, whatever else
-- is at fault. Once none is, the command starts with its first call.
import Mathlib
import ResultGateway.Proofs.CommandLine.Plans
import ResultGateway.Proofs.CommandLine.SetSources
import ResultGateway.Proofs.CommandLine.UnusedSettings
import ResultGateway.Proofs.Gateway.Failures

namespace ResultGateway.CommandLine

open Gateway (Outcome Runner runCall tokenCall)
open Http (Call Network Wire)
open Json (IsDocument)
open Settings (IsUnusable Names chooseApiUrl)

/-! ## What is given -/

/-- A source that gives no text: a file that is not there, that cannot be read, or that holds other
bytes than those of a text. -/
def Source.IsUnreadable (files : Files) (source : Source) : Prop := ∀ s, ¬ source.Gives files s

/-- A text that is no JSON document, or one beyond the limits of the reader. -/
def IsNoDocument (text : String) : Prop := ∀ written, ¬ IsDocument text written

/-- A text that is no URL, or none for the web. -/
def IsNoWebUrl (text : String) : Prop := ∀ url, Url.parse text ≠ .ok (.web url)

/-- The port that a run uses: its own one, or else the one that the variable stands for. -/
inductive UsesPort (value : Option String) : Option Nat → Nat → Prop where
  | own (port : Nat) : UsesPort value (some port) port
  | named {port : Nat} (names : Names port value) : UsesPort value none port

/-! ## Faults -/

/-- What is at fault with what a command is given. -/
inductive Command.IsAtFault (w : World) (apiUrl : Option String) : Command → Prop where
  | document {document : Source} (vars field : Option String)
      (unreadable : document.IsUnreadable w.files) : IsAtFault w apiUrl (.query document vars field)
  | vars (document : Source) {text : String} (field : Option String)
      (noDocument : IsNoDocument text) : IsAtFault w apiUrl (.query document (some text) field)
  | apiUrl (document : Source) (vars field : Option String)
      (noUrl : IsNoWebUrl (chooseApiUrl apiUrl w.environment.apiUrl)) :
      IsAtFault w apiUrl (.query document vars field)
  | port (code graph : Source) (host : String) (unusable : IsUnusable w.environment.localPort) :
      IsAtFault w apiUrl (.run code graph none host)
  | code {code : Source} (graph : Source) (port : Option Nat) (host : String)
      (unreadable : code.IsUnreadable w.files) : IsAtFault w apiUrl (.run code graph port host)
  | graph (code : Source) {graph : Source} (port : Option Nat) (host : String)
      (unreadable : graph.IsUnreadable w.files) : IsAtFault w apiUrl (.run code graph port host)
  | graphText (code : Source) {graph : Source} (port : Option Nat) (host : String) {text : String}
      (gives : graph.Gives w.files text) (noDocument : IsNoDocument text) :
      IsAtFault w apiUrl (.run code graph port host)
  | host (code graph : Source) {port : Option Nat} {host : String} {used : Nat}
      (uses : UsesPort w.environment.localPort port used)
      (noUrl : IsNoWebUrl (Runner.rawUrl ⟨host, used⟩ none)) :
      IsAtFault w apiUrl (.run code graph port host)

/-! ## First calls -/

/-- The call that a command starts with: a query asks for a token, and a run posts its code. -/
inductive Command.FirstCall (w : World) (apiUrl : Option String) : Command → Call → Prop where
  | query (document : Source) (vars field : Option String) {url : Url}
      (reads : Url.parse (chooseApiUrl apiUrl w.environment.apiUrl) = .ok (.web url)) :
      FirstCall w apiUrl (.query document vars field) (tokenCall (.ofBase url.asBase))
  | run {code graph : Source} {port : Option Nat} {host s text : String} {written : Json}
      {used : Nat} {url : Url} (givesCode : code.Gives w.files s)
      (givesGraph : graph.Gives w.files text) (document : IsDocument text written)
      (uses : UsesPort w.environment.localPort port used)
      (reads : Url.parse (Runner.rawUrl ⟨host, used⟩ none) = .ok (.web url)) :
      FirstCall w apiUrl (.run code graph port host) (runCall url s written.sorted)

/-- An answer whose requests start with that of a call, which has no cookies yet. If the host of
the call is not reached, there are no requests, and the failure of the call is shown, over the
error of the network. -/
structure Answer.StartsWith (a : Answer) (d : Display) (w : World) (call : Call) : Prop where
  reached : w.network.reaches call.url = true →
    ∃ later, a.requests = call.request [] :: later
  unreached : w.network.reaches call.url = false → a.requests = [] ∧ a.ShowsFailure d
    (hintReachable (Gateway.unanswered (w.network.cause call ⟨w.replies, []⟩) call.url))

/-! ## Ports -/

section

variable {value : Option String} {port : Option Nat} {named : Nat} (hnamed : Names named value)

include hnamed

theorem UsesPort.eq_getD {used : Nat} (h : UsesPort value port used) : used = port.getD named := by
  cases h with
  | own port => rfl
  | named hused =>
    rw [← Settings.chooseLocalPort_eq_ok] at hused hnamed
    exact Except.ok.inj (hused.symm.trans hnamed)

theorem usesPort_getD : UsesPort value port (port.getD named) := by
  cases port with
  | none => exact .named hnamed
  | some port => exact .own port

end

/-! ## Faults -/

section

variable {w : World} {apiUrl : Option String}

/-- There is no plan for a query at fault. -/
theorem not_isFor_of_isAtFault {document : Source} {vars field : Option String}
    (h : (Command.query document vars field).IsAtFault w apiUrl) (plan : QueryPlan) :
    ¬ plan.IsFor w apiUrl document vars := by
  intro hplan
  cases h with
  | document _ _ unreadable => exact unreadable _ hplan.document
  | vars _ _ noDocument =>
    obtain ⟨written, hdocument⟩ := hplan.vars.document
    exact noDocument written hdocument
  | apiUrl _ _ _ noUrl =>
    obtain ⟨url, hurl, -⟩ := hplan.endpoints
    exact noUrl url hurl

/-- There may be a plan for a run at fault, but then its server has no URL. -/
theorem noWebUrl_of_isAtFault {code graph : Source} {port : Option Nat} {host : String}
    (h : (Command.run code graph port host).IsAtFault w apiUrl) {plan : RunPlan}
    (hplan : plan.IsFor w code graph port host) : IsNoWebUrl (plan.runner.rawUrl none) := by
  cases h with
  | port _ _ _ unusable =>
    obtain ⟨named, hnamed, -⟩ := hplan.runner
    exact absurd hnamed (unusable named)
  | code _ _ _ unreadable => exact absurd hplan.code (unreadable _)
  | graph _ _ _ unreadable =>
    obtain ⟨text, htext, -⟩ := hplan.graph
    exact absurd htext (unreadable text)
  | graphText _ _ _ gives noDocument =>
    obtain ⟨text, htext, written, hdocument, -⟩ := hplan.graph
    rw [← gives.unique htext] at hdocument
    exact absurd hdocument (noDocument written)
  | host _ _ uses noUrl =>
    obtain ⟨named, hnamed, hrunner⟩ := hplan.runner
    rw [hrunner, ← uses.eq_getD hnamed]
    exact noUrl

theorem url_of_noWebUrl {r : Runner} (h : IsNoWebUrl (r.rawUrl none)) :
    ∃ f, r.url none = .error f := by
  unfold Runner.url
  dsimp only
  split
  · exact ⟨_, rfl⟩
  · rename_i url hurl
    exact absurd hurl (h url)
  · exact ⟨_, rfl⟩

theorem execution_of_isAtFault {command : Command} (h : command.IsAtFault w apiUrl) :
    ∃ e f, command.execution? w apiUrl = some e ∧ e.requests = [] ∧ e.result = .error f := by
  cases command with
  | query document vars field =>
    cases hplan : planQuery w apiUrl document vars with
    | error f =>
      refine ⟨executeQuery w apiUrl document vars field, f, rfl, ?_⟩
      unfold executeQuery
      rw [hplan]
      exact ⟨rfl, rfl⟩
    | ok plan => exact absurd (planQuery_eq_ok.mp hplan) (not_isFor_of_isAtFault h plan)
  | run code graph port host =>
    cases hplan : planRun w apiUrl code graph port host with
    | error f =>
      refine ⟨executeRun w apiUrl code graph port host, f, rfl, ?_⟩
      unfold executeRun
      rw [hplan]
      exact ⟨rfl, rfl⟩
    | ok plan =>
      obtain ⟨f, hf⟩ := url_of_noWebUrl (noWebUrl_of_isAtFault h (planRun_eq_ok.mp hplan))
      have hrun : plan.runner.run w.network plan.code plan.graph none ⟨w.replies, []⟩ =
          ⟨.error f, [], ⟨w.replies, []⟩, []⟩ := by
        unfold Runner.run
        rw [hf]
      refine ⟨executeRun w apiUrl code graph port host, f, rfl, ?_⟩
      rw [executeRun_planned hplan hrun]
      exact ⟨rfl, rfl⟩
  | results path keys => cases h
  | version => cases h
  | completion shell => cases h

end

/-! ## Commands without requests -/

section

variable {w : World} {c : Console} {args : List String}

theorem run_without_use (h : ∀ invocation, Request.ofArguments args = .ok (.run invocation) →
    ¬ invocation.command.NeedsSettings) : (run w c args).requests = [] := by
  cases hargs : Request.ofArguments args with
  | error e =>
    obtain ⟨log, hrun⟩ := run_of_error (w := w) (c := c) hargs
    rw [hrun]
    rfl
  | ok request =>
    obtain ⟨log, hrun⟩ := run_of_request (w := w) (c := c) hargs
    rw [hrun]
    cases request with
    | run invocation =>
      obtain ⟨apiUrl, color, command⟩ := invocation
      cases command with
      | query document vars field => exact absurd trivial (h _ hargs)
      | run code graph port host => exact absurd trivial (h _ hargs)
      | results path keys =>
        rw [← hrun, run_requests hargs (e := executeResults w path keys) rfl]
        exact executeResults_requests w path keys
      | version => rfl
      | completion shell => rfl
    | help verb => rfl
    | guide verb => rfl
    | version => rfl

end

/-! ## Commands that are not at fault -/

section

variable {w : World} {c : Console} {args : List String} {invocation : Invocation} {e : Execution}
  (hargs : Request.ofArguments args = .ok (.run invocation))
  (he : invocation.command.execution? w invocation.apiUrl = some e)

include hargs he

theorem run_startsWith {α : Type} {o : Outcome α} {call : Call}
    (h : o.StartsWith w.network call ⟨w.replies, []⟩) (hrequests : e.requests = o.requests)
    (hfailed : ∀ f, o.result = .error f → e.result = .error f) :
    (run w c args).StartsWith (c.display invocation.color) w call := by
  refine ⟨?_, ?_⟩
  · intro hreached
    rw [run_requests hargs he, hrequests]
    exact h.reached hreached
  · intro hunreached
    obtain ⟨hnone, hresult⟩ := h.unreached hunreached
    rw [run_requests hargs he, hrequests]
    exact ⟨hnone, run_showsFailure hargs he (hfailed _ hresult)⟩

end

section

variable {w : World} {c : Console} {args : List String} {apiUrl : Option String}
  {color : ColorMode} {named : Nat} (hnamed : Names named w.environment.localPort)

include hnamed

theorem query_startsWith {document : Source} {vars field : Option String}
    (hargs : Request.ofArguments args = .ok (.run ⟨apiUrl, color, .query document vars field⟩))
    (h : ¬ (Command.query document vars field).IsAtFault w apiUrl) :
    ∃ call, (Command.query document vars field).FirstCall w apiUrl call ∧
      (run w c args).StartsWith (c.display color) w call := by
  obtain ⟨s, hs⟩ : ∃ s, document.Gives w.files s := by
    by_contra hnone
    exact h (.document vars field (not_exists.mp hnone))
  obtain ⟨value, hvalue⟩ : ∃ value, GivesVariables vars value := by
    cases vars with
    | none => exact ⟨_, .none⟩
    | some text =>
      by_contra hnone
      exact h (.vars document field fun written hdocument => hnone ⟨_, .some hdocument⟩)
  obtain ⟨url, hurl⟩ :
      ∃ url, Url.parse (chooseApiUrl apiUrl w.environment.apiUrl) = .ok (.web url) := by
    by_contra hnone
    exact h (.apiUrl document vars field (not_exists.mp hnone))
  have hplan : planQuery w apiUrl document vars = .ok ⟨.ofBase url.asBase, s, value⟩ :=
    planQuery_eq_ok.mpr ⟨⟨named, hnamed⟩, hs, hvalue, url, hurl, rfl⟩
  obtain ⟨hrequests, hfailed⟩ := executeQuery_planned hplan field rfl
  exact ⟨_, .query document vars field hurl, run_startsWith hargs rfl
    (Gateway.query_startsWith (s := {}) (.ofBase url.asBase) s value rfl) hrequests hfailed⟩

theorem run_command_startsWith {code graph : Source} {port : Option Nat} {host : String}
    (hargs : Request.ofArguments args = .ok (.run ⟨apiUrl, color, .run code graph port host⟩))
    (h : ¬ (Command.run code graph port host).IsAtFault w apiUrl) :
    ∃ call, (Command.run code graph port host).FirstCall w apiUrl call ∧
      (run w c args).StartsWith (c.display color) w call := by
  have huses : UsesPort w.environment.localPort port (port.getD named) := usesPort_getD hnamed
  obtain ⟨s, hs⟩ : ∃ s, code.Gives w.files s := by
    by_contra hnone
    exact h (.code graph port host (not_exists.mp hnone))
  obtain ⟨text, htext⟩ : ∃ text, graph.Gives w.files text := by
    by_contra hnone
    exact h (.graph code port host (not_exists.mp hnone))
  obtain ⟨written, hdocument⟩ : ∃ written, IsDocument text written := by
    by_contra hnone
    exact h (.graphText code port host htext (not_exists.mp hnone))
  obtain ⟨url, hurl⟩ :
      ∃ url, Url.parse (Runner.rawUrl ⟨host, port.getD named⟩ none) = .ok (.web url) := by
    by_contra hnone
    exact h (.host code graph huses (not_exists.mp hnone))
  have hplan : planRun w apiUrl code graph port host =
      .ok ⟨⟨host, port.getD named⟩, s, written.sorted⟩ :=
    planRun_eq_ok.mpr ⟨⟨named, hnamed, rfl⟩, hs, text, htext, written, hdocument, rfl⟩
  have hrunner : Runner.url ⟨host, port.getD named⟩ none = .ok url := by
    unfold Runner.url
    dsimp only
    rw [hurl]
  have hrun := executeRun_planned hplan rfl
  refine ⟨_, .run hs htext hdocument huses hurl, run_startsWith hargs rfl
    (Gateway.run_startsWith hrunner s written.sorted) ?_ ?_⟩
  · rw [hrun]
  · intro f hf
    rw [hrun]
    exact hf

end

/-! ## The law -/

/-- A command that has no use for the network makes no request, and neither does a list of
arguments that asks for no command. A query or a run that is at fault fails and makes no request,
whatever else it is given. One that is not, in an environment whose port can be used, starts with
its first call. -/
theorem bad_input_never_reaches_the_network (w : World) (c : Console)
    (args : List String) :
    ((∀ invocation, Request.ofArguments args = .ok (.run invocation) →
        ¬ invocation.command.NeedsSettings) → (run w c args).requests = []) ∧
    ∀ invocation, Request.ofArguments args = .ok (.run invocation) →
      (invocation.command.IsAtFault w invocation.apiUrl →
        (run w c args).exitCode ≠ 0 ∧ (run w c args).requests = []) ∧
      (invocation.command.NeedsSettings → ¬ invocation.command.IsAtFault w invocation.apiUrl →
        ∀ named, Names named w.environment.localPort →
          ∃ call, invocation.command.FirstCall w invocation.apiUrl call ∧
            (run w c args).StartsWith (c.display invocation.color) w call) := by
  refine ⟨run_without_use, fun invocation hargs => ⟨?_, ?_⟩⟩
  · intro hfault
    obtain ⟨e, f, he, hrequests, hf⟩ := execution_of_isAtFault hfault
    refine ⟨?_, ?_⟩
    · rw [(run_showsFailure hargs he hf).exitCode]
      exact exitCode_ne_zero _
    · rw [run_requests hargs he]
      exact hrequests
  · intro hneeds hsound named hnamed
    obtain ⟨apiUrl, color, command⟩ := invocation
    cases command with
    | query document vars field => exact query_startsWith hnamed hargs hsound
    | run code graph port host => exact run_command_startsWith hnamed hargs hsound
    | results path keys => exact hneeds.elim
    | version => exact hneeds.elim
    | completion shell => exact hneeds.elim

/-! ## Four commands -/

/-- A run with three faults: no code, no graph, and no URL of a server. -/
def faultyArguments : List String :=
  ["run", "--code-file", "f", "--graph-json", "[", "--host", "a b"]

theorem parse_queryUrl :
    Url.parse (chooseApiUrl (some "http://[::1]/") none) = .ok (.web queryUrl) := by cbv

theorem parse_sampleRunUrl : Url.parse (Runner.rawUrl ⟨"[::1]", Settings.defaultLocalPort⟩ none) =
    .ok (.web Gateway.sampleRunUrl) := by cbv

theorem parse_null : Json.parse "null" = .ok .null := by cbv

theorem bareQuery_isSound :
    ¬ (Command.query (.text "q") none none).IsAtFault refusingWorld (some "http://[::1]/") := by
  intro h
  cases h with
  | document _ _ unreadable => exact unreadable "q" (.text "q")
  | apiUrl _ _ _ noUrl => exact noUrl queryUrl parse_queryUrl

theorem refusedRun_isSound :
    ¬ (Command.run (.text "c") (.text "null") none "[::1]").IsAtFault refusingWorld none := by
  intro h
  cases h with
  | port _ _ _ unusable => exact unusable _ (.unset rfl)
  | code _ _ _ unreadable => exact unreadable "c" (.text "c")
  | graph _ _ _ unreadable => exact unreadable "null" (.text "null")
  | graphText _ _ _ gives noDocument =>
    cases gives
    obtain ⟨written, hdocument, -⟩ := Json.parse_eq_ok.mp parse_null
    exact noDocument written hdocument
  | host _ _ uses noUrl =>
    rw [uses.eq_getD (.unset rfl)] at noUrl
    exact noUrl Gateway.sampleRunUrl parse_sampleRunUrl

/-- A run with faults and the version make no request. A query starts with the call for a token,
and a run with its code. -/
theorem two_commands_of_four_reach_the_network :
    ((run refusingWorld plainConsole faultyArguments).exitCode ≠ 0 ∧
      (run refusingWorld plainConsole faultyArguments).requests = []) ∧
    (run refusingWorld plainConsole ["version"]).requests = [] ∧
    (∃ later, (run refusingWorld plainConsole bareQueryArguments).requests =
      (tokenCall (.ofBase queryUrl)).request [] :: later) ∧
    (∃ later, (run refusingWorld plainConsole refusedArguments).requests =
      (runCall Gateway.sampleRunUrl "c" .null).request [] :: later) := by
  have hlaw := bad_input_never_reaches_the_network refusingWorld plainConsole
  have hunset : Names Settings.defaultLocalPort refusingWorld.environment.localPort := .unset rfl
  refine ⟨?_, ?_, ?_, ?_⟩
  · refine ((hlaw faultyArguments).2
      ⟨none, .auto, .run (.file "f") (.text "[") none "a b"⟩ (by cbv)).1 (.code _ _ _ ?_)
    intro s hgives
    cases hgives with
    | file _ _ holds => cases holds
  · refine (hlaw ["version"]).1 ?_
    rintro _ ⟨⟩
    exact id
  · obtain ⟨call, hfirst, hstarts⟩ := ((hlaw bareQueryArguments).2
      ⟨some "http://[::1]/", .auto, .query (.text "q") none none⟩ (by cbv)).2 trivial
      bareQuery_isSound _ hunset
    cases hfirst with
    | query _ _ _ reads =>
      cases parse_queryUrl.symm.trans reads
      exact hstarts.reached rfl
  · obtain ⟨call, hfirst, hstarts⟩ := ((hlaw refusedArguments).2
      ⟨none, .auto, .run (.text "c") (.text "null") none "[::1]"⟩ (by cbv)).2 trivial
      refusedRun_isSound _ hunset
    cases hfirst with
    | run givesCode givesGraph document uses reads =>
      cases givesCode
      cases givesGraph
      rw [uses.eq_getD hunset] at reads
      cases parse_sampleRunUrl.symm.trans reads
      have hgraph := Json.parse_eq_ok.mpr ⟨_, document, rfl⟩
      rw [parse_null, Except.ok.injEq] at hgraph
      rw [← hgraph] at hstarts
      exact hstarts.reached rfl

end ResultGateway.CommandLine
