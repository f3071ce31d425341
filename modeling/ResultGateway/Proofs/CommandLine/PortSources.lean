-- The two places that name the port of a run. Digits that are given as a
-- flag are read by the command line, and those of the variable by the
-- settings. Both read the same number, and both refuse one above 65535.
-- Zero is refused in the variable only: as a flag it is a port.
import ResultGateway.Proofs.CommandLine.Plans
import ResultGateway.Proofs.CommandLine.Readings
import ResultGateway.Proofs.CommandLine.UnusedSettings
import ResultGateway.Proofs.Gateway.RunUrls
import ResultGateway.Proofs.Settings.PortNumbers
import ResultGateway.Proofs.Text.Trim

namespace ResultGateway.CommandLine

open Gateway (Runner)
open Grammar (IsSpelled)
open Settings (IsNumeral IsUnusable Names placeValue)
open Text (digitValue isDigit ofDigits)

/-! ## Digits as a flag -/

/-- One digit or more, and nothing else. -/
structure IsDigits (s : String) : Prop where
  some_digit : s.toList ≠ []
  all_digits : ∀ c ∈ s.toList, isDigit c = true

instance (s : String) : Decidable (IsDigits s) :=
  decidable_of_iff (s.toList ≠ [] ∧ s.toList.all isDigit = true)
    ⟨fun h => ⟨h.1, List.all_eq_true.mp h.2⟩, fun h => ⟨h.1, List.all_eq_true.mpr h.2⟩⟩

theorem readDigits_eq {greatest : Nat} (beyond : NumberFault) {digits : List Char}
    (hall : ∀ c ∈ digits, isDigit c = true) {n : Nat} (hn : n ≤ greatest) :
    readDigits greatest beyond n digits =
      let number := digits.foldl (fun n c => 10 * n + digitValue c) n
      if greatest < number then .error beyond else .ok number := by
  induction digits generalizing n with
  | nil =>
    have hfits : ¬ greatest < n := by omega
    simp [readDigits, hfits]
  | cons c digits ih =>
    obtain ⟨hdigit, hrest⟩ := List.forall_mem_cons.mp hall
    rw [readDigits, hdigit, List.foldl_cons]
    simp only [Bool.not_true, Bool.false_eq_true, if_false]
    by_cases hnext : greatest < 10 * n + digitValue c
    · -- The digits that are left only make the number larger.
      have hlarge := Nat.lt_of_lt_of_le hnext (Settings.le_foldl _ digits)
      rw [if_pos hnext, if_pos hlarge]
    · rw [if_neg hnext]
      exact ih hrest (Nat.le_of_not_lt hnext)

section

variable {s : String} (h : IsDigits s)

include h

theorem IsDigits.isNumeral : IsNumeral s.toList s.toList := ⟨.inl rfl, h.some_digit, h.all_digits⟩

theorem IsDigits.head : ∃ c cs, s.toList = c :: cs ∧ c ≠ '-' ∧ c ≠ '+' := by
  obtain ⟨c, cs, hcons⟩ := List.exists_cons_of_ne_nil h.some_digit
  have hdigit : isDigit c = true := h.all_digits c (hcons ▸ List.mem_cons_self)
  refine ⟨c, cs, hcons, ?_, ?_⟩
  · rintro rfl
    exact absurd hdigit (by decide)
  · rintro rfl
    exact absurd hdigit (by decide)

theorem IsDigits.isPlain : Word.ofChars s.toList = .plain := by
  obtain ⟨c, cs, hcons, hminus, -⟩ := h.head
  rw [hcons]
  unfold Word.ofChars
  split
  · rename_i heq
    exact absurd (List.cons.inj heq).1 hminus
  · rename_i heq
    exact absurd (List.cons.inj heq).1 hminus
  · rename_i heq
    exact absurd (List.cons.inj heq).1 hminus
  · rfl

theorem IsDigits.readInteger : readInteger s.toList =
    if greatestInteger < placeValue s.toList then .error .tooLarge
    else .ok (placeValue s.toList : Int) := by
  have hread := readDigits_eq .tooLarge h.all_digits (Nat.zero_le greatestInteger)
  obtain ⟨c, cs, hcons, hminus, hplus⟩ := h.head
  rw [Settings.placeValue_eq]
  unfold ofDigits
  rw [hcons] at hread ⊢
  unfold CommandLine.readInteger
  split
  · rename_i heq
    cases heq
  · rename_i heq
    exact absurd (List.cons.inj heq).1 hminus
  · rename_i heq
    exact absurd (List.cons.inj heq).1 hplus
  · show (readDigits greatestInteger .tooLarge 0 (c :: cs)).map Int.ofNat = _
    rw [hread]
    dsimp only
    split <;> rfl

/-- A run of digits is read as its number if that is no greater than the greatest port. -/
theorem IsDigits.readPort {n : Nat} :
    readPort s = .ok n ↔ placeValue s.toList = n ∧ n ≤ Settings.greatestPort := by
  unfold CommandLine.readPort
  rw [h.readInteger]
  by_cases hlarge : greatestInteger < placeValue s.toList
  · rw [if_pos hlarge]
    unfold greatestInteger at hlarge
    unfold Settings.greatestPort
    constructor
    · nofun
    · omega
  · rw [if_neg hlarge]
    dsimp only
    split
    · rename_i hfits
      rw [Bool.and_eq_true, decide_eq_true_eq, decide_eq_true_eq] at hfits
      rw [Int.toNat_natCast, Except.ok.injEq]
      omega
    · rename_i hfits
      rw [Bool.and_eq_true, decide_eq_true_eq, decide_eq_true_eq] at hfits
      constructor
      · nofun
      · omega

/-! ## Digits as a variable -/

theorem IsDigits.trim : Text.trim s = s := by
  apply Text.trim_eq_self
  intro c hc
  have hrange : 48 ≤ c.toNat ∧ c.toNat ≤ 57 := by
    simpa [isDigit, Char.le_def, UInt32.le_iff_toNat_le] using h.all_digits c hc
  simp only [Text.isBlank, Text.blankRanges, List.any_cons, List.any_nil, Bool.or_false,
    Bool.or_eq_false_iff, Bool.and_eq_false_iff, decide_eq_false_iff_not]
  omega

theorem IsDigits.names {port : Nat} : Names port (some s) ↔
    placeValue s.toList = port ∧ 1 ≤ port ∧ port ≤ Settings.greatestPort := by
  have htext : Text.trim s ≠ "" := by
    rw [h.trim]
    rintro rfl
    exact h.some_digit rfl
  rw [Settings.names_of_text htext, h.trim, Settings.isPort_iff, h.isNumeral.portNumber?,
    ← Settings.placeValue_eq]
  split
  · simp only [reduceCtorEq, false_and, false_iff]
    omega
  · rw [Option.some.injEq]
    omega

end

/-! ## Arguments with a port -/

/-- The port of a run. -/
def portParameter : Parameter :=
  { name := "port", label := "PORT", form := .port,
    about := "Local server port (overrides GRAPHERY_LOCAL_PORT)" }

/-- A place among the arguments of a run at which a parameter may be named. -/
structure IsPlace (lead front : List String) : Prop where
  command : ∃ before, mainGrammar.read {} (lead ++ [Verb.run.name]) =
    .ok (.command Verb.run.name [] before)
  values : ∃ scan, Verb.run.grammar.read {} front = .ok (.values scan) ∧ scan.isEscaped = false

theorem run_isNamed : Verb.run.grammar.IsNamed := ⟨rfl, rfl⟩

theorem fault?_of_digits {s : String} (h : IsDigits s) :
    portParameter.form.fault? s = none ↔ placeValue s.toList ≤ Settings.greatestPort := by
  have hread := @IsDigits.readPort s h
  show Form.port.fault? s = none ↔ _
  unfold Form.fault?
  dsimp only
  cases hport : CommandLine.readPort s with
  | ok n =>
    obtain ⟨rfl, hfits⟩ := hread.mp hport
    simp [hfits]
  | error fault =>
    simp only [reduceCtorEq, false_iff, Nat.not_le]
    by_contra hfits
    rw [hread.mpr ⟨rfl, Nat.le_of_not_lt hfits⟩] at hport
    cases hport

/-- The arguments behind the command are values that give it, and what is pending before it is
accepted. -/
theorem run_ofArguments_eq_ok {before : Scan} {args : List String} {invocation : Invocation} :
    Verb.run.ofArguments before args = .ok (.run invocation) ↔
      ∃ values settled, Verb.run.grammar.read {} args = .ok (.values values) ∧
        Verb.run.grammar.clash? values.given = none ∧
        Verb.run.command values = .ok invocation.command ∧ before.settle = .ok settled ∧
        invocation.apiUrl = settled.value? "api-url" ∧
        invocation.color = .named (settled.value? "color") := by
  obtain ⟨apiUrl, color, command⟩ := invocation
  unfold Verb.ofArguments
  constructor
  · intro h
    split at h
    · cases h
    · cases h
    · cases h
    · cases h
    · rename_i values hread
      have hneeds : (values.given.isEmpty && Verb.run.needsValues) = false := Bool.and_false _
      rw [hneeds] at h
      simp only [Bool.false_eq_true, if_false] at h
      split at h
      · cases h
      · rename_i hclash
        cases hcommand : Verb.run.command values with
        | error e =>
          rw [hcommand] at h
          cases h
        | ok command =>
          rw [hcommand] at h
          cases hsettle : before.settle with
          | error e =>
            rw [hsettle] at h
            cases h
          | ok settled =>
            rw [hsettle] at h
            cases h
            exact ⟨values, settled, hread, hclash, hcommand, rfl, rfl, rfl⟩
  · rintro ⟨values, settled, hread, hclash, hcommand, hsettle, rfl, rfl⟩
    have hneeds : (values.given.isEmpty && Verb.run.needsValues) = false := Bool.and_false _
    rw [hread]
    dsimp only
    rw [hneeds, hclash, hcommand, hsettle]
    rfl

/-- A port that is accepted is the port of the run. -/
theorem run_command_eq_ok {values : Scan} {code graph : Source} {port : Option Nat}
    {host : String} : Verb.run.command values = .ok (.run code graph port host) ↔
      sourceOf values "code" "code-file" = .ok code ∧
      sourceOf values "graph-json" "graph-file" = .ok graph ∧
      (values.value? "port" >>= fun text => (readPort text).toOption) = port ∧
      (values.value? "host").getD Settings.defaultLocalHost = host := by
  unfold Verb.command
  cases sourceOf values "code" "code-file" with
  | error e => simp [bind, Except.bind]
  | ok code' =>
    cases sourceOf values "graph-json" "graph-file" with
    | error e => simp [bind, Except.bind]
    | ok graph' => simp [bind, Except.bind, pure, Except.pure]

section

variable {values : Scan} {code graph : Source} {port : Option Nat} {host : String}

/-- A run without a port was given none, since one that is given is accepted and read. -/
theorem not_has_port (hof : values.IsOf Verb.run.grammar)
    (h : Verb.run.command values = .ok (.run code graph none host)) : ¬ values.Has "port" := by
  rintro ⟨x, hx, hname⟩
  obtain ⟨-, -, hport, -⟩ := run_command_eq_ok.mp h
  obtain ⟨y, hfind⟩ : ∃ y, values.given.find? (fun y => y.1.name == "port") = some y := by
    rw [← Option.isSome_iff_exists, List.find?_isSome]
    exact ⟨x, hx, by simpa using hname⟩
  obtain ⟨hmem, hfault⟩ := hof.given y (List.mem_of_find?_eq_some hfind)
  have hy : y.1.name = "port" := by simpa using List.find?_some hfind
  have hform : y.1.form = .port := by
    have hforms : ∀ p ∈ Verb.run.grammar.named, p.name = "port" → p.form = .port := by decide
    exact hforms y.1 hmem hy
  rw [Scan.value?, hfind, Option.map_some] at hport
  rw [hform] at hfault
  unfold Form.fault? at hfault
  dsimp only at hfault
  split at hfault
  · rename_i n hread
    rw [Option.bind_eq_bind, Option.bind_some, hread] at hport
    cases hport
  · cases hfault

/-- Where a port is accepted, all else of the run stays what it was. -/
theorem run_command_widened {s : String} {n : Nat} {wider : Scan}
    (h : Verb.run.command values = .ok (.run code graph none host))
    (hwidens : values.Widens portParameter s wider) (hfree : ¬ values.Has "port")
    (hread : readPort s = .ok n) :
    Verb.run.command wider = .ok (.run code graph (some n) host) := by
  obtain ⟨hcode, hgraph, -, hhost⟩ := run_command_eq_ok.mp h
  have hother : ∀ name, name ≠ "port" → wider.value? name = values.value? name :=
    fun name hname => hwidens.value? hname
  refine run_command_eq_ok.mpr ⟨?_, ?_, ?_, ?_⟩
  · rw [← hcode, sourceOf, sourceOf, hother "code" (by decide), hother "code-file" (by decide)]
  · rw [← hgraph, sourceOf, sourceOf, hother "graph-json" (by decide),
      hother "graph-file" (by decide)]
  · rw [show wider.value? "port" = some s from hwidens.value?_self hfree, Option.bind_eq_bind,
      Option.bind_some, hread]
    rfl
  · rw [← hhost, hother "host" (by decide)]

end

/-- Digits that are given as a flag are the port of the run if they are no greater than the
greatest port. If they are, the arguments are refused. -/
theorem ofArguments_flagged {lead front back spelled : List String} {s : String}
    {apiUrl : Option String} {color : ColorMode} {code graph : Source} {host : String}
    (hplace : IsPlace lead front) (hs : IsDigits s) (hspelled : IsSpelled "port" s spelled)
    (hargs : Request.ofArguments (lead ++ "run" :: (front ++ back)) =
      .ok (.run ⟨apiUrl, color, .run code graph none host⟩)) :
    (placeValue s.toList ≤ Settings.greatestPort →
      Request.ofArguments (lead ++ "run" :: (front ++ spelled ++ back)) =
        .ok (.run ⟨apiUrl, color, .run code graph (some (placeValue s.toList)) host⟩)) ∧
    (Settings.greatestPort < placeValue s.toList →
      ∃ e, Request.ofArguments (lead ++ "run" :: (front ++ spelled ++ back)) = .error e) := by
  obtain ⟨⟨before, hcommand⟩, scan, hfront, hopen⟩ := hplace
  have hrequest : ∀ rest, Request.ofArguments (lead ++ "run" :: rest) =
      Verb.run.ofArguments before rest := by
    intro rest
    have hread : mainGrammar.read {} (lead ++ "run" :: rest) = .ok (.command "run" rest before) :=
      Grammar.read_command hcommand
    unfold Request.ofArguments
    rw [hread]
    rfl
  rw [hrequest, run_ofArguments_eq_ok] at hargs
  obtain ⟨values, settled, hread, hclash, hvalues, hsettle, hurl, hcolor⟩ := hargs
  have hof : values.IsOf Verb.run.grammar :=
    ((Grammar.read_eq_values run_isNamed).mp hread).isOf ⟨nofun, nofun⟩
  have hfree := not_has_port hof hvalues
  have hname : Grammar.IsName "port" := ⟨by decide, by simp⟩
  obtain ⟨haccepted, hrefused⟩ := Grammar.read_spelled (p := portParameter) run_isNamed hname rfl
    hs.isPlain hspelled hfront hopen hread hfree
  rw [hrequest]
  constructor
  · intro hfits
    obtain ⟨wider, hread', hwidens⟩ := haccepted ((fault?_of_digits hs).mpr hfits)
    have hport := hs.readPort.mpr ⟨rfl, hfits⟩
    have hexcludes : ∀ name, Verb.run.grammar.excludes portParameter.name name = false := by
      intro name
      simp [Grammar.excludes, Verb.grammar, portParameter]
    exact run_ofArguments_eq_ok.mpr ⟨wider, settled, hread', (hwidens.clash? hexcludes).trans hclash,
      run_command_widened hvalues hwidens hfree hport, hsettle, hurl, hcolor⟩
  · intro hlarge
    have hfault : portParameter.form.fault? s ≠ none := by
      rw [ne_eq, fault?_of_digits hs]
      omega
    obtain ⟨e, he⟩ := hrefused (Option.isSome_iff_ne_none.mpr hfault)
    refine ⟨e, ?_⟩
    unfold Verb.ofArguments
    rw [he]

/-! ## Answers -/

/-- The answer to a run on a port: what such a run leaves where the variable is not set. What is
handed over goes to that port of the host. -/
structure Answer.RunsAt (a : Answer) (w : World) (d : Display) (apiUrl : Option String)
    (code graph : Source) (host : String) (port : Nat) : Prop where
  shown : ∃ log, a = { d.answer (executeRun (w.withLocalPort none) apiUrl code graph (some port)
    host) with log }
  posted : ∀ request ∈ a.requests, request.method = .post →
    Runner.url ⟨host, port⟩ none = .ok request.url

/-- An answer that rejects what is given, before any request. -/
structure Answer.IsRejection (a : Answer) : Prop where
  exitCode : a.exitCode = 2
  requests : a.requests = []

section

variable {w : World} {c : Console} {args : List String} {apiUrl : Option String}
  {color : ColorMode} {code graph : Source} {host : String}

theorem executeRun_posts {port : Option Nat} {request : Http.Request}
    (h : request ∈ (executeRun w apiUrl code graph port host).requests)
    (hpost : request.method = .post) :
    ∃ plan, planRun w apiUrl code graph port host = .ok plan ∧
      plan.runner.url none = .ok request.url := by
  unfold executeRun at h
  cases hplan : planRun w apiUrl code graph port host with
  | error f =>
    rw [hplan] at h
    cases h
  | ok plan =>
    rw [hplan] at h
    exact ⟨plan, rfl, Gateway.run_posts h hpost⟩

theorem run_runsAt {port : Nat} (hargs : Request.ofArguments args =
      .ok (.run ⟨apiUrl, color, .run code graph (some port) host⟩)) :
    (run (w.withLocalPort none) c args).RunsAt w (c.display color) apiUrl code graph host port := by
  obtain ⟨log, hrun⟩ := run_of_request (w := w.withLocalPort none) (c := c) hargs
  refine ⟨⟨log, hrun⟩, ?_⟩
  intro request hrequest hpost
  rw [hrun] at hrequest
  have hrequests : ∀ (d : Display) (e : Execution), (d.answer e).requests = e.requests := by
    intro d e
    unfold Display.answer
    split <;> rfl
  have hmem : request ∈ (executeRun (w.withLocalPort none) apiUrl code graph (some port)
      host).requests := by
    rw [← hrequests (c.display color)]
    exact hrequest
  obtain ⟨plan, hplan, hurl⟩ := executeRun_posts hmem hpost
  obtain ⟨⟨_, -, hrunner⟩, -, -⟩ := planRun_eq_ok.mp hplan
  rw [hrunner] at hurl
  exact hurl

theorem run_rejected {e : UsageError} (h : Request.ofArguments args = .error e) :
    (run w c args).IsRejection := by
  obtain ⟨log, hrun⟩ := run_of_error (w := w) (c := c) h
  rw [hrun]
  exact ⟨rfl, rfl⟩

theorem run_of_unusable {value : Option String} {port : Option Nat} (hargs : Request.ofArguments
      args = .ok (.run ⟨apiUrl, color, .run code graph port host⟩)) (h : IsUnusable value) :
    (run (w.withLocalPort value) c args).IsRejection := by
  obtain ⟨text, -, hchosen⟩ := Settings.chooseLocalPort_unusable h
  obtain ⟨log, hrun⟩ := run_of_request (w := w.withLocalPort value) (c := c) hargs
  have hneeds : (Command.run code graph port host).NeedsSettings := trivial
  have hanswer := runCommand_invalidPort (w := w.withLocalPort value) hchosen (c.display color)
    apiUrl hneeds
  rw [hrun]
  dsimp only [runRequest]
  rw [hanswer]
  exact ⟨rfl, rfl⟩

/-- The port that the variable stands for is used as one that is given. -/
theorem planRun_named {value : Option String} {port : Nat} (h : Names port value) :
    planRun (w.withLocalPort value) apiUrl code graph none host =
      planRun (w.withLocalPort none) apiUrl code graph (some port) host := by
  unfold planRun Settings.ofEnvironment World.withLocalPort
  rw [Settings.chooseLocalPort_eq_ok.mpr h]
  rfl

theorem executeRun_named {value : Option String} {port : Nat} (h : Names port value) :
    executeRun (w.withLocalPort value) apiUrl code graph none host =
      executeRun (w.withLocalPort none) apiUrl code graph (some port) host := by
  unfold executeRun
  rw [planRun_named h]
  rfl

theorem run_named {value : Option String} {port : Nat} {args' : List String}
    (h : Names port value)
    (hargs : Request.ofArguments args = .ok (.run ⟨apiUrl, color, .run code graph none host⟩))
    (hargs' : Request.ofArguments args' =
      .ok (.run ⟨apiUrl, color, .run code graph (some port) host⟩)) :
    run (w.withLocalPort none) c args' = run (w.withLocalPort value) c args := by
  apply run_eq_of_runRequest hargs' hargs
  exact congrArg (c.display color).answer (executeRun_named h).symm

end

/-! ## The law -/

/-- Digits that are given as a flag and those of the variable give the same answer for a number
from 1 to 65535, which is the port of the run, and they are both rejected for a greater one. Zero
is rejected in the variable, and as a flag it is the port of the run. -/
theorem both_sources_of_a_port_agree_but_for_zero (w : World) (c : Console)
    {lead front back spelled : List String} {s : String} {apiUrl : Option String}
    {color : ColorMode} {code graph : Source} {host : String} (hplace : IsPlace lead front)
    (hs : IsDigits s) (hspelled : IsSpelled "port" s spelled)
    (hargs : Request.ofArguments (lead ++ "run" :: (front ++ back)) =
      .ok (.run ⟨apiUrl, color, .run code graph none host⟩)) :
    let flagged := run (w.withLocalPort none) c (lead ++ "run" :: (front ++ spelled ++ back))
    let named := run (w.withLocalPort (some s)) c (lead ++ "run" :: (front ++ back))
    let number := placeValue s.toList
    (1 ≤ number ∧ number ≤ 65535 → flagged = named ∧
      named.RunsAt w (c.display color) apiUrl code graph host number) ∧
    (65535 < number → flagged.IsRejection ∧ named.IsRejection) ∧
    (number = 0 → named.IsRejection ∧
      flagged.RunsAt w (c.display color) apiUrl code graph host 0) := by
  intro flagged named number
  obtain ⟨haccepted, hrefused⟩ := ofArguments_flagged hplace hs hspelled hargs
  have hunusable : ¬ (1 ≤ number ∧ number ≤ 65535) → IsUnusable (some s) := by
    intro hrange port hport
    obtain ⟨rfl, hlow, hhigh⟩ := hs.names.mp hport
    exact hrange ⟨hlow, hhigh⟩
  refine ⟨?_, ?_, ?_⟩
  · rintro ⟨hlow, hhigh⟩
    have hargs' := haccepted hhigh
    have heq : flagged = named := run_named (hs.names.mpr ⟨rfl, hlow, hhigh⟩) hargs hargs'
    exact ⟨heq, heq ▸ run_runsAt hargs'⟩
  · intro hlarge
    obtain ⟨e, he⟩ := hrefused hlarge
    exact ⟨run_rejected he, run_of_unusable hargs (hunusable (by omega))⟩
  · intro hzero
    have hargs' := haccepted (by unfold Settings.greatestPort; omega)
    refine ⟨run_of_unusable hargs (hunusable (by omega)), ?_⟩
    have hruns := run_runsAt (w := w) (c := c) hargs'
    rw [show placeValue s.toList = 0 from hzero] at hruns
    exact hruns

/-! ## One run -/

/-- The arguments of `refusedArguments` behind the command. -/
def refusedValues : List String := ["--code", "c", "--graph-json", "null", "--host", "[::1]"]

theorem refused_isPlace : IsPlace [] refusedValues :=
  ⟨⟨{}, by cbv⟩, _, (by cbv), by cbv⟩

/-- Leading zeros are no part of a port in either place, and a number of six digits is rejected
in both. -/
theorem a_padded_port_and_a_great_one_are_read_alike :
    IsPlace [] refusedValues ∧ IsDigits "08080" ∧
    Request.ofArguments ("run" :: refusedValues) =
      .ok (.run ⟨none, .auto, .run (.text "c") (.text "null") none "[::1]"⟩) ∧
    run refusingWorld plainConsole ("run" :: refusedValues ++ ["--port", "08080"]) =
      run (refusingWorld.withLocalPort (some "08080")) plainConsole ("run" :: refusedValues) ∧
    (run refusingWorld plainConsole ("run" :: refusedValues ++ ["--port=100000"])).IsRejection ∧
    (run refusingWorld plainConsole ("run" :: refusedValues ++ ["--port", "00"])).RunsAt
      refusingWorld (plainConsole.display .auto) none (.text "c") (.text "null") "[::1]" 0 := by
  have hpadded : IsDigits "08080" := by decide
  have hargs : Request.ofArguments ([] ++ "run" :: (refusedValues ++ [])) =
      .ok (.run ⟨none, .auto, .run (.text "c") (.text "null") none "[::1]"⟩) := by cbv
  have hlaw := fun s spelled (hs : IsDigits s) (hspelled : IsSpelled "port" s spelled) =>
    both_sources_of_a_port_agree_but_for_zero refusingWorld plainConsole refused_isPlace hs hspelled
      hargs
  refine ⟨refused_isPlace, hpadded, hargs, ?_, ?_, ?_⟩
  · exact ((hlaw "08080" _ hpadded .apart).1 (by decide)).1
  · exact ((hlaw "100000" _ (by decide) .joined).2.1 (by decide)).1
  · exact ((hlaw "00" _ (by decide) .apart).2.2 (by decide)).2

/-- Zero is rejected in the variable. As a flag it is a port, to which a request is made. -/
theorem zero_is_a_port_as_a_flag_only :
    IsDigits "0" ∧ IsPlace [] refusedValues ∧
    exitAndRequests (some "0") refusedArguments = (2, 0) ∧
    exitAndRequests none (refusedArguments ++ ["--port", "0"]) = (4, 1) := by
  refine ⟨by decide, refused_isPlace, ?_, ?_⟩
  · cbv
  · cbv

end ResultGateway.CommandLine
