-- How much the display of a command changes. Neither the choice of color nor
-- the terminals change what a command does: its exit code and its requests
-- stay as they are, its document stays but for its layout, and the lines of a
-- failure on a terminal stay but for the colors of their labels.
import Mathlib
import ResultGateway.Proofs.CommandLine.Outcome
import ResultGateway.Proofs.Json.Layout

namespace ResultGateway.CommandLine

open Json (Denotes squeeze)

/-! ## Colors -/

/-- What the lines of a failure start with. -/
def labelNames : List String := ["error:", "hint:", "url:", "status:", "caused by:"]

/-- A text, and the same text with a sequence that turns on a color before some of the labels that
its lines start with, and one that turns it off behind each of them. Whether a line starts here is
told apart. -/
inductive Colors : Bool → List Char → List Char → Prop where
  | nil (starts : Bool) : Colors starts [] []
  | same {starts : Bool} (c : Char) {plain colored : List Char}
      (rest : Colors (c == '\n') plain colored) : Colors starts (c :: plain) (c :: colored)
  | label {name : String} (listed : name ∈ labelNames) (color : Color) {plain colored : List Char}
      (rest : Colors false plain colored) :
      Colors true (name.toList ++ plain) (("\x1b[1;" ++ color.code ++ "m").toList ++
        (name.toList ++ ("\x1b[0m".toList ++ colored)))

/-- A line may hold anything behind its label. -/
theorem Colors.line {plain colored : List Char} (h : Colors true plain colored) (cs : List Char)
    (starts : Bool) : Colors starts (cs ++ '\n' :: plain) (cs ++ '\n' :: colored) := by
  induction cs generalizing starts with
  | nil => exact .same '\n' h
  | cons c cs ih => exact .same c (ih (c == '\n'))

/-- The text of a line, with its label. -/
def lineText (isColored : Bool) (line : Color × String × String) : String :=
  label isColored line.1 line.2.1 ++ " " ++ line.2.2

theorem colors_lineText {line : Color × String × String} (listed : line.2.1 ∈ labelNames)
    {plain colored : List Char} (h : Colors true plain colored) :
    Colors true ((lineText false line).toList ++ '\n' :: plain)
      ((lineText true line).toList ++ '\n' :: colored) := by
  have hrest := h.line (" ".toList ++ line.2.2.toList) false
  have hlabel := Colors.label listed line.1 hrest
  simpa [lineText, label] using hlabel

theorem colors_lines (lines : List (Color × String × String)) (hsome : lines ≠ [])
    (h : ∀ line ∈ lines, line.2.1 ∈ labelNames) :
    Colors true (String.intercalate "\n" (lines.map (lineText false)) ++ "\n").toList
      (String.intercalate "\n" (lines.map (lineText true)) ++ "\n").toList := by
  induction lines with
  | nil => exact absurd rfl hsome
  | cons line rest ih =>
    have hline := h line List.mem_cons_self
    cases rest with
    | nil => simpa using colors_lineText hline (.nil true)
    | cons next rest =>
      have hrest := ih (List.cons_ne_nil next rest)
        fun other hother => h other (List.mem_cons_of_mem _ hother)
      simpa [String.intercalate_cons_cons] using colors_lineText hline hrest

theorem label_listed {f : Failure} {line : Color × String × String}
    (h : line ∈ failureLines f) : line.2.1 ∈ labelNames := by
  simp only [failureLines, List.mem_append, List.mem_singleton, Option.mem_toList,
    Option.map_eq_some_iff, List.mem_map] at h
  rcases h with (((rfl | ⟨_, -, rfl⟩) | ⟨_, -, rfl⟩) | ⟨_, -, rfl⟩) | ⟨_, -, rfl⟩
  · exact List.mem_cons_self
  · exact .tail _ (.head _)
  · exact .tail _ (.tail _ (.head _))
  · exact .tail _ (.tail _ (.tail _ (.head _)))
  · exact .tail _ (.tail _ (.tail _ (.tail _ (.head _))))

theorem colors_failureText (f : Failure) :
    Colors true (failureText f false ++ "\n").toList (failureText f true ++ "\n").toList :=
  colors_lines (failureLines f) (List.cons_ne_nil _ _) fun _ => label_listed

/-! ## Documents -/

/-- Without white space outside quotes, a document is the same on each display. -/
theorem squeeze_document (d : Display) (value : Json) :
    squeeze (d.document value) = value.sorted.compact := by
  obtain ⟨hcompact, hindented⟩ := Json.squeeze_line value.sorted
  unfold Display.document
  split
  · exact hindented
  · exact hcompact

/-- A document denotes the same value on each display. -/
theorem exists_denotes_document (value : Json) : ∃ j, ∀ d : Display,
    Denotes (d.document value) j := by
  obtain ⟨j, -, hcompact, hindented⟩ := Json.exists_denoted_layouts value.sorted
  refine ⟨j, fun d => ?_⟩
  unfold Display.document
  split
  · exact hindented.line
  · exact hcompact.line

/-! ## Answers -/

/-- Two answers, on two displays, that tell the same. -/
structure Answer.TellsAlike (a b : Answer) (d d' : Display) : Prop where
  exitCode : a.exitCode = b.exitCode
  requests : a.requests = b.requests
  stdout : squeeze a.stdout = squeeze b.stdout
  value : a.exitCode = 0 → ∃ j, Denotes a.stdout j ∧ Denotes b.stdout j
  report : d.stderrIsTerminal = false → d'.stderrIsTerminal = false → a.stderr = b.stderr
  /-- On terminals, only color makes a difference. -/
  lines : d.stderrIsTerminal = true → d'.stderrIsTerminal = true →
    d.color.isColored true = d'.color.isColored true → a.stderr = b.stderr
  colors : d.stderrIsTerminal = true → d'.stderrIsTerminal = true →
    d.color.isColored true = false → d'.color.isColored true = true →
    Colors true a.stderr.toList b.stderr.toList

theorem failure_report {d d' : Display} (f : Failure) (h : d.stderrIsTerminal = false)
    (h' : d'.stderrIsTerminal = false) : d.failure f = d'.failure f := by
  unfold Display.failure
  rw [h, h']
  rfl

theorem failure_lines {d d' : Display} (f : Failure) (h : d.stderrIsTerminal = true)
    (h' : d'.stderrIsTerminal = true) (hcolor : d.color.isColored true = d'.color.isColored true) :
    d.failure f = d'.failure f := by
  unfold Display.failure
  rw [h, h', hcolor]

theorem failure_colors {d d' : Display} (f : Failure) (h : d.stderrIsTerminal = true)
    (h' : d'.stderrIsTerminal = true) (hplain : d.color.isColored true = false)
    (hcolored : d'.color.isColored true = true) :
    Colors true (d.failure f).toList (d'.failure f).toList := by
  unfold Display.failure
  rw [h, h', hplain, hcolored]
  exact colors_failureText f

/-- What a command leaves is told alike on any two displays. -/
theorem answer_tellsAlike (e : Execution) (d d' : Display) :
    (d.answer e).TellsAlike (d'.answer e) d d' := by
  unfold Display.answer
  cases e.result with
  | ok value =>
    obtain ⟨j, hj⟩ := exists_denotes_document value
    refine ⟨rfl, rfl, ?_, fun _ => ⟨j, hj d, hj d'⟩, fun _ _ => rfl, fun _ _ _ => rfl,
      fun _ _ _ _ => .nil true⟩
    show squeeze (d.document value) = squeeze (d'.document value)
    rw [squeeze_document, squeeze_document]
  | error f =>
    refine ⟨rfl, rfl, rfl, ?_, failure_report _, failure_lines _, failure_colors _⟩
    intro hzero
    exact absurd hzero (exitCode_ne_zero f.kind)

theorem exists_execution {command : Command} (h : ∀ shell, command ≠ .completion shell)
    (w : World) (apiUrl : Option String) : ∃ e, command.execution? w apiUrl = some e := by
  cases command with
  | query document vars field => exact ⟨_, rfl⟩
  | run code graph port host => exact ⟨_, rfl⟩
  | results path keys => exact ⟨_, rfl⟩
  | version => exact ⟨_, rfl⟩
  | completion shell => exact absurd rfl (h shell)

theorem Answer.TellsAlike.with_logs {a b : Answer} {d d' : Display} (h : a.TellsAlike b d d')
    (log log' : List Log.Record) :
    Answer.TellsAlike { a with log := log } { b with log := log' } d d' :=
  ⟨h.exitCode, h.requests, h.stdout, h.value, h.report, h.lines, h.colors⟩

/-! ## The law -/

/-- Neither the choice of color nor the terminals change what a command does. Two runs of one
command exit alike and make the same requests. What they show is the same but for white space
outside quotes, and denotes the same value; what they report is the same on one line, and on a
terminal it is the same but for the sequences around the labels. -/
theorem display_settings_change_nothing_but_layout_and_color (w : World) (c c' : Console)
    (invocation : Invocation) (color' : ColorMode)
    (hcommand : ∀ shell, invocation.command ≠ .completion shell) :
    (runRequest w c (.run invocation)).TellsAlike
        (runRequest w c' (.run { invocation with color := color' })) (c.display invocation.color)
        (c'.display color') ∧
    ∀ args args', Request.ofArguments args = .ok (.run invocation) →
      Request.ofArguments args' = .ok (.run { invocation with color := color' }) →
        (run w c args).TellsAlike (run w c' args') (c.display invocation.color)
          (c'.display color') := by
  obtain ⟨e, he⟩ := exists_execution hcommand w invocation.apiUrl
  have halike : (runRequest w c (.run invocation)).TellsAlike
      (runRequest w c' (.run { invocation with color := color' })) (c.display invocation.color)
      (c'.display color') := by
    have hanswer : ∀ c color, runRequest w c (.run { invocation with color := color }) =
        (c.display color).answer e := fun _ _ => runCommand_eq he
    rw [hanswer c invocation.color, hanswer c' color']
    exact answer_tellsAlike e _ _
  refine ⟨halike, ?_⟩
  intro args args' hargs hargs'
  obtain ⟨log, hrun⟩ := run_of_request (w := w) (c := c) hargs
  obtain ⟨log', hrun'⟩ := run_of_request (w := w) (c := c') hargs'
  rw [hrun, hrun']
  exact halike.with_logs log log'

/-! ## Two commands -/

def terminalConsole : Console := ⟨true, true, none⟩

/-- The run of `refusedArguments`, with a choice of color. -/
def coloredArguments (color : ColorMode) : List String :=
  "--color" :: color.name :: refusedArguments

/-- A failure is told in color and without, and the version on a terminal and elsewhere. The two
texts of the version are not the same, but they are without their layout. -/
theorem a_failure_and_a_version_are_told_alike_on_two_displays :
    Colors true
      (run refusingWorld terminalConsole (coloredArguments .never)).stderr.toList
      (run refusingWorld terminalConsole (coloredArguments .always)).stderr.toList ∧
    squeeze (run refusingWorld terminalConsole ["version"]).stdout =
      squeeze (run refusingWorld plainConsole ["version"]).stdout ∧
    (run refusingWorld terminalConsole ["version"]).stdout ≠
      (run refusingWorld plainConsole ["version"]).stdout := by
  obtain ⟨-, hrefused⟩ := display_settings_change_nothing_but_layout_and_color refusingWorld
    terminalConsole terminalConsole
    ⟨none, .never, .run (.text "c") (.text "null") none "[::1]"⟩ .always nofun
  obtain ⟨-, hversion⟩ := display_settings_change_nothing_but_layout_and_color refusingWorld
    terminalConsole plainConsole ⟨none, .auto, .version⟩ .auto nofun
  refine ⟨?_, ?_, ?_⟩
  · exact (hrefused (coloredArguments .never) (coloredArguments .always) (by cbv)
      (by cbv)).colors rfl rfl rfl rfl
  · exact (hversion ["version"] ["version"] (by cbv) (by cbv)).stdout
  · cbv

end ResultGateway.CommandLine
