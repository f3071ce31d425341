-- How the program ends. A command that succeeds shows one document on its
-- output and nothing else. A command that fails, or arguments that are no
-- request, show nothing on the output; where no terminal is, they report
-- the failure on one line that can be read back.
import Mathlib
import ResultGateway.Proofs.CommandLine.Statuses
import ResultGateway.Proofs.Json.ReadBack

namespace ResultGateway.CommandLine

open Json (lookup lookup_append lookup_sortMembers)

/-! ## Commands -/

/-- What a command leaves. The script of a shell is no document, and leaves none. -/
def Command.execution? (w : World) (apiUrl : Option String) : Command → Option Execution
  | .query document vars field => some (executeQuery w apiUrl document vars field)
  | .run code graph port host => some (executeRun w apiUrl code graph port host)
  | .results path keys => some (executeResults w path keys)
  | .version => some { result := .ok versionJson }
  | .completion _ => none

theorem runCommand_eq {w : World} {d : Display} {apiUrl : Option String} {command : Command}
    {e : Execution} (h : command.execution? w apiUrl = some e) :
    runCommand w d apiUrl command = d.answer e := by
  cases command <;> cases h <;> rfl

theorem statusFrom_execution {w : World} {apiUrl : Option String} {command : Command}
    {e : Execution} (h : command.execution? w apiUrl = some e) : StatusFrom w.replies e.result := by
  cases command with
  | query document vars field =>
    cases h
    exact statusFrom_executeQuery w apiUrl document vars field
  | run code graph port host =>
    cases h
    exact statusFrom_executeRun w apiUrl code graph port host
  | results path keys =>
    cases h
    exact statusFrom_executeResults w path keys
  | version =>
    cases h
    exact statusFrom_ok versionJson
  | completion shell => cases h

/-! ## Reports -/

def reportNames : List String := ["kind", "message", "hint", "url", "status", "causes"]

/-- An object that tells all that a failure tells, and nothing else. -/
structure Tells (report : Json) (f : Failure) : Prop where
  kind : report.get? "kind" = some (.str f.kind.name)
  /-- A failure without a message has the name of its kind for one. -/
  message : report.get? "message" = some (.str (f.message.getD f.kind.name))
  hint : report.get? "hint" = f.hint.map Json.str
  url : report.get? "url" = f.url.map Json.str
  status : report.get? "status" = f.status.map Json.nat
  causes : report.get? "causes" =
    if f.causes = [] then none else some (.arr (f.causes.map Json.str))
  names : ∀ name, (report.get? name).isSome → name ∈ reportNames

/-- The members of a report, in no order. -/
def reportMembers (f : Failure) : List (String × Json) :=
  let causes := if f.causes.isEmpty then none else some (Json.arr (f.causes.map Json.str))
  [("kind", .str f.kind.name), ("message", .str (shownMessage f))]
    ++ optionalMember "hint" (f.hint.map Json.str)
    ++ optionalMember "url" (f.url.map Json.str)
    ++ optionalMember "status" (f.status.map Json.nat)
    ++ optionalMember "causes" causes

theorem failureJson_eq (f : Failure) :
    failureJson f = .obj [("error", .ofMembers (reportMembers f))] := rfl

theorem reverse_optionalMember (name : String) (value : Option Json) :
    (optionalMember name value).reverse = optionalMember name value := by
  cases value <;> rfl

theorem lookup_optionalMember (name other : String) (value : Option Json) :
    lookup name (optionalMember other value) = if name = other then value else none := by
  cases value with
  | none => simp [optionalMember, lookup]
  | some value => simp [optionalMember, lookup]

theorem get?_report (f : Failure) (name : String) :
    (Json.ofMembers (reportMembers f)).get? name =
      if name = "kind" then some (.str f.kind.name)
      else if name = "message" then some (.str (shownMessage f))
      else if name = "hint" then f.hint.map Json.str
      else if name = "url" then f.url.map Json.str
      else if name = "status" then f.status.map Json.nat
      else if name = "causes" then
        if f.causes = [] then none else some (.arr (f.causes.map Json.str))
      else none := by
  show lookup name (Json.sortMembers (reportMembers f)) = _
  rw [lookup_sortMembers]
  simp only [reportMembers, List.reverse_append, lookup_append, reverse_optionalMember,
    lookup_optionalMember, List.reverse_cons, List.reverse_nil, lookup, List.isEmpty_iff]
  grind

theorem tells_report (f : Failure) : Tells (.ofMembers (reportMembers f)) f := by
  refine ⟨?_, ?_, ?_, ?_, ?_, ?_, ?_⟩
  · rw [get?_report]
    rfl
  · rw [get?_report]
    rfl
  · rw [get?_report]
    rfl
  · rw [get?_report]
    rfl
  · rw [get?_report]
    rfl
  · rw [get?_report]
    rfl
  · intro name h
    rw [get?_report] at h
    simp only [reportNames, List.mem_cons, List.not_mem_nil, or_false]
    grind

/-! ## Reading a report back -/

/-- A status is a word of 16 bits. -/
def greatestStatus : Nat := 0xffff

theorem isExact_nat {n : Nat} (h : n ≤ greatestStatus) : (Json.Number.integer n).IsExact := by
  refine ⟨n, rfl, ?_⟩
  unfold greatestStatus at h
  unfold Json.Number.Fits
  omega

/-- What a member of a report may hold: a text, a status, or a list of texts. -/
theorem value_of_mem_report {f : Failure} {member : String × Json}
    (h : member ∈ reportMembers f) :
    (∃ s, member.2 = .str s) ∨ (∃ status, f.status = some status ∧ member.2 = .nat status) ∨
      member.2 = .arr (f.causes.map Json.str) := by
  have hoptional : ∀ {name : String} {value : Option Json} {member : String × Json},
      member ∈ optionalMember name value → value = some member.2 := by
    intro name value member hmember
    cases value with
    | none => cases hmember
    | some value => rw [List.mem_singleton.mp hmember]
  simp only [reportMembers, List.mem_append, List.mem_cons, List.not_mem_nil, or_false] at h
  rcases h with ((((rfl | rfl) | h) | h) | h) | h
  · exact .inl ⟨_, rfl⟩
  · exact .inl ⟨_, rfl⟩
  · obtain ⟨s, -, hs⟩ := Option.map_eq_some_iff.mp (hoptional h)
    exact .inl ⟨s, hs.symm⟩
  · obtain ⟨s, -, hs⟩ := Option.map_eq_some_iff.mp (hoptional h)
    exact .inl ⟨s, hs.symm⟩
  · obtain ⟨status, hstatus, heq⟩ := Option.map_eq_some_iff.mp (hoptional h)
    exact .inr (.inl ⟨status, hstatus, heq.symm⟩)
  · have hcauses := hoptional h
    split at hcauses
    · cases hcauses
    · exact .inr (.inr (Option.some.inj hcauses).symm)

section

variable {f : Failure} (h : ∀ status, f.status = some status → status ≤ greatestStatus)

include h

theorem within_failureJson : Json.Within Json.Number.IsExact 3 (failureJson f) := by
  rw [failureJson_eq]
  refine .obj ?_
  intro outer houter
  rw [List.mem_singleton.mp houter]
  refine .obj ?_
  intro member hmember
  rcases value_of_mem_report (Json.mem_sortMembers hmember) with
    ⟨s, hs⟩ | ⟨status, hstatus, heq⟩ | hcauses
  · rw [hs]
    exact .str s
  · rw [heq]
    exact .num (isExact_nat (h status hstatus))
  · rw [hcauses]
    refine .arr ?_
    intro item hitem
    obtain ⟨cause, -, rfl⟩ := List.mem_map.mp hitem
    exact .str cause

theorem canonical_failureJson : Json.Canonical (failureJson f) := by
  rw [failureJson_eq]
  refine ⟨trivial, ?_, trivial⟩
  apply Json.canonical_ofMembers
  intro member hmember
  rcases value_of_mem_report hmember with ⟨s, hs⟩ | ⟨status, hstatus, heq⟩ | hcauses
  · rw [hs]
    trivial
  · rw [heq]
    obtain ⟨i, hi, hfits⟩ := isExact_nat (h status hstatus)
    cases hi
    exact hfits
  · rw [hcauses]
    apply Json.canonicalItems_iff.mpr
    intro item hitem
    obtain ⟨cause, -, rfl⟩ := List.mem_map.mp hitem
    trivial

/-- A report is read back from the line that it is written on. -/
theorem parse_failureJson : Json.parse (failureJson f).compact = .ok (failureJson f) := by
  rw [Json.parse_compact ((within_failureJson h).mono (by decide)),
    Json.sorted_of_canonical (canonical_failureJson h)]

end

/-! ## Answers -/

/-- An answer that is one document on the output and one line end, and nothing else. -/
structure Answer.ShowsDocument (a : Answer) (value : Json) : Prop where
  exitCode : a.exitCode = 0
  stdout : ∃ text, a.stdout = text ++ "\n" ∧
    Json.Spells Json.Literal.Shows value.sorted text.toList
  stderr : a.stderr = ""

/-- An answer that reports a failure, on one line where no terminal is. -/
structure Answer.Reports (a : Answer) (c : Console) (f : Failure) : Prop where
  exitCode : a.exitCode = f.kind.exitCode
  stdout : a.stdout = ""
  stderr : c.stderrIsTerminal = false → ∃ line report, a.stderr = line ++ "\n" ∧
    '\n' ∉ line.toList ∧ Json.parse line = .ok (.obj [("error", report)]) ∧ Tells report f

theorem exitCode_ne_zero (kind : Failure.Kind) : kind.exitCode ≠ 0 := by
  cases kind <;> decide

theorem document_spells (d : Display) (value : Json) : ∃ text, d.document value = text ++ "\n" ∧
    Json.Spells Json.Literal.Shows value.sorted text.toList := by
  obtain ⟨depth, hwithin⟩ := Json.exists_within value.sorted
  have hnumber : ∀ n : Json.Number, True → ∃ l : Json.Literal, l.IsText n.text ∧ l.Shows n :=
    fun n _ => n.exists_literal
  unfold Display.document
  split
  · refine ⟨_, rfl, ?_⟩
    rw [Json.indented, String.toList_ofList]
    exact Json.spells_writeIndented hnumber hwithin 0
  · refine ⟨_, rfl, ?_⟩
    rw [Json.compact, String.toList_ofList]
    exact Json.spells_write hnumber hwithin

theorem failure_reports {c : Console} {color : ColorMode} {f : Failure}
    (h : ∀ status, f.status = some status → status ≤ greatestStatus)
    (hterminal : c.stderrIsTerminal = false) :
    ∃ line report, (c.display color).failure f = line ++ "\n" ∧ '\n' ∉ line.toList ∧
      Json.parse line = .ok (.obj [("error", report)]) ∧ Tells report f := by
  refine ⟨(failureJson f).compact, .ofMembers (reportMembers f), ?_, ?_, ?_, tells_report f⟩
  · unfold Display.failure Console.display
    rw [hterminal]
    rfl
  · rw [Json.compact, String.toList_ofList]
    exact Json.newline_not_mem_write _
  · rw [← failureJson_eq]
    exact parse_failureJson h

theorem hintReachable_status (f : Failure) : (hintReachable f).status = f.status := by
  unfold hintReachable
  split <;> rfl

theorem hintReachable_kind (f : Failure) : (hintReachable f).kind = f.kind := by
  unfold hintReachable
  split <;> rfl

/-! ## What is shown -/

variable {c : Console}

theorem answer_showsDocument {d : Display} {e : Execution} {value : Json}
    (h : e.result = .ok value) : (d.answer e).ShowsDocument value := by
  unfold Display.answer
  rw [h]
  exact ⟨rfl, document_spells d value, rfl⟩

theorem answer_reports {color : ColorMode} {e : Execution} {f : Failure}
    (h : e.result = .error f) (hstatus : ∀ status, f.status = some status →
      status ≤ greatestStatus) : ((c.display color).answer e).Reports c (hintReachable f) := by
  unfold Display.answer
  rw [h]
  refine ⟨?_, rfl, ?_⟩
  · rw [hintReachable_kind]
  · apply failure_reports
    rw [hintReachable_status]
    exact hstatus

theorem refuse_reports (e : UsageError) : (refuse c e).Reports c e.failure := by
  refine ⟨rfl, rfl, ?_⟩
  apply failure_reports
  intro status hnone
  cases hnone

/-- The filter of the log does not touch what is shown. -/
theorem run_of_request {w : World} {args : List String} {request : Request}
    (h : Request.ofArguments args = .ok request) :
    ∃ log, run w c args = { runRequest w c request with log } := by
  unfold run
  rw [h]
  exact ⟨_, rfl⟩

theorem run_of_error {w : World} {args : List String} {e : UsageError}
    (h : Request.ofArguments args = .error e) :
    ∃ log, run w c args = { refuse c e with log } := by
  unfold run
  rw [h]
  exact ⟨_, rfl⟩

/-! ## The law -/

/-- A world without files, whose servers refuse what they are asked. -/
def refusingWorld : World where
  environment := ⟨none, none⟩
  files := fun _ => .error .missing
  network := { reaches := fun _ => true, now := 0 }
  replies := [⟨403, [], [], 0⟩]
  ids := .countingFrom 0

/-- No terminal, and no setting of the log. -/
def plainConsole : Console := ⟨false, false, none⟩

def refusedArguments : List String :=
  ["run", "--code", "c", "--graph-json", "null", "--host", "[::1]"]

end ResultGateway.CommandLine
