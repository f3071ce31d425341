-- What a run makes of an answer in which all numbers are integers. It shows
-- the answer as it is if and only if all its integers are kept: each fits
-- in 64 bits, and no zero has a sign. Any other answer is shown with other
-- numbers in the same places, or it is refused. An answer that is too long
-- is not read at all.
import Mathlib
import ResultGateway.Proofs.CommandLine.ResultSets
import ResultGateway.Proofs.Gateway.Replies
import ResultGateway.Proofs.Json.Integers

namespace ResultGateway.CommandLine

open Gateway (Brings ByLength FailsUnread Runner readReply runPhase)
open Http (Network Reply Wire)
open Json (IsIntegral Reader ShowsIntegers)

/-! ## Answers that are read -/

/-- A short answer of another status than a failed one is read as the value of its text, or
refused. -/
theorem readReply_value {reply : Reply} (hstatus : reply.status < 400) {text : String}
    (hbrings : Brings reply text) (hshort : reply.body.length ≤ Reply.greatestBody)
    (cause : Failure.Cause) (url : Url) :
    (∀ value, Json.parse text = .ok value →
      readReply Reader.value cause url (some reply) = .ok value) ∧
    ((∃ e, Json.parse text = .error e) →
      ∃ f, readReply Reader.value cause url (some reply) = .error f ∧ f.kind = .internal ∧
        f.message = some "invalid response json") := by
  obtain ⟨hgives, hfails⟩ := Gateway.readReply_text Reader.value cause url hstatus
    (hbrings.text?_eq_some hshort)
  refine ⟨hgives, ?_⟩
  rintro ⟨e, he⟩
  obtain ⟨f, hf, -, hkind, hmessage⟩ := hfails e he
  exact ⟨f, hf, hkind, hmessage⟩

/-- A failure of an answer that is no document. -/
def IsRefused (result : Except Failure Json) : Prop :=
  ∃ f, result = .error f ∧ f.kind = .internal ∧ f.message = some "invalid response json"

/-- A world in which a run gets an answer. -/
def World.Answers (w : World) (apiUrl : Option String) (code graph : Source) (port : Option Nat)
    (host : String) (reply : Reply) : Prop :=
  ∃ plan url, planRun w apiUrl code graph port host = .ok plan ∧
    plan.runner.url none = .ok url ∧
    (runPhase w.network url plan.code plan.graph ⟨w.replies, []⟩).final = some reply

theorem Answer.Prints.showsDocument {a : Answer} {d : Display} {value : Json}
    (h : a.Prints d value) : a.ShowsDocument value :=
  ⟨h.exitCode, h.stdout ▸ document_spells d value, h.stderr⟩

section

variable {text : String} {written : Json} {inside : List Char} (h : IsIntegral text written inside)
  {reply : Reply} (hstatus : reply.status < 400) (hbrings : Brings reply text)

include h hstatus hbrings

theorem run_showsIntegers {net : Network} {r : Runner} {code : String} {graph : Json}
    {port : Option Nat} {wire : Wire} {url : Url} (hurl : r.url port = .ok url)
    (hfinal : (runPhase net url code graph wire).final = some reply) :
    ByLength reply
      (ShowsIntegers written inside
        (fun value => (r.run net code graph port wire).result = .ok value)
        (IsRefused (r.run net code graph port wire).result))
      (FailsUnread (r.run net code graph port wire).result) := by
  have hresult := Gateway.run_result net wire r code graph port hurl
  rw [show (Http.send net (Gateway.runCall url code graph) wire).result = some reply from hfinal]
    at hresult
  rw [hresult]
  refine ⟨fun hshort => ?_, fun hlong => hbrings.failsUnread hstatus hlong _ _ _⟩
  obtain ⟨hread, hrefused⟩ := readReply_value hstatus hbrings hshort _ url
  exact h.showsIntegers.imp hread hrefused

theorem run_command_showsIntegers {w : World} {c : Console} {args : List String}
    {apiUrl : Option String} {color : ColorMode} {code graph : Source} {port : Option Nat}
    {host : String} (hargs : Request.ofArguments args =
      .ok (.run ⟨apiUrl, color, .run code graph port host⟩))
    (hanswers : w.Answers apiUrl code graph port host reply) :
    ByLength reply
      (ShowsIntegers written inside
        (fun value => (run w c args).Prints (c.display color) value ∧
          (run w c args).ShowsDocument value)
        ((run w c args).Fails (c.display color) 1 "invalid response json"))
      ((run w c args).Fails (c.display color) 6 "failed to read response body") := by
  obtain ⟨plan, url, hplan, hurl, hfinal⟩ := hanswers
  have hresult : (executeRun w apiUrl code graph port host).result =
      (plan.runner.run w.network plan.code plan.graph none ⟨w.replies, []⟩).result := by
    unfold executeRun
    rw [hplan]
  have hrun := run_showsIntegers h hstatus hbrings hurl hfinal
  refine ⟨fun hshort => (hrun.short hshort).imp ?_ ?_, fun hlong => ?_⟩
  · intro value hvalue
    have hprints := run_prints (c := c) hargs rfl (hresult.trans hvalue)
    exact ⟨hprints, hprints.showsDocument⟩
  · rintro ⟨f, hf, hkind, hmessage⟩
    exact run_fails hargs rfl (hresult.trans hf) hkind hmessage
  · obtain ⟨f, hf, hkind, hmessage⟩ := hrun.long hlong
    exact run_fails hargs rfl (hresult.trans hf) hkind hmessage

end

/-! ## The law -/

/-- A run gives an answer of integers as it is, and the program shows it so, if they are kept. If
not, what is given and shown has the same structure and texts, and other numbers where integers
are not kept, unless an integer that does not fit is too large to be read at all. An answer that
is too long to be read fails the run, and the program. -/
theorem an_answer_of_integers_is_shown_as_it_is_if_they_are_kept {text : String} {written : Json}
    {inside : List Char} (h : IsIntegral text written inside) {reply : Reply}
    (hstatus : reply.status < 400) (hbrings : Brings reply text) :
    (∀ (net : Network) (r : Runner) (code : String) (graph : Json) (port : Option Nat)
      (wire : Wire) (url : Url), r.url port = .ok url →
      (runPhase net url code graph wire).final = some reply →
      ByLength reply
        (ShowsIntegers written inside
          (fun value => (r.run net code graph port wire).result = .ok value)
          (IsRefused (r.run net code graph port wire).result))
        (FailsUnread (r.run net code graph port wire).result)) ∧
    ∀ (w : World) (c : Console) (args : List String) (apiUrl : Option String) (color : ColorMode)
      (code graph : Source) (port : Option Nat) (host : String),
      Request.ofArguments args = .ok (.run ⟨apiUrl, color, .run code graph port host⟩) →
      w.Answers apiUrl code graph port host reply →
      ByLength reply
        (ShowsIntegers written inside
          (fun value => (run w c args).Prints (c.display color) value ∧
            (run w c args).ShowsDocument value)
          ((run w c args).Fails (c.display color) 1 "invalid response json"))
        ((run w c args).Fails (c.display color) 6 "failed to read response body") := by
  refine ⟨?_, ?_⟩
  · intro net r code graph port wire url hurl hfinal
    exact run_showsIntegers h hstatus hbrings hurl hfinal
  · intro w c args apiUrl color code graph port host hargs hanswers
    exact run_command_showsIntegers h hstatus hbrings hargs hanswers

/-! ## Three answers -/

def textReply (text : String) : Reply := ⟨200, [], text.toUTF8.data.toList, 0⟩

/-- A world of one run, whose server answers with a text. -/
def textWorld (text : String) : World := { refusingWorld with replies := [textReply text] }

theorem answers_textWorld (text : String) :
    (textWorld text).Answers none (.text "c") (.text "null") none "[::1]" (textReply text) := by
  refine ⟨⟨Gateway.sampleRunner, "c", .null⟩, Gateway.sampleRunUrl, ?_, ?_, ?_⟩
  · cbv
  · cbv
  · cbv

/-- An answer of an object with a list of two integers. -/
def integersAnswer : Json := .obj [("a", .arr [.int 1, .int (-2)])]

theorem two_integers_are_shown_as_they_are :
    integersAnswer.compact = "\x7b\"a\":[1,-2]\x7d" ∧
    (textReply integersAnswer.compact).body.length ≤ Reply.greatestBody ∧
    (run (textWorld integersAnswer.compact) plainConsole refusedArguments).Prints
      (plainConsole.display .auto) integersAnswer := by
  have hfits : Json.Within Json.Number.IsExact Json.greatestDepth integersAnswer := by
    refine .obj (List.forall_mem_singleton.mpr (.arr ?_))
    refine List.forall_mem_cons.mpr ⟨?_, List.forall_mem_singleton.mpr ?_⟩
    · exact .num ⟨1, rfl, by decide, by decide⟩
    · exact .num ⟨-2, rfl, by decide, by decide⟩
  have hnames : Json.NamesOnce integersAnswer := by
    refine .obj (by decide) (List.forall_mem_singleton.mpr (.arr ?_))
    exact List.forall_mem_cons.mpr ⟨.num _, List.forall_mem_singleton.mpr (.num _)⟩
  obtain ⟨hintegral, hkept⟩ := Json.isIntegral_compact hfits hnames
  have hstatus : (textReply integersAnswer.compact).status < 400 := by decide
  have hbrings : Brings (textReply integersAnswer.compact) integersAnswer.compact :=
    ⟨rfl, rfl, by decide +kernel⟩
  have hshort : (textReply integersAnswer.compact).body.length ≤ Reply.greatestBody := by
    decide +kernel
  have hlaw :=
    an_answer_of_integers_is_shown_as_it_is_if_they_are_kept hintegral hstatus hbrings
  have hshown := ((hlaw.2 _ plainConsole refusedArguments _ _ _ _ _ _ rfl
    (answers_textWorld _)).short hshort).kept hkept
  exact ⟨by decide +kernel, hshort, hshown.1⟩

/-- An integer of 65 bits and a zero with a sign are shown as other numbers. -/
theorem two_integers_are_shown_as_reals :
    (run (textWorld "18446744073709551616") plainConsole refusedArguments).stdout =
      "1.8446744073709552e+19\n" ∧
    (run (textWorld "-0") plainConsole refusedArguments).stdout = "-0.0\n" := by
  refine ⟨?_, ?_⟩
  · decide +kernel
  · decide +kernel

end ResultGateway.CommandLine
