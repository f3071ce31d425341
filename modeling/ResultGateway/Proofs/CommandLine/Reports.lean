-- The two forms of a failure tell the same. The text on a terminal is made
-- of the document alone: a line for the message, for each part that there
-- is, and for each error below the failure. Neither form loses an error,
-- tells it twice or moves it.
import Mathlib
import ResultGateway.Proofs.CommandLine.Displays

namespace ResultGateway

/-! ## The errors below a failure -/

namespace Failure

/-- The errors from one down, nearest first. Each has come of the one behind it, and the last of
none. -/
inductive Cause.IsTrail : Option Cause → List Cause → Prop where
  | last : IsTrail none []
  | step {error : Cause} {below : List Cause} (h : IsTrail error.cause below) :
      IsTrail (some error) (error :: below)

theorem Cause.sizeOf_cause (error : Cause) : sizeOf error.cause < sizeOf error := by
  cases error with
  | failure kind message hint url status cause =>
    simp only [Cause.cause, Cause.failure.sizeOf_spec]
    omega
  | other text cause =>
    simp only [Cause.cause, Cause.other.sizeOf_spec]
    omega

/-- However the errors are mixed, there is a last one. -/
theorem Cause.exists_isTrail : ∀ cause : Option Cause, ∃ errors, IsTrail cause errors
  | none => ⟨[], .last⟩
  | some error =>
    have ⟨below, hbelow⟩ := exists_isTrail error.cause
    ⟨error :: below, .step hbelow⟩
termination_by cause => sizeOf cause
decreasing_by
  have := error.sizeOf_cause
  simp only [Option.some.sizeOf_spec]
  omega

theorem Cause.tell_eq (told : List String) (error : Cause) :
    error.tell told = tellBelow (told ++ [error.text]) error.cause := by
  cases error <;> rfl

/-- What is told from one error down stands behind what was told before, in the order of the
trail. -/
theorem Cause.IsTrail.tellBelow_eq {cause : Option Cause} {errors : List Cause}
    (h : IsTrail cause errors) (told : List String) :
    tellBelow told cause = told ++ errors.map Cause.text := by
  induction h generalizing told with
  | last => simp [tellBelow]
  | @step error below h ih =>
    rw [tellBelow, tell_eq, ih, List.map_cons, List.append_assoc, List.singleton_append]

theorem Cause.IsTrail.causes_dueTo {cause : Option Cause} {errors : List Cause}
    (h : IsTrail cause errors) (f : Failure) : (f.dueTo cause).causes = errors.map Cause.text :=
  h.tellBelow_eq []

end Failure

namespace CommandLine

open Failure (Cause)

/-! ## From the document to the text -/

/-- What is shown of the value of a member: a text as it is, and all else as it is written. -/
def shownValue : Json → String
  | .str s => s
  | value => value.compact

/-- A line for a member of a report, if it has it. -/
def memberLine (color : Color) (name : String) (value : Option Json) :
    List (Color × String × String) :=
  (value.map fun value => (color, name, shownValue value)).toList

/-- A line for each item of a list. -/
def itemLines (color : Color) (name : String) : Option Json → List (Color × String × String)
  | some (.arr items) => items.map fun item => (color, name, shownValue item)
  | _ => []

def reportLines (report : Json) : List (Color × String × String) :=
  memberLine .red "error:" (report.get? "message")
    ++ memberLine .yellow "hint:" (report.get? "hint")
    ++ memberLine .yellow "url:" (report.get? "url")
    ++ memberLine .yellow "status:" (report.get? "status")
    ++ itemLines .yellow "caused by:" (report.get? "causes")

/-- The text that stands for the document of a failure on a terminal. -/
def documentText (document : Json) (isColored : Bool) : String :=
  String.intercalate "\n"
    (((document.get? "error").map reportLines).getD [] |>.map (lineText isColored))

theorem shownValue_nat (n : Nat) : shownValue (.nat n) = String.ofList (Text.decimal n) := by
  show String.ofList (Text.decimalInt n) = _
  rw [Text.decimalInt, if_neg (by omega), Int.natAbs_natCast]

theorem memberLine_map {α : Type} (color : Color) (name : String) (value : Option α)
    (toJson : α → Json) : memberLine color name (value.map toJson) =
      (value.map fun a => (color, name, shownValue (toJson a))).toList := by
  rw [memberLine, Option.map_map]
  rfl

theorem itemLines_texts (color : Color) (name : String) (texts : List String) :
    itemLines color name (if texts = [] then none else some (.arr (texts.map Json.str))) =
      texts.map fun s => (color, name, s) := by
  cases texts with
  | nil => rfl
  | cons s rest =>
    rw [if_neg (List.cons_ne_nil s rest), itemLines, List.map_map]
    rfl

theorem reportLines_report (f : Failure) :
    reportLines (.ofMembers (reportMembers f)) = failureLines f := by
  obtain ⟨-, hmessage, hhint, hurl, hstatus, hcauses, -⟩ := tells_report f
  rw [reportLines, hmessage, hhint, hurl, hstatus, hcauses, itemLines_texts]
  simp only [memberLine_map, shownValue_nat]
  rfl

theorem failureText_eq_documentText (f : Failure) (isColored : Bool) :
    failureText f isColored = documentText (failureJson f) isColored := by
  have hreport : (failureJson f).get? "error" = some (.ofMembers (reportMembers f)) := rfl
  rw [documentText, hreport, Option.map_some, Option.getD_some, reportLines_report]
  rfl

/-! ## What both forms tell -/

/-- The members of a report, by name: all that is told, and the kind. -/
def toldMembers (f : Failure) (errors : List Cause) : List (String × Json) :=
  let causes := if errors = [] then none
    else some (Json.arr (errors.map fun error => Json.str error.text))
  optionalMember "causes" causes
    ++ optionalMember "hint" (f.hint.map Json.str)
    ++ [("kind", .str f.kind.name), ("message", .str (f.message.getD f.kind.name))]
    ++ optionalMember "status" (f.status.map Json.nat)
    ++ optionalMember "url" (f.url.map Json.str)

/-- The lines of a text: the message, the other parts that there are, and each error. -/
def toldLines (isColored : Bool) (f : Failure) (errors : List Cause) : List String :=
  let line (color : Color) (name s : String) := label isColored color name ++ " " ++ s
  [line .red "error:" (f.message.getD f.kind.name)]
    ++ (f.hint.map (line .yellow "hint:")).toList
    ++ (f.url.map (line .yellow "url:")).toList
    ++ (f.status.map fun n => line .yellow "status:" (String.ofList (Text.decimal n))).toList
    ++ errors.map fun error => line .yellow "caused by:" error.text

theorem sublist_optionalMember (name : String) (value : Option Json) :
    ((optionalMember name value).map Prod.fst).Sublist [name] := by
  cases value with
  | none => exact List.nil_sublist [name]
  | some value => exact List.Sublist.refl [name]

theorem lookup_told (f : Failure) (errors : List Cause) (name : String) :
    Json.lookup name (toldMembers f errors) =
      (Json.ofMembers (reportMembers { f with causes := errors.map Cause.text })).get? name := by
  rw [get?_report]
  simp only [toldMembers, Json.lookup_append, lookup_optionalMember, Json.lookup,
    shownMessage, List.map_eq_nil_iff, List.map_map, Function.comp_def]
  split_ifs <;> simp_all

theorem namesAscend_told (f : Failure) (errors : List Cause) :
    Json.NamesAscend ((toldMembers f errors).map Prod.fst) := by
  have hall : Json.NamesAscend ["causes", "hint", "kind", "message", "status", "url"] :=
    ⟨by decide, by decide, by decide, by decide, by decide, trivial⟩
  rw [Json.namesAscend_iff_pairwise] at hall ⊢
  refine hall.sublist ?_
  simp only [toldMembers, List.map_append]
  exact ((((sublist_optionalMember "causes" _).append (sublist_optionalMember "hint" _)).append
    (List.Sublist.refl ["kind", "message"])).append (sublist_optionalMember "status" _)).append
    (sublist_optionalMember "url" _)

theorem sortMembers_report (f : Failure) (errors : List Cause)
    (h : f.causes = errors.map Cause.text) :
    Json.sortMembers (reportMembers f) = toldMembers f errors := by
  apply Json.eq_of_lookup (Json.namesAscend_sortMembers _) (namesAscend_told f errors)
  intro name
  rw [lookup_told, ← h]
  rfl

theorem failureText_eq_lines (f : Failure) (errors : List Cause)
    (h : f.causes = errors.map Cause.text) (isColored : Bool) :
    failureText f isColored = String.intercalate "\n" (toldLines isColored f errors) := by
  have hlines : (failureLines f).map (lineText isColored) = toldLines isColored f errors := by
    simp only [failureLines, toldLines, h, List.map_append, List.map_map, Option.toList_map]
    rfl
  rw [← hlines]
  rfl

/-! ## The law -/

/-- The text of a failure is made of its document, in color and without, whatever parts the failure
has and whatever errors it came of. Both tell the message, or else the name of the kind, and every
part there is, and the errors, each in its place; the document tells the kind as well. -/
theorem the_text_of_a_failure_is_made_of_its_document (f : Failure) (cause : Option Cause) :
    ∃ errors, Cause.IsTrail cause errors ∧
      failureJson (f.dueTo cause) = .obj [("error", .obj (toldMembers f errors))] ∧
      ∀ isColored,
        failureText (f.dueTo cause) isColored =
          String.intercalate "\n" (toldLines isColored f errors) ∧
        failureText (f.dueTo cause) isColored =
          documentText (failureJson (f.dueTo cause)) isColored := by
  obtain ⟨errors, htrail⟩ := Cause.exists_isTrail cause
  have hcauses := htrail.causes_dueTo f
  refine ⟨errors, htrail, ?_, ?_⟩
  · rw [failureJson_eq, Json.ofMembers, sortMembers_report _ errors hcauses]
    rfl
  · intro isColored
    exact ⟨failureText_eq_lines _ errors hcauses isColored,
      failureText_eq_documentText _ isColored⟩

-- A failure without a message, over an error from elsewhere that has come of a failure.
example :
    let socket : Cause :=
      .failure .io (some "socket closed") (some reachableHint) none (some 502) none
    failureText (Failure.dueTo { kind := .permission, status := some 403 }
      (some (.other "connection lost" (some socket)))) false =
      "error: Permission\nstatus: 403\ncaused by: connection lost\n" ++
        "caused by: Io: socket closed (status: 502)" := by cbv

end CommandLine

end ResultGateway
