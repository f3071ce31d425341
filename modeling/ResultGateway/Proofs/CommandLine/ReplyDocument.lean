-- The document of a reply. It shows the data and the errors of the reply,
-- whatever is loaded from the data, and a reply whose values have no reals
-- is decoded from it, with what was loaded passed over.
import ResultGateway.CommandLine.Run
import ResultGateway.Proofs.GraphQl.Wire
import ResultGateway.Proofs.Json.Lists

namespace ResultGateway.CommandLine

open GraphQl (Reply)
open Json (Arranged HasNoReals ReadsAs Within)
open Result (Store)

/-! ## Members of the document -/

def loadedMembers : Option Store.Summary → List (String × Json)
  | some summary => [("results", summaryJson summary)]
  | none => []

/-- The members of the document in the order of their names. -/
def replyMembers (reply : Reply) (loaded : Option Store.Summary) : List (String × Json) :=
  ("data", .orNull reply.data) :: ("errors", errorsJson reply.errors) :: loadedMembers loaded

theorem namesAscend_replyMembers (reply : Reply) (loaded : Option Store.Summary) :
    Json.NamesAscend ((replyMembers reply loaded).map Prod.fst) := by
  cases loaded with
  | none =>
    show Json.NamesAscend ["data", "errors"]
    exact ⟨by decide, trivial⟩
  | some summary =>
    show Json.NamesAscend ["data", "errors", "results"]
    exact ⟨by decide, by decide, trivial⟩

theorem replyJson_eq (reply : Reply) (loaded : Option Store.Summary) :
    replyJson reply loaded = .obj (replyMembers reply loaded) := by
  have hsorted := Json.sortMembers_of_namesAscend (namesAscend_replyMembers reply loaded)
  cases loaded with
  | none => exact congrArg Json.obj hsorted
  | some summary => exact congrArg Json.obj hsorted

/-- What is loaded changes neither the data nor the errors that are shown. -/
theorem get?_replyJson (reply : Reply) (loaded : Option Store.Summary) :
    (replyJson reply loaded).get? "data" = some (.orNull reply.data) ∧
    (replyJson reply loaded).get? "errors" = some (errorsJson reply.errors) := by
  rw [replyJson_eq]
  exact ⟨rfl, rfl⟩

/-! ## Reading the document back -/

section

variable {depth : Nat} {reply : Reply} (h : reply.IsAdmitted (depth + 1))
  (hreals : reply.HasNoReals)

include h hreals

theorem readsAs_data : ReadsAs (Json.Reader.optional .value (depth + 4))
    (Json.orNull reply.data).sorted reply.data := by
  cases hdata : reply.data with
  | none => exact Json.readsAs_null _ _
  | some data =>
    have hadmitted := h.data data hdata
    have hne : data ≠ .null := by
      rintro rfl
      exact h.has_no_null hdata
    rw [Json.orNull, Json.sorted_of_canonical hadmitted.canonical]
    exact (Json.readsAs_value hadmitted (hreals.data data hdata)).optional hne

theorem readsAs_errorsJson : ReadsAs (Json.Reader.optional (.list GraphQl.QueryError.shape.reader)
    (depth + 4)) (errorsJson reply.errors).sorted reply.errors := by
  cases herrors : reply.errors with
  | none => exact Json.readsAs_null _ _
  | some errors =>
    exact (GraphQl.readsAs_errors (h.errors errors herrors) (hreals.errors errors herrors)
      (.inr rfl)).optional (by simp [Json.sorted])

theorem readsAs_replyJson (loaded : Option Store.Summary) :
    ReadsAs (Reply.shape.reader (depth + 5)) (replyJson reply loaded).sorted reply := by
  have hloaded : Reply.shape.Carries (depth + 4) ⟨reply, ["errors", "data"]⟩
      (Json.sortedValues (loadedMembers loaded)) ⟨reply, ["errors", "data"]⟩ := by
    cases loaded with
    | none => exact .nil
    | some summary => exact .cons (Json.carriesOver_unknown rfl) .nil
  have hdata : Reply.shape.CarriesOver (depth + 4) ⟨Reply.shape.start, []⟩
      "data" (Json.orNull reply.data).sorted ⟨⟨reply.data, none⟩, ["data"]⟩ :=
    Json.carriesOver_field rfl (by simp) (Json.readsAs_field (readsAs_data h hreals) rfl _ _)
  have herrors : Reply.shape.CarriesOver (depth + 4) ⟨⟨reply.data, none⟩, ["data"]⟩
      "errors" (errorsJson reply.errors).sorted ⟨reply, ["errors", "data"]⟩ :=
    Json.carriesOver_field rfl (by simp) (Json.readsAs_field (readsAs_errorsJson h hreals) rfl _ _)
  rw [replyJson_eq, Json.sorted_of_namesAscend (namesAscend_replyMembers reply loaded)]
  exact Json.readsAs_object (.cons hdata (.cons herrors hloaded))
    (by simp [Reply.shape, Json.Field.of])

end

/-- Whatever a display makes of the document, the reply is decoded from it. -/
theorem decode_document {reply : Reply} (h : reply.IsAdmitted 123) (hreals : reply.HasNoReals)
    (loaded : Option Store.Summary) (d : Display) :
    Reply.shape.reader.decode (d.document (replyJson reply loaded)) = .ok reply := by
  have hread : ReadsAs (Reply.shape.reader Json.greatestDepth) (replyJson reply loaded).sorted
      reply := readsAs_replyJson h hreals loaded
  have hend : Json.IsBlank "\n".toList := Json.isBlank_newLine 0
  unfold Json.Reader.decode Display.document
  rw [String.toList_append]
  split
  · have hspelled := Json.writeIndented_keeps (replyJson reply loaded).sorted 0
    rw [Json.indented, String.toList_ofList]
    exact hread.whole_eq hspelled Json.isBlank_nil hend
  · have hspelled := Json.write_keeps (replyJson reply loaded).sorted
    rw [Json.compact, String.toList_ofList]
    exact hread.whole_eq hspelled Json.isBlank_nil hend

end ResultGateway.CommandLine
