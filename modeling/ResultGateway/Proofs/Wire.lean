-- The types of the wire. Whatever is decoded can be encoded, and is decoded
-- from that text again, as long as its values have no reals. So nothing is
-- lost with the parts that are left out, the members that are passed over,
-- or a structure that comes as a list.
import ResultGateway.Proofs.GraphQl.Wire
import ResultGateway.Proofs.Json.Lists
import ResultGateway.Result.Record

namespace ResultGateway

open GraphQl (Location QueryError)
open Json (Reader ReadsAs Yields carries_text)
open Result (Keys ObjectRecord Record)

/-! ## Round trips -/

/-- What is encoded is decoded again. -/
def Returns {α : Type} (read : Reader α) (toJson : α → Json) (a : α) : Prop :=
  read.decode (toJson a).compact = .ok a

/-- Everything that some text decodes to returns, as far as its values are as said. -/
def DecodedReturns {α : Type} (read : Reader α) (toJson : α → Json) (plain : α → Prop) : Prop :=
  ∀ text a, read.decode text = .ok a → plain a → Returns read toJson a

theorem decodedReturns_of_yields {α : Type} {read : Reader α} {toJson : α → Json}
    {plain P : α → Prop} (hyields : Yields (read Json.greatestDepth) P)
    (hreturns : ∀ a, P a → plain a → Returns read toJson a) :
    DecodedReturns read toJson plain := by
  intro text a hdecode hplain
  obtain ⟨rest, hread, -⟩ := Json.whole_eq_ok.mp hdecode
  exact hreturns a (hyields hread) hplain

/-! ## Records -/

theorem returns_keys (k : Keys) : Returns Keys.shape.reader Keys.toJson k := by
  have hcarries : Keys.shape.Carries 126 ⟨Keys.shape.start, []⟩
      [("graphId", .str k.graphId), ("codeId", .str k.codeId)] ⟨k, ["codeId", "graphId"]⟩ :=
    carries_text rfl (by simp) (carries_text rfl (by simp) .nil)
  have hread : ReadsAs (Keys.shape.reader Json.greatestDepth) k.toJson k :=
    Json.readsAs_object hcarries (by simp [Keys.shape, Json.Field.of])
  exact hread.decode_compact

theorem returns_record (r : Record) : Returns Record.shape.reader Record.toJson r := by
  have hcarries : Record.shape.Carries 126 ⟨Record.shape.start, []⟩
      [("json", .str r.json), ("graphId", .str r.keys.graphId), ("codeId", .str r.keys.codeId)]
      ⟨r, ["codeId", "graphId", "json"]⟩ :=
    carries_text rfl (by simp) (carries_text rfl (by simp) (carries_text rfl (by simp) .nil))
  have hread : ReadsAs (Record.shape.reader Json.greatestDepth) r.toJson r :=
    Json.readsAs_object hcarries (by simp [Record.shape, Json.Field.of])
  exact hread.decode_compact

/-- The value of a record that is read. -/
theorem yields_objectRecord :
    Yields (ObjectRecord.shape.reader 127) fun r => r.value.IsAdmitted 126 := by
  apply Json.yields_shape
  · intro field hfield r hr
    simp only [ObjectRecord.shape, List.mem_cons, List.not_mem_nil, or_false] at hfield
    rcases hfield with rfl | rfl | rfl
    · exact Json.yields_field (Json.yields_value 126) (fun _ hvalue => hvalue) _ _
    · exact Json.yields_field Json.yields_any (fun _ _ => hr) _ _
    · exact Json.yields_field Json.yields_any (fun _ _ => hr) _ _
  · exact ⟨trivial, .null⟩

theorem returns_objectRecord {r : ObjectRecord} (h : r.value.IsAdmitted 126)
    (hreals : r.value.HasNoReals) :
    Returns ObjectRecord.shape.reader ObjectRecord.toJson r := by
  have hvalue : ObjectRecord.shape.CarriesOver 126 ⟨ObjectRecord.shape.start, []⟩ "jsonObject"
      r.value ⟨⟨r.value, ⟨"", ""⟩⟩, ["jsonObject"]⟩ :=
    Json.carriesOver_field rfl (by simp)
      (Json.readsAs_field (Json.readsAs_value h hreals) rfl _ _)
  have hcarries : ObjectRecord.shape.Carries 126 ⟨ObjectRecord.shape.start, []⟩
      [("jsonObject", r.value), ("graphId", .str r.keys.graphId), ("codeId", .str r.keys.codeId)]
      ⟨r, ["codeId", "graphId", "jsonObject"]⟩ :=
    .cons hvalue (carries_text rfl (by simp) (carries_text rfl (by simp) .nil))
  have hread : ReadsAs (ObjectRecord.shape.reader Json.greatestDepth) r.toJson r :=
    Json.readsAs_object hcarries (by simp [ObjectRecord.shape, Json.Field.of])
  exact hread.decode_compact

/-! ## Errors -/

theorem returns_location {l : Location} (h : l.Fits) :
    Returns Location.shape.reader Location.toJson l :=
  (GraphQl.readsAs_location h (.inl rfl) 126).decode_compact

theorem returns_queryError {e : QueryError} (h : e.IsAdmitted 125) (hreals : e.HasNoReals) :
    Returns QueryError.shape.reader QueryError.toJson e :=
  (GraphQl.readsAs_queryError h hreals (.inl rfl)).decode_compact

/-- The value of a list of errors. -/
def errorsToJson (errors : List QueryError) : Json := .arr (errors.map QueryError.toJson)

theorem returns_errors {errors : List QueryError} (h : ∀ e ∈ errors, e.IsAdmitted 124)
    (hreals : ∀ e ∈ errors, e.HasNoReals) :
    Returns (.list QueryError.shape.reader) errorsToJson errors :=
  (GraphQl.readsAs_errors h hreals (.inl rfl)).decode_compact

/-! ## The law -/

/-- Each type of the wire is decoded from what it is encoded as: what comes from the decoder, if
its values have no reals, and of the types that hold no values, or of errors that a document keeps
exactly, whatever there is. -/
theorem what_is_encoded_is_decoded_again :
    (DecodedReturns Keys.shape.reader Keys.toJson (fun _ => True) ∧
      DecodedReturns Record.shape.reader Record.toJson (fun _ => True) ∧
      DecodedReturns ObjectRecord.shape.reader ObjectRecord.toJson (fun r => r.value.HasNoReals) ∧
      DecodedReturns Location.shape.reader Location.toJson (fun _ => True) ∧
      DecodedReturns QueryError.shape.reader QueryError.toJson QueryError.HasNoReals ∧
      DecodedReturns (.list QueryError.shape.reader) errorsToJson
        (fun errors => ∀ e ∈ errors, e.HasNoReals)) ∧
    (∀ k, Returns Keys.shape.reader Keys.toJson k) ∧
    (∀ r, Returns Record.shape.reader Record.toJson r) ∧
    (∀ l : Location, l.Fits → Returns Location.shape.reader Location.toJson l) ∧
    ∀ e : QueryError, e.IsWritable → Returns QueryError.shape.reader QueryError.toJson e := by
  refine ⟨⟨fun _ k _ _ => returns_keys k, fun _ r _ _ => returns_record r, ?_, ?_, ?_, ?_⟩,
    returns_keys, returns_record, fun _ hl => returns_location hl, ?_⟩
  · exact decodedReturns_of_yields yields_objectRecord
      fun _ hr hreals => returns_objectRecord hr hreals
  · exact decodedReturns_of_yields (GraphQl.yields_location 126)
      fun _ hl _ => returns_location hl
  · exact decodedReturns_of_yields (GraphQl.yields_queryError 124)
      fun _ he hreals => returns_queryError he hreals
  · exact decodedReturns_of_yields (Json.yields_list (GraphQl.yields_queryError 123))
      fun _ hall hreals => returns_errors hall hreals
  · exact fun _ he => returns_queryError he.isAdmitted he.hasNoReals

/-! ## An error -/

/-- An error that comes as a list, with a place that comes as one too. -/
def listedError : String := "[\"m\",[[1,2]],[\"a\",0],\x7b\"n\":-3\x7d]"

def listedErrorValue : QueryError :=
  ⟨"m", [⟨1, 2⟩], some [.str "a", .nat 0], some (.obj [("n", .int (-3))])⟩

theorem a_listed_error_is_decoded_again :
    QueryError.shape.reader.decode listedError = .ok listedErrorValue ∧
    Returns QueryError.shape.reader QueryError.toJson listedErrorValue := by
  have hdecode : QueryError.shape.reader.decode listedError = .ok listedErrorValue := rfl
  have hfits : ∀ i : Int, -3 ≤ i → i ≤ 0 → (Json.Number.integer i).IsExact := by
    intro i hleast hgreatest
    refine ⟨i, rfl, ?_⟩
    unfold Json.Number.Fits
    omega
  have hreals : listedErrorValue.HasNoReals := by
    constructor
    · rintro _ ⟨⟩ item hitem
      rcases List.mem_pair.mp hitem with rfl | rfl
      · exact ⟨0, .str "a"⟩
      · exact ⟨0, .num (hfits 0 (by decide) (by decide))⟩
    · rintro _ ⟨⟩
      refine ⟨1, .obj ?_⟩
      intro member hmember
      rw [List.mem_singleton.mp hmember]
      exact .num (hfits (-3) (by decide) (by decide))
  exact ⟨hdecode, what_is_encoded_is_decoded_again.1.2.2.2.2.1 listedError listedErrorValue
    hdecode hreals⟩

end ResultGateway
