-- How a set of results is read. Any value is an entry, so a set is refused
-- only when its text is no document of a list. An entry is complete when a
-- text of a result and two ids are in its value, and otherwise tells what
-- it lacks first. Of members under one name the last of the text counts.
import ResultGateway.Proofs.Json.Documents
import ResultGateway.Proofs.Store.Entries

namespace ResultGateway.Result

/-! ## What is in a value -/

section

variable (get : Json → String → Option Json) (item : Json)

/-- A text that is the member of some name, and not empty. -/
def HasText (name s : String) : Prop := get item name = some (.str s) ∧ s ≠ ""

/-- An id in the member of some name, and not empty. -/
def HasId (name id : String) : Prop :=
  ∃ members, get item name = some (.obj members) ∧ HasText get (.obj members) "id" id

/-- What is lacking first of the three parts of a record. -/
inductive LacksFirst : Lack → Prop where
  | json (h : ¬ ∃ s, HasText get item "json" s) : LacksFirst .json
  | graphId (some_json : ∃ s, HasText get item "json" s)
      (h : ¬ ∃ id, HasId get item "graph" id) : LacksFirst .graphId
  | codeId (some_json : ∃ s, HasText get item "json" s)
      (some_graph : ∃ id, HasId get item "graph" id)
      (h : ¬ ∃ id, HasId get item "code" id) : LacksFirst .codeId

/-- An entry that is the record whose parts are all in a value, and tells which of them is lacking
first if one is. -/
structure Entry.Tells (e : Entry) : Prop where
  record : ∀ r, e.record? = .ok r ↔ HasText get item "json" r.json ∧
    HasId get item "graph" r.keys.graphId ∧ HasId get item "code" r.keys.codeId
  lack : ∀ lack, e.record? = .error lack ↔ LacksFirst get item lack

variable {get : Json → String → Option Json} {item : Json}

theorem eq_none_iff_of_eq_some_iff {text : Option String} {P : String → Prop}
    (h : ∀ s, text = some s ↔ P s) : text = none ↔ ¬ ∃ s, P s := by
  simp only [← h]
  cases text <;> simp

/-- An entry tells what is in a value if each of its parts is the one in the value. -/
theorem Entry.tells_of_parts {e : Entry}
    (hjson : ∀ s, nonEmpty e.json = some s ↔ HasText get item "json" s)
    (hgraph : ∀ id, nonEmpty (e.graph >>= Ref.id) = some id ↔ HasId get item "graph" id)
    (hcode : ∀ id, nonEmpty (e.code >>= Ref.id) = some id ↔ HasId get item "code" id) :
    e.Tells get item := by
  constructor
  · rintro ⟨json, graphId, codeId⟩
    rw [← hjson, ← hgraph, ← hcode]
    unfold Entry.record?
    cases nonEmpty e.json <;> cases nonEmpty (e.graph >>= Ref.id) <;>
      cases nonEmpty (e.code >>= Ref.id) <;> simp
  · have hnojson := eq_none_iff_of_eq_some_iff hjson
    have hnograph := eq_none_iff_of_eq_some_iff hgraph
    have hnocode := eq_none_iff_of_eq_some_iff hcode
    intro lack
    constructor
    · intro h
      unfold Entry.record? at h
      split at h <;> cases h
      · rename_i hj
        exact .json (hnojson.mp hj)
      · rename_i hj hg
        exact .graphId ⟨_, (hjson _).mp hj⟩ (hnograph.mp hg)
      · rename_i hj hg hc
        exact .codeId ⟨_, (hjson _).mp hj⟩ ⟨_, (hgraph _).mp hg⟩ (hnocode.mp hc)
    · intro h
      unfold Entry.record?
      cases h with
      | json hno => rw [hnojson.mpr hno]
      | graphId hj hno =>
        obtain ⟨json, hj⟩ := hj
        rw [(hjson json).mpr hj, hnograph.mpr hno]
      | codeId hj hg hno =>
        obtain ⟨json, hj⟩ := hj
        obtain ⟨id, hg⟩ := hg
        rw [(hjson json).mpr hj, (hgraph id).mpr hg, hnocode.mpr hno]

end

/-! ## Entries of values -/

theorem nonEmpty_textMember {item : Json} {name s : String} :
    nonEmpty (textMember item name) = some s ↔ HasText Json.get? item name s :=
  nonEmpty_eq_some.trans (and_congr_left' textMember_eq_some)

theorem nonEmpty_refMember {item : Json} {name id : String} :
    nonEmpty (refMember item name >>= Ref.id) = some id ↔ HasId Json.get? item name id := by
  rw [nonEmpty_eq_some, Ref.id_eq_some, refMember_eq_some]
  constructor
  · rintro ⟨⟨members, hmembers, hid⟩, hsome⟩
    exact ⟨members, hmembers, hid, hsome⟩
  · rintro ⟨members, hmembers, hid, hsome⟩
    exact ⟨⟨members, hmembers, hid⟩, hsome⟩

/-- The entry of a value tells what is in it. -/
theorem tells_ofJson (item : Json) : (Entry.ofJson item).Tells Json.get? item :=
  Entry.tells_of_parts (fun _ => nonEmpty_textMember) (fun _ => nonEmpty_refMember)
    fun _ => nonEmpty_refMember

theorem listOfJson_eq_ok {value : Json} {entries : List Entry} :
    Entry.listOfJson value = .ok entries ↔
      ∃ items, value = .arr items ∧ entries = items.map Entry.ofJson := by
  cases value <;> simp [Entry.listOfJson, eq_comm]

/-! ## Entries of written values -/

theorem hasText_sorted {written : Json} {name s : String} :
    HasText Json.get? written.sorted name s ↔ HasText Json.last? written name s := by
  unfold HasText
  rw [Json.get?_sorted, Option.map_eq_some_iff]
  simp only [Json.sorted_eq_str, exists_eq_right]

theorem hasId_sorted {written : Json} {name id : String} :
    HasId Json.get? written.sorted name id ↔ HasId Json.last? written name id := by
  unfold HasId
  rw [Json.get?_sorted]
  constructor
  · rintro ⟨members, hmembers, hid⟩
    obtain ⟨value, hvalue, hsorted⟩ := Option.map_eq_some_iff.mp hmembers
    obtain ⟨inside, rfl⟩ := Json.sorted_eq_obj hsorted
    rw [← hsorted, hasText_sorted] at hid
    exact ⟨inside, hvalue, hid⟩
  · rintro ⟨inside, hinside, hid⟩
    rw [hinside, Option.map_some]
    exact ⟨_, by rw [Json.sorted, Json.ofMembers], hasText_sorted.mpr hid⟩

/-- The entry of a value that is read from a text tells what is in the last members there. -/
theorem tells_sorted (written : Json) :
    (Entry.ofJson written.sorted).Tells Json.last? written :=
  Entry.tells_of_parts (fun _ => nonEmpty_textMember.trans hasText_sorted)
    (fun _ => nonEmpty_refMember.trans hasId_sorted) fun _ => nonEmpty_refMember.trans hasId_sorted

/-! ## The law -/

/-- A text is read as a set if and only if it is one of a list, whatever the items are, and so is a
value. The entry of each item tells what is in it. In a text the last member of a name counts. -/
theorem any_list_is_a_set_of_entries :
    (∀ text entries, (Json.Reader.list Entry.reader).decode text = .ok entries ↔
      ∃ items, Json.parse text = .ok (.arr items) ∧ entries = items.map Entry.ofJson) ∧
    (∀ text value, Json.parse text = .ok value → ∀ entries,
      (Json.Reader.list Entry.reader).decode text = .ok entries ↔
        Entry.listOfJson value = .ok entries) ∧
    (∀ item, (Entry.ofJson item).Tells Json.get? item) ∧
    (∀ text items, Json.parse text = .ok (.arr items) ↔
      ∃ written, Json.IsDocument text (.arr written) ∧ items = written.map Json.sorted) ∧
    ∀ written : Json, (Entry.ofJson written.sorted).Tells Json.last? written := by
  have hdecode := Json.decode_list Entry.ofJson
  refine ⟨hdecode, ?_, tells_ofJson, fun _ _ => Json.parse_eq_list, tells_sorted⟩
  intro text value hvalue entries
  rw [listOfJson_eq_ok]
  refine (hdecode text entries).trans ⟨?_, ?_⟩
  · rintro ⟨items, hitems, rfl⟩
    cases hvalue.symm.trans hitems
    exact ⟨items, rfl, rfl⟩
  · rintro ⟨items, rfl, rfl⟩
    exact ⟨items, hvalue, rfl⟩

/-- A set of an entry with two texts, and of nothing. -/
def holedSet : String :=
  "[\x7b\"json\":5,\"json\":\"[1]\",\"graph\":\x7b\"id\":\"g\"\x7d," ++
    "\"code\":\x7b\"id\":\"c\"\x7d\x7d, null]"

def holedValue : Json :=
  .arr [.obj [("code", .obj [("id", .str "c")]), ("graph", .obj [("id", .str "g")]),
    ("json", .str "[1]")], .null]

theorem a_set_with_a_hole_is_read :
    Json.parse holedSet = .ok holedValue ∧
    (Json.Reader.list Entry.reader).decode holedSet =
      .ok [.ofRecord ⟨"[1]", ⟨"g", "c"⟩⟩, ⟨none, none, none⟩] := by
  have hparse : Json.parse holedSet = .ok holedValue := rfl
  exact ⟨hparse, (any_list_is_a_set_of_entries.2.1 holedSet holedValue hparse _).mpr rfl⟩

end ResultGateway.Result
