-- What a load makes of entries. Each entry has its place in both lists: a
-- complete one for the record that it holds, any other for an empty record.
-- The empty records take the next ids of the supply, one each, and no load
-- loses or adds a place.
import ResultGateway.Proofs.Store.Refusals

namespace ResultGateway.Result

/-! ## Complete entries -/

/-- An entry with a text of a result and the ids of a graph and a code, none of them empty. -/
structure Entry.Holds (e : Entry) (r : Record) : Prop where
  json : e.json = some r.json
  some_json : r.json ≠ ""
  graph : e.graph = some ⟨some r.keys.graphId⟩
  some_graph : r.keys.graphId ≠ ""
  code : e.code = some ⟨some r.keys.codeId⟩
  some_code : r.keys.codeId ≠ ""

def Entry.IsIncomplete (e : Entry) : Prop := ∀ r, ¬ e.Holds r

/-- An entry that names an id of a graph or a code, complete or not. -/
def Entry.Names (e : Entry) (id : String) : Prop :=
  e.graph = some ⟨some id⟩ ∨ e.code = some ⟨some id⟩

theorem nonEmpty_eq_some {text : Option String} {s : String} :
    nonEmpty text = some s ↔ text = some s ∧ s ≠ "" := by
  simp [nonEmpty, Option.filter_eq_some_iff]

theorem Ref.id_eq_some {ref : Option Ref} {id : String} :
    ref >>= Ref.id = some id ↔ ref = some ⟨some id⟩ := by
  rcases ref with _ | ⟨_ | other⟩ <;> simp

theorem holds_iff {e : Entry} {r : Record} : e.record? = .ok r ↔ e.Holds r := by
  have hgraph : ∀ id, nonEmpty (e.graph >>= Ref.id) = some id ↔
      e.graph = some ⟨some id⟩ ∧ id ≠ "" := fun id => by rw [nonEmpty_eq_some, Ref.id_eq_some]
  have hcode : ∀ id, nonEmpty (e.code >>= Ref.id) = some id ↔
      e.code = some ⟨some id⟩ ∧ id ≠ "" := fun id => by rw [nonEmpty_eq_some, Ref.id_eq_some]
  constructor
  · intro h
    unfold Entry.record? at h
    split at h <;> cases h
    rename_i json graphId codeId hj hg hc
    obtain ⟨htext, htext'⟩ := nonEmpty_eq_some.mp hj
    obtain ⟨hgraph, hgraph'⟩ := (hgraph graphId).mp hg
    obtain ⟨hcode, hcode'⟩ := (hcode codeId).mp hc
    exact ⟨htext, htext', hgraph, hgraph', hcode, hcode'⟩
  · intro h
    unfold Entry.record?
    rw [nonEmpty_eq_some.mpr ⟨h.json, h.some_json⟩, (hgraph _).mpr ⟨h.graph, h.some_graph⟩,
      (hcode _).mpr ⟨h.code, h.some_code⟩]

theorem isIncomplete_iff {e : Entry} : e.IsIncomplete ↔ ∃ lack, e.record? = .error lack := by
  unfold Entry.IsIncomplete
  simp only [← holds_iff]
  cases e.record? <;> simp

instance (e : Entry) : Decidable e.IsIncomplete :=
  match h : e.record? with
  | .ok r => isFalse fun hlacks => hlacks r (holds_iff.mp h)
  | .error lack => isTrue (isIncomplete_iff.mpr ⟨lack, h⟩)

/-! ## Records in the places of entries -/

/-- Entries, the records in their places, and the ids of the empty ones among these, in order. -/
inductive Placed : List Entry → List Record → List String → Prop where
  | nil : Placed [] [] []
  | held {e : Entry} {r : Record} {entries : List Entry} {records : List Record}
      {used : List String} (holds : e.Holds r) (rest : Placed entries records used) :
      Placed (e :: entries) (r :: records) used
  | empty {e : Entry} {id : String} {entries : List Entry} {records : List Record}
      {used : List String} (lacks : e.IsIncomplete) (rest : Placed entries records used) :
      Placed (e :: entries) (⟨"[]", ⟨id, id⟩⟩ :: records) (id :: used)

/-- The records of entries stand in their places, under the next ids of the supply. -/
theorem placed_recordsOf (entries : List Entry) (ids : FreshIds) :
    Placed entries (recordsOf entries ids).1 (ids.take (lacksOf entries).length).1 := by
  induction entries generalizing ids with
  | nil => exact .nil
  | cons e rest ih =>
    unfold lacksOf at ih ⊢
    rw [recordsOf, Entry.recordOr, List.filterMap_cons]
    cases hrecord : e.record? with
    | ok r => exact .held (holds_iff.mp hrecord) (ih ids)
    | error lack => exact .empty (isIncomplete_iff.mpr ⟨lack, hrecord⟩) (ih ids.rest)

/-- At a place stands an empty record under an id, for an entry that is incomplete. -/
def EmptyAt (entries : List Entry) (records : List Record) (i : Nat) (id : String) : Prop :=
  ∃ e, entries[i]? = some e ∧ e.IsIncomplete ∧ records[i]? = some ⟨"[]", ⟨id, id⟩⟩

theorem emptyAt_succ {e : Entry} {r : Record} {entries : List Entry} {records : List Record}
    {i : Nat} {id : String} :
    EmptyAt (e :: entries) (r :: records) (i + 1) id ↔ EmptyAt entries records i id := Iff.rfl

/-- Where a complete entry is, there is no empty record for it. -/
theorem not_emptyAt_zero {e : Entry} {r q : Record} {entries : List Entry} {records : List Record}
    {id : String} (holds : e.Holds q) : ¬ EmptyAt (e :: entries) (r :: records) 0 id := by
  rintro ⟨_, he, hlacks, _⟩
  cases he
  exact hlacks q holds

namespace Placed

variable {entries : List Entry} {records : List Record} {used : List String}

theorem length_eq (h : Placed entries records used) : records.length = entries.length := by
  induction h with
  | nil => rfl
  | held _ _ ih => rw [List.length_cons, List.length_cons, ih]
  | empty _ _ ih => rw [List.length_cons, List.length_cons, ih]

theorem length_used (h : Placed entries records used) :
    used.length = (entries.filter fun e => e.IsIncomplete).length := by
  induction h with
  | nil => rfl
  | held holds _ ih =>
    rw [List.filter_cons_of_neg (by simpa using fun hlacks => hlacks _ holds), ih]
  | empty lacks _ ih =>
    rw [List.filter_cons_of_pos (by simpa using lacks), List.length_cons, List.length_cons, ih]

/-- A complete entry has its record in its place. -/
theorem held_at (h : Placed entries records used) {i : Nat} {e : Entry} {r : Record}
    (he : entries[i]? = some e) (holds : e.Holds r) : records[i]? = some r := by
  induction h generalizing i with
  | nil => cases he
  | @held _ q _ _ _ hq _ ih =>
    cases i with
    | zero =>
      cases he
      have heq := (holds_iff.mpr hq).symm.trans (holds_iff.mpr holds)
      exact congrArg some (Except.ok.inj heq)
    | succ i => exact ih he
  | empty lacks _ ih =>
    cases i with
    | zero =>
      cases he
      exact absurd holds (lacks r)
    | succ i => exact ih he

/-- An incomplete entry has an empty record in its place. -/
theorem empty_at (h : Placed entries records used) {i : Nat} {e : Entry}
    (he : entries[i]? = some e) (lacks : e.IsIncomplete) : ∃ id, EmptyAt entries records i id := by
  suffices hrecord : ∃ id, records[i]? = some ⟨"[]", ⟨id, id⟩⟩ by
    obtain ⟨id, hid⟩ := hrecord
    exact ⟨id, e, he, lacks, hid⟩
  induction h generalizing i with
  | nil => cases he
  | held holds _ ih =>
    cases i with
    | zero =>
      cases he
      exact absurd holds (lacks _)
    | succ i => exact ih he
  | @empty _ id _ _ _ _ _ ih =>
    cases i with
    | zero => exact ⟨id, rfl⟩
    | succ i => exact ih he

theorem mem_used (h : Placed entries records used) {i : Nat} {id : String}
    (hi : EmptyAt entries records i id) : id ∈ used := by
  induction h generalizing i with
  | nil =>
    obtain ⟨_, he, _⟩ := hi
    cases he
  | held holds _ ih =>
    cases i with
    | zero => exact absurd hi (not_emptyAt_zero holds)
    | succ i => exact ih (emptyAt_succ.mp hi)
  | empty _ _ ih =>
    cases i with
    | zero =>
      obtain ⟨_, _, _, hr⟩ := hi
      cases hr
      exact List.mem_cons_self
    | succ i => exact List.mem_cons_of_mem _ (ih (emptyAt_succ.mp hi))

/-- No two places have empty records under one id, when the ids that were taken are distinct. -/
theorem emptyAt_unique (h : Placed entries records used) (hused : used.Nodup) {i j : Nat}
    {id : String} (hi : EmptyAt entries records i id) (hj : EmptyAt entries records j id) :
    i = j := by
  induction h generalizing i j with
  | nil =>
    obtain ⟨_, he, _⟩ := hi
    cases he
  | held holds _ ih =>
    cases i with
    | zero => exact absurd hi (not_emptyAt_zero holds)
    | succ i =>
      cases j with
      | zero => exact absurd hj (not_emptyAt_zero holds)
      | succ j => rw [ih hused (emptyAt_succ.mp hi) (emptyAt_succ.mp hj)]
  | @empty e first entries records used _ hrest ih =>
    obtain ⟨hfirst, hused⟩ := List.nodup_cons.mp hused
    -- A later empty record has a later id, so it is not under the id of the first.
    have hlater : ∀ {k}, ¬ (EmptyAt (e :: entries) (⟨"[]", ⟨first, first⟩⟩ :: records) 0 id ∧
        EmptyAt entries records k id) := by
      rintro k ⟨⟨_, _, _, hr⟩, hk⟩
      cases hr
      exact hfirst (hrest.mem_used hk)
    cases i with
    | zero =>
      cases j with
      | zero => rfl
      | succ j => exact absurd ⟨hi, emptyAt_succ.mp hj⟩ hlater
    | succ i =>
      cases j with
      | zero => exact absurd ⟨hj, emptyAt_succ.mp hi⟩ hlater
      | succ j => rw [ih hused (emptyAt_succ.mp hi) (emptyAt_succ.mp hj)]

end Placed

theorem length_take (ids : FreshIds) (count : Nat) : (ids.take count).1.length = count := by
  induction count generalizing ids with
  | zero => rfl
  | succ count ih =>
    rw [FreshIds.take, List.length_cons]
    exact congrArg (· + 1) (ih ids.rest)

/-- As many ids are taken as there are incomplete entries. -/
theorem length_lacksOf (entries : List Entry) :
    (lacksOf entries).length = (entries.filter fun e => e.IsIncomplete).length := by
  -- The ids themselves do not matter for their number, so any supply will do.
  have hused := (placed_recordsOf entries ⟨fun _ => "", 0⟩).length_used
  rw [length_take] at hused
  exact hused

/-! ## Complete entries of records -/

/-- A record none of whose texts is empty. -/
structure Record.IsFull (r : Record) : Prop where
  json : r.json ≠ ""
  graphId : r.keys.graphId ≠ ""
  codeId : r.keys.codeId ≠ ""

theorem Record.IsFull.record? {r : Record} (h : r.IsFull) : (Entry.ofRecord r).record? = .ok r :=
  holds_iff.mpr ⟨rfl, h.json, rfl, h.graphId, rfl, h.codeId⟩

/-- The entries of full records give these records back, and take no id. -/
theorem recordsOf_ofRecord {records : List Record} (h : ∀ r ∈ records, r.IsFull)
    (ids : FreshIds) : recordsOf (records.map Entry.ofRecord) ids = (records, ids) := by
  induction records with
  | nil => rfl
  | cons r rest ih =>
    rw [List.forall_mem_cons] at h
    rw [List.map_cons, recordsOf, Entry.recordOr, h.1.record?]
    simp only [ih h.2]

theorem lacksOf_ofRecord {records : List Record} (h : ∀ r ∈ records, r.IsFull) :
    lacksOf (records.map Entry.ofRecord) = [] := by
  unfold lacksOf
  rw [List.filterMap_map, List.filterMap_eq_nil_iff]
  intro r hr
  simp only [Function.comp, (h r hr).record?]

/-! ## The law -/

/-- The next ids of a supply, as many as asked for, are distinct, and none of them is an old one. -/
structure NextAreNew (ids : FreshIds) (count : Nat) (old : String → Prop) : Prop where
  distinct : (ids.take count).1.Nodup
  unused : ∀ id ∈ (ids.take count).1, ¬ old id

/-- Lists that have each entry in its place: the record that it holds, or else an empty record,
whose object form has no items. -/
structure KeepsPlaces (entries : List Entry) (strings : List Record)
    (objects : List ObjectRecord) : Prop where
  length_strings : strings.length = entries.length
  length_objects : objects.length = entries.length
  complete : ∀ (i : Nat) e r, entries[i]? = some e → e.Holds r → strings[i]? = some r
  incomplete : ∀ (i : Nat) e, entries[i]? = some e → e.IsIncomplete →
    ∃ id, EmptyAt entries strings i id ∧ objects[i]? = some ⟨.arr [], ⟨id, id⟩⟩

/-- The ids of the empty records differ from each other, and from every id that an entry names. -/
structure IdsAreNew (entries : List Entry) (strings : List Record) : Prop where
  distinct : ∀ i j id, EmptyAt entries strings i id → EmptyAt entries strings j id → i = j
  unused : ∀ i id, EmptyAt entries strings i id → ∀ e ∈ entries, ¬ e.Names id

theorem form_at {strings : List Record} {objects : List ObjectRecord}
    (h : List.Forall₂ IsForm strings objects) {i : Nat} {r : Record} (hr : strings[i]? = some r) :
    ∃ o, objects[i]? = some o ∧ IsForm r o := by
  obtain ⟨hi, rfl⟩ := List.getElem?_eq_some_iff.mp hr
  have hi' : i < objects.length := h.length_eq ▸ hi
  exact ⟨objects[i], List.getElem?_eq_getElem hi', h.get hi hi'⟩

theorem toObject_placeholder (id : String) :
    (Record.placeholder id).toObject = .ok ⟨.arr [], ⟨id, id⟩⟩ :=
  toObject_eq_ok.mpr ⟨rfl, parse_emptyText⟩

section

variable {entries : List Entry} {strings : List Record} {used : List String}
  (h : Placed entries strings used)

include h

theorem Placed.keepsPlaces {objects : List ObjectRecord}
    (hforms : List.Forall₂ IsForm strings objects) : KeepsPlaces entries strings objects := by
  refine ⟨h.length_eq, hforms.length_eq.symm.trans h.length_eq, fun _ _ _ => h.held_at, ?_⟩
  intro i e he hlacks
  obtain ⟨id, hempty⟩ := h.empty_at he hlacks
  obtain ⟨o, ho, hform⟩ := form_at hforms hempty.choose_spec.2.2
  cases (toObject_placeholder id).symm.trans hform
  exact ⟨id, hempty, ho⟩

theorem Placed.idsAreNew (hdistinct : used.Nodup)
    (hunused : ∀ id ∈ used, ¬ ∃ e ∈ entries, e.Names id) : IdsAreNew entries strings := by
  refine ⟨fun _ _ _ => h.emptyAt_unique hdistinct, ?_⟩
  intro i id hi e he hnames
  exact hunused id (h.mem_used hi) ⟨e, he, hnames⟩

end

theorem loadEntries_eq_ok (s : Store) {entries : List Entry} {ids : FreshIds}
    {objects : List ObjectRecord} (h : Store.objectsOf (recordsOf entries ids).1 = .ok objects) :
    (s.loadEntries entries ids).1.result =
      .ok ⟨(recordsOf entries ids).1.length, (lacksOf entries).length⟩ := by
  unfold Store.loadEntries Store.load
  simp only [h]
  rfl

theorem summary_of_loadEntries {s : Store} {entries : List Entry} {ids : FreshIds}
    {summary : Store.Summary} (h : (s.loadEntries entries ids).1.result = .ok summary) :
    summary = ⟨(recordsOf entries ids).1.length, (lacksOf entries).length⟩ := by
  cases hobjects : Store.objectsOf (recordsOf entries ids).1 with
  | error f =>
    rw [(loadEntries_eq_error s).mpr ((load_eq_error s).mpr hobjects)] at h
    cases h
  | ok objects =>
    rw [loadEntries_eq_ok s hobjects] at h
    cases h
    rfl

/-- A load of entries that succeeds leaves all of them in their places, and counts them and the
incomplete ones among them. The ids that it takes are new as far as the supply gives new ones.
Entries of full records are loaded as the records are. -/
theorem a_load_of_entries_loses_nothing (s : Store) (ids : FreshIds) :
    (∀ entries summary, (s.loadEntries entries ids).1.result = .ok summary →
      ∃ strings objects, (s.loadEntries entries ids).1.store = ⟨some strings, some objects⟩ ∧
        KeepsPlaces entries strings objects ∧
        summary.records = entries.length ∧
        summary.placeholders = (entries.filter fun e => e.IsIncomplete).length ∧
        (NextAreNew ids summary.placeholders (fun id => ∃ e ∈ entries, e.Names id) →
          IdsAreNew entries strings)) ∧
    ∀ records : List Record, (∀ r ∈ records, r.IsFull) →
      (s.loadEntries (records.map Entry.ofRecord) ids).1.store = (s.load records).store ∧
      (s.loadEntries (records.map Entry.ofRecord) ids).1.result =
        (s.load records).result.map fun _ => ⟨records.length, 0⟩ := by
  refine ⟨?_, ?_⟩
  · intro entries summary h
    have hplaced := placed_recordsOf entries ids
    obtain ⟨objects, hstore, hforms⟩ := loadEntries_isOf s h
    cases summary_of_loadEntries h
    refine ⟨_, objects, hstore, hplaced.keepsPlaces hforms, hplaced.length_eq,
      length_lacksOf entries, ?_⟩
    exact fun hnew => hplaced.idsAreNew hnew.distinct hnew.unused
  · intro records hfull
    unfold Store.loadEntries
    rw [recordsOf_ofRecord hfull, lacksOf_ofRecord hfull]
    exact ⟨rfl, rfl⟩

/-! ## A load with gaps -/

/-- A complete entry between two that are not. -/
def gapEntries : List Entry :=
  [⟨none, none, none⟩, .ofRecord ⟨"[1]", ⟨"g", "c"⟩⟩,
    ⟨some "[2]", some ⟨some "g"⟩, some ⟨some ""⟩⟩]

theorem a_load_fills_its_gaps : ∃ strings objects,
    (Store.empty.loadEntries gapEntries (.countingFrom 0)).1.store =
      ⟨some strings, some objects⟩ ∧
    KeepsPlaces gapEntries strings objects ∧ IdsAreNew gapEntries strings := by
  have hload : (Store.empty.loadEntries gapEntries (.countingFrom 0)).1.result = .ok ⟨3, 2⟩ := rfl
  have htake : ((FreshIds.countingFrom 0).take 2).1 =
      ["00000000-0000-4000-8000-000000000000", "00000000-0000-4000-8000-000000000001"] := rfl
  have hnew : NextAreNew (.countingFrom 0) 2 fun id => ∃ e ∈ gapEntries, e.Names id := by
    constructor
    · rw [htake]
      decide
    · rw [htake]
      simp [gapEntries, Entry.Names, Entry.ofRecord]
  obtain ⟨strings, objects, hstore, hplaces, -, -, hids⟩ :=
    (a_load_of_entries_loses_nothing .empty (.countingFrom 0)).1 gapEntries _ hload
  exact ⟨strings, objects, hstore, hplaces, hids hnew⟩

end ResultGateway.Result
