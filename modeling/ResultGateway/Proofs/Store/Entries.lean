-- Entries and the values that they are read from. A value holds a record
-- when all parts of the record are there; any other value stands for an
-- empty record under an id of the supply. What a load makes of a list of
-- values is told by the first value that holds a record of some kind.
import ResultGateway.Proofs.Store.Places

namespace ResultGateway.Result

/-! ## Values that hold records -/

/-- A value with an object under a name, which has a text for an id. -/
def HoldsId (item : Json) (name id : String) : Prop :=
  (∃ members, item.get? name = some (.obj members) ∧ Json.lookup "id" members = some (.str id)) ∧
    id ≠ ""

/-- A value with a text of a result, and ids of a graph and a code, none of them empty. -/
structure HoldsRecord (item : Json) (r : Record) : Prop where
  json : item.get? "json" = some (.str r.json)
  some_json : r.json ≠ ""
  graph : HoldsId item "graph" r.keys.graphId
  code : HoldsId item "code" r.keys.codeId

/-- A value that holds a record. -/
def IsComplete (item : Json) : Prop := ∃ r, HoldsRecord item r

theorem text?_eq_some {value : Option Json} {s : String} :
    value >>= Json.text? = some s ↔ value = some (.str s) := by
  cases value with
  | none => simp
  | some value => cases value <;> simp [Json.text?]

theorem textMember_eq_some {item : Json} {name s : String} :
    textMember item name = some s ↔ item.get? name = some (.str s) := text?_eq_some

theorem refMember_eq_some {item : Json} {name id : String} :
    refMember item name = some ⟨some id⟩ ↔
      ∃ members, item.get? name = some (.obj members) ∧
        Json.lookup "id" members = some (.str id) := by
  unfold refMember
  split
  · rename_i members hmembers
    rw [hmembers, Option.some.injEq, Ref.mk.injEq, textMember_eq_some]
    constructor
    · exact fun h => ⟨members, rfl, h⟩
    · rintro ⟨_, ⟨⟩, h⟩
      exact h
  · rename_i hother
    constructor
    · exact fun h => (nomatch h)
    · rintro ⟨members, hmembers, _⟩
      exact absurd hmembers (hother members)

/-- The entry of a value holds a record when the value does. -/
theorem holds_ofJson {item : Json} {r : Record} :
    (Entry.ofJson item).Holds r ↔ HoldsRecord item r := by
  constructor
  · rintro ⟨hjson, hjson', hgraph, hgraph', hcode, hcode'⟩
    exact ⟨textMember_eq_some.mp hjson, hjson', ⟨refMember_eq_some.mp hgraph, hgraph'⟩,
      ⟨refMember_eq_some.mp hcode, hcode'⟩⟩
  · rintro ⟨hjson, hjson', ⟨hgraph, hgraph'⟩, ⟨hcode, hcode'⟩⟩
    exact ⟨textMember_eq_some.mpr hjson, hjson', refMember_eq_some.mpr hgraph, hgraph',
      refMember_eq_some.mpr hcode, hcode'⟩

/-- The entry of a value is complete when the value holds a record, and then is that record. -/
theorem record?_eq_ok {item : Json} {r : Record} :
    (Entry.ofJson item).record? = .ok r ↔ HoldsRecord item r := holds_iff.trans holds_ofJson

theorem isIncomplete_ofJson {item : Json} :
    (Entry.ofJson item).IsIncomplete ↔ ¬ IsComplete item := by
  unfold Entry.IsIncomplete IsComplete
  simp only [holds_ofJson, not_exists]

theorem HoldsRecord.unique {item : Json} {r q : Record} (h : HoldsRecord item r)
    (hq : HoldsRecord item q) : q = r := by
  have hr := record?_eq_ok.mpr h
  rw [record?_eq_ok.mpr hq] at hr
  exact Except.ok.inj hr

theorem record?_eq_error {item : Json} (h : ¬ IsComplete item) :
    ∃ lack, (Entry.ofJson item).record? = .error lack :=
  isIncomplete_iff.mp (isIncomplete_ofJson.mpr h)

instance (item : Json) : Decidable (IsComplete item) :=
  match h : (Entry.ofJson item).record? with
  | .ok r => isTrue ⟨r, record?_eq_ok.mp h⟩
  | .error _ => isFalse fun ⟨_, hr⟩ => nomatch h.symm.trans (record?_eq_ok.mpr hr)

/-! ## Records of values -/

/-- The record that stands for a value: the one that it holds, or an empty one under an id that is
still to come. -/
def StandsFor (ids : FreshIds) (item : Json) (r : Record) : Prop :=
  HoldsRecord item r ∨
    ¬ IsComplete item ∧ ∃ n, ids.taken ≤ n ∧ r = ⟨"[]", ⟨ids.id n, ids.id n⟩⟩

namespace StandsFor

variable {ids : FreshIds} {item : Json} {r : Record}

theorem later (h : StandsFor ids.rest item r) : StandsFor ids item r := by
  refine h.imp_right ?_
  rintro ⟨hlacks, n, hn, hr⟩
  exact ⟨hlacks, n, Nat.le_of_succ_le hn, hr⟩

theorem eq_of_held (h : StandsFor ids item r) {q : Record} (hq : HoldsRecord item q) : r = q := by
  rcases h with h | ⟨hlacks, _⟩
  · exact hq.unique h
  · exact absurd ⟨q, hq⟩ hlacks

/-- What is true of the record that a value holds, and of all empty ones, is true of the one that
stands for the value. -/
theorem keeps (h : StandsFor ids item r) {P : Record → Prop} (held : ∀ q, HoldsRecord item q → P q)
    (empty : ∀ n, ids.taken ≤ n → P ⟨"[]", ⟨ids.id n, ids.id n⟩⟩) : P r := by
  rcases h with h | ⟨_, n, hn, rfl⟩
  · exact held r h
  · exact empty n hn

end StandsFor

/-- Each entry of a value has the record that stands for the value in its place. -/
theorem standsFor_recordsOf (items : List Json) (ids : FreshIds) :
    List.Forall₂ (StandsFor ids) items (recordsOf (items.map Entry.ofJson) ids).1 := by
  induction items generalizing ids with
  | nil => exact .nil
  | cons item rest ih =>
    rw [List.map_cons, recordsOf, Entry.recordOr]
    by_cases h : IsComplete item
    · obtain ⟨r, hr⟩ := h
      rw [record?_eq_ok.mpr hr]
      exact .cons (.inl hr) (ih ids)
    · obtain ⟨lack, hlack⟩ := record?_eq_error h
      rw [hlack]
      refine .cons (.inr ⟨h, ids.taken, Nat.le_refl _, rfl⟩) ?_
      exact (ih ids.rest).imp fun _ _ => StandsFor.later

theorem length_lacksOf_ofJson (items : List Json) :
    (lacksOf (items.map Entry.ofJson)).length =
      (items.filter fun item => ¬ IsComplete item).length := by
  rw [length_lacksOf, List.filter_map, List.length_map]
  simp only [Function.comp_def, isIncomplete_ofJson]

/-! ## The first record of some kind -/

/-- The first record of some kind that values hold. -/
inductive IsFirst (p : Record → Prop) : List Json → Record → Prop where
  | here {item : Json} {rest : List Json} {r : Record} (held : HoldsRecord item r) (kind : p r) :
      IsFirst p (item :: rest) r
  | later {item : Json} {rest : List Json} {r : Record}
      (other : ∀ q, HoldsRecord item q → ¬ p q) (first : IsFirst p rest r) :
      IsFirst p (item :: rest) r

theorem IsFirst.kind {p : Record → Prop} {items : List Json} {r : Record}
    (h : IsFirst p items r) : p r := by
  induction h with
  | here _ kind => exact kind
  | later _ _ ih => exact ih

theorem IsFirst.held {p : Record → Prop} {items : List Json} {r : Record}
    (h : IsFirst p items r) : ∃ item ∈ items, HoldsRecord item r := by
  induction h with
  | here held _ => exact ⟨_, List.mem_cons_self, held⟩
  | later _ _ ih =>
    obtain ⟨item, hmem, hheld⟩ := ih
    exact ⟨item, List.mem_cons_of_mem _ hmem, hheld⟩

/-- Where a record of some kind is held, there is a first one. -/
theorem exists_isFirst {p : Record → Prop} {items : List Json}
    (h : ∃ item ∈ items, ∃ r, HoldsRecord item r ∧ p r) : ∃ r, IsFirst p items r := by
  induction items with
  | nil =>
    obtain ⟨_, hmem, _⟩ := h
    cases hmem
  | cons item rest ih =>
    by_cases hitem : ∃ r, HoldsRecord item r ∧ p r
    · obtain ⟨r, hheld, hkind⟩ := hitem
      exact ⟨r, .here hheld hkind⟩
    · obtain ⟨other, hmem, r, hheld, hkind⟩ := h
      rcases List.mem_cons.mp hmem with rfl | hmem
      · exact absurd ⟨r, hheld, hkind⟩ hitem
      · obtain ⟨first, hfirst⟩ := ih ⟨other, hmem, r, hheld, hkind⟩
        exact ⟨first, .later (fun q hq hkind => hitem ⟨q, hq, hkind⟩) hfirst⟩

/-! ## Loads of values -/

section

variable {ids : FreshIds} {items : List Json} {records : List Record}
  (hstands : List.Forall₂ (StandsFor ids) items records)

include hstands

/-- What is true of all records that are held, and of all empty ones, is true of all records. -/
theorem records_keep {P : Record → Prop} (held : ∀ item ∈ items, ∀ q, HoldsRecord item q → P q)
    (empty : ∀ n, ids.taken ≤ n → P ⟨"[]", ⟨ids.id n, ids.id n⟩⟩) : ∀ r ∈ records, P r := by
  induction hstands with
  | nil => exact fun _ hr => (nomatch hr)
  | cons hr _ ih =>
    rw [List.forall_mem_cons] at held ⊢
    exact ⟨hr.keeps held.1 empty, ih held.2⟩

/-- When all texts that are held can be parsed, there are all object forms. -/
theorem objectsOf_parsed (h : ∀ item ∈ items, ∀ q, HoldsRecord item q → IsResultText q.json) :
    ∃ objects, Store.objectsOf records = .ok objects :=
  Store.objectsOf_isOk.mpr (records_keep hstands h fun _ _ => ⟨emptyValue, parse_emptyText⟩)

/-- A search finds the first record of its kind that is held, if no empty record is of the kind. -/
theorem find?_isFirst {p : Record → Prop} [DecidablePred p]
    (hempty : ∀ n, ids.taken ≤ n → ¬ p ⟨"[]", ⟨ids.id n, ids.id n⟩⟩) {r : Record}
    (h : IsFirst p items r) : records.find? (fun q => p q) = some r := by
  induction h generalizing records with
  | here held kind =>
    cases hstands with
    | cons hr _ =>
      rw [hr.eq_of_held held]
      exact List.find?_cons_of_pos (by simpa using kind)
  | later other _ ih =>
    cases hstands with
    | cons hq hrest =>
      have hother := hq.keeps (P := fun q => ¬ p q) other hempty
      rw [List.find?_cons_of_neg (by simpa using hother)]
      exact ih hrest

/-- The first record whose text cannot be parsed fails the load. -/
theorem objectsOf_unparsed {r : Record} (h : IsFirst (fun q => ¬ IsResultText q.json) items r)
    {f : Failure} (hf : r.toObject = .error f) : Store.objectsOf records = .error f := by
  have hkind : (fun q : Record => ¬ IsResultText q.json) = Spoils :=
    funext fun q => propext spoils_iff.symm
  rw [hkind] at h
  exact objectsOf_eq_error.mpr
    ⟨r, find?_isFirst hstands (fun n _ => not_spoils_placeholder (ids.id n)) h, hf⟩

variable {k : Keys} (hids : ∀ n, ids.taken ≤ n → (⟨ids.id n, ids.id n⟩ : Keys) ≠ k)

include hids

/-- A lookup finds the first record with the keys that is held. -/
theorem find?_first {r : Record} (h : IsFirst (fun q => q.keys = k) items r) :
    records.find? (fun q => q.keys == k) = some r := find?_isFirst hstands hids h

/-- A lookup of keys that no value holds finds nothing. -/
theorem find?_none (h : ∀ item ∈ items, ∀ q, HoldsRecord item q → q.keys ≠ k) :
    records.find? (fun q => q.keys == k) = none := by
  have hne : ∀ r ∈ records, r.keys ≠ k := records_keep hstands h hids
  exact List.find?_eq_none.mpr fun r hr => by simpa using hne r hr

end

end ResultGateway.Result
