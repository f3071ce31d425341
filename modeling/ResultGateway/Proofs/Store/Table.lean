-- The store as a table. From outside a store shows what an optional finite
-- map from keys to texts tells: each operation changes the map by a rule
-- of its own, and the lookups of the store read it.
import Mathlib.Data.Finmap
import ResultGateway.Proofs.Store.Projection

namespace ResultGateway.Result

/-! ## Tables -/

/-- The texts of some results, each under its keys. -/
abbrev Table := Finmap fun _ : Keys => String

/-- The texts of records. Of two records with the same keys the first counts. -/
def tableOf : List Record → Table
  | [] => ∅
  | r :: rest => (tableOf rest).insert r.keys r.json

/-- The table with another text under keys that it has. -/
def Table.set (t : Table) (k : Keys) (json : String) : Table :=
  if k ∈ t then t.insert k json else t

/-- A table, when one is loaded, and the ids to come. -/
structure Sheet where
  table : Option Table
  ids : FreshIds

namespace Sheet

/-- The sheet after records are loaded. Records that cannot all be parsed leave it. -/
def load (a : Sheet) (records : List Record) : Sheet :=
  if ∀ r ∈ records, IsResultText r.json then { a with table := some (tableOf records) } else a

/-- The sheet after a text is set under keys that it has. -/
def set (a : Sheet) (k : Keys) (json : String) : Sheet :=
  { a with table := a.table.map fun t => Table.set t k json }

def step (a : Sheet) : Operation → Sheet
  | .loadEntries entries =>
    let (records, ids) := recordsOf entries a.ids
    { a.load records with ids }
  | .load records => a.load records
  | .change r => if IsResultText r.json then a.set r.keys r.json else a
  | .clear k => a.set k "[]"
  | .clearAll => { a with table := none }

def run (a : Sheet) (ops : List Operation) : Sheet := ops.foldl step a

end Sheet

/-! ## Lists of records and tables -/

/-- The first record of some keys is the one that the table knows. -/
theorem find?_eq_lookup (records : List Record) (k : Keys) :
    records.find? (fun r => r.keys == k) =
      ((tableOf records).lookup k).map fun json => ⟨json, k⟩ := by
  induction records with
  | nil => rfl
  | cons r rest ih =>
    rw [List.find?_cons, tableOf]
    by_cases hk : r.keys = k
    · subst hk
      rw [Finmap.lookup_insert, beq_self_eq_true]
      rfl
    · have hbeq : (r.keys == k) = false := by simpa using hk
      rw [Finmap.lookup_insert_of_ne _ (Ne.symm hk), ← ih, hbeq]

/-- Of records with distinct keys the table knows each. -/
theorem lookup_tableOf {records : List Record} (h : (records.map Record.keys).Nodup) {k : Keys}
    {json : String} : (tableOf records).lookup k = some json ↔ ⟨json, k⟩ ∈ records := by
  induction records with
  | nil => simp [tableOf]
  | cons r rest ih =>
    rw [List.map_cons, List.nodup_cons] at h
    rw [tableOf, List.mem_cons]
    by_cases hk : r.keys = k
    · subst hk
      have habsent : ⟨json, r.keys⟩ ∉ rest :=
        fun hmem => h.1 (List.mem_map.mpr ⟨_, hmem, rfl⟩)
      rw [Finmap.lookup_insert]
      obtain ⟨text, keys⟩ := r
      simp [habsent, eq_comm]
    · rw [Finmap.lookup_insert_of_ne _ (Ne.symm hk), ih h.2]
      refine ⟨.inr, fun hmem => hmem.resolve_left ?_⟩
      rintro rfl
      exact hk rfl

theorem tableOf_eq_empty {records : List Record} : tableOf records = ∅ ↔ records = [] := by
  cases records with
  | nil => simp [tableOf]
  | cons r rest =>
    refine ⟨fun h => ?_, fun h => (nomatch h)⟩
    have hmem : r.keys ∈ tableOf (r :: rest) := Finmap.mem_insert.mpr (.inl rfl)
    rw [h] at hmem
    exact absurd hmem Finmap.notMem_empty

/-- Changing the text of the first record of some keys sets it in the table. -/
theorem tableOf_updateFirst (records : List Record) (k : Keys) (json : String) :
    (Store.updateFirst (fun r => r.keys == k) (fun r => { r with json }) records = none ∧
      k ∉ tableOf records) ∨
    ∃ changed, Store.updateFirst (fun r => r.keys == k) (fun r => { r with json }) records =
      some changed ∧ k ∈ tableOf records ∧
      tableOf changed = (tableOf records).insert k json := by
  induction records with
  | nil => exact .inl ⟨rfl, Finmap.notMem_empty⟩
  | cons r rest ih =>
    unfold Store.updateFirst
    by_cases hk : r.keys = k
    · subst hk
      simp only [beq_self_eq_true, if_true, tableOf]
      exact .inr ⟨_, rfl, Finmap.mem_insert.mpr (.inl rfl),
        (Finmap.insert_insert (tableOf rest)).symm⟩
    · have hbeq : (r.keys == k) = false := by simpa using hk
      simp only [hbeq, Bool.false_eq_true, if_false, tableOf, Finmap.mem_insert, Ne.symm hk,
        false_or]
      rcases ih with ⟨hnone, habsent⟩ | ⟨changed, hsome, hmem, htable⟩
      · exact .inl ⟨by rw [hnone]; rfl, habsent⟩
      · refine .inr ⟨r :: changed, by rw [hsome]; rfl, hmem, ?_⟩
        rw [tableOf, htable]
        exact Finmap.insert_insert_of_ne _ (Ne.symm hk)

/-! ## The simulation -/

/-- What is kept of a state from outside. -/
def State.sheet (s : State) : Sheet := ⟨s.store.strings.map tableOf, s.ids⟩

theorem sheet_load (s : State) (records : List Record) :
    ({ s with store := (s.store.load records).store } : State).sheet = s.sheet.load records := by
  unfold Sheet.load
  rcases s.store.load_cases records with ⟨objects, ho, he⟩ | ⟨f, hf, he⟩
  · rw [if_pos (Store.objectsOf_isOk.mp ⟨objects, ho⟩), he]
    rfl
  · rw [if_neg, he]
    intro hall
    obtain ⟨objects, ho⟩ := Store.objectsOf_isOk.mpr hall
    rw [hf] at ho
    cases ho

theorem sheet_set (s : State) (k : Keys) (json : String) (value : Json) :
    ({ s with store := (s.store.set k json value).1 } : State).sheet = s.sheet.set k json := by
  unfold Sheet.set State.sheet Store.set Store.updateIn
  cases s.store.strings with
  | none => rfl
  | some records =>
    dsimp only [Option.map_some, Table.set]
    rcases tableOf_updateFirst records k json with ⟨hnone, habsent⟩ | ⟨changed, hsome, hmem, heq⟩
    · rw [if_neg habsent, hnone]
      rfl
    · rw [if_pos hmem, hsome, ← heq]
      rfl

/-- Each operation changes the sheet of a state by its rule. -/
theorem step_sheet (s : State) (op : Operation) : (s.step op).sheet = s.sheet.step op := by
  cases op with
  | loadEntries entries =>
    have hload := congrArg Sheet.table (sheet_load s (recordsOf entries s.ids).1)
    exact congrArg (fun table => Sheet.mk table (recordsOf entries s.ids).2) hload
  | load records => exact sheet_load s records
  | change r =>
    unfold Sheet.step State.step
    dsimp only
    rcases s.store.change_cases r with ⟨value, hv, he⟩ | ⟨f, hf, he⟩
    · rw [if_pos ⟨value, hv⟩, he]
      exact sheet_set s r.keys r.json value
    · rw [if_neg, he]
      rintro ⟨value, hv⟩
      rw [hf] at hv
      cases hv
  | clear k => exact sheet_set s k emptyText emptyValue
  | clearAll => rfl

theorem run_sheet (s : State) (ops : List Operation) : (s.run ops).sheet = s.sheet.run ops := by
  induction ops generalizing s with
  | nil => rfl
  | cons op rest ih =>
    show ((s.step op).run rest).sheet = (s.sheet.step op).run rest
    rw [ih, step_sheet]

/-! ## What a store shows -/

/-- The lookups of a store, and its questions for emptiness, tell what an optional table tells. -/
structure Store.Shows (s : Store) (table : Option Table) : Prop where
  found : ∀ t k json, table = some t → t.lookup k = some json →
    s.record? k = some ⟨json, k⟩ ∧
    ∃ value, parse json = .ok value ∧ s.object? k = some ⟨value, k⟩
  missing : ∀ k, (∀ t, table = some t → k ∉ t) → s.record? k = none ∧ s.object? k = none
  stringsEmpty : s.stringsEmpty = table.map fun t => decide (t = ∅)
  objectsEmpty : s.objectsEmpty = table.map fun t => decide (t = ∅)

theorem record?_eq_lookup (s : Store) (k : Keys) :
    s.record? k = (s.strings.map tableOf >>= fun t => t.lookup k).map fun json => ⟨json, k⟩ := by
  unfold Store.record?
  cases s.strings with
  | none => rfl
  | some records => exact find?_eq_lookup records k

theorem decide_tableOf (records : List Record) :
    decide (tableOf records = ∅) = records.isEmpty := by
  rw [Bool.eq_iff_iff, decide_eq_true_iff, tableOf_eq_empty, List.isEmpty_iff]

/-- A store whose lists pair up shows the table of its records. -/
theorem Store.Paired.shows {s : Store} (h : s.Paired) : s.Shows (s.strings.map tableOf) := by
  refine ⟨?_, ?_, ?_, ?_⟩
  · intro t k json ht hlookup
    have hrecord : s.record? k = some ⟨json, k⟩ := by
      rw [record?_eq_lookup, ht]
      simp [hlookup]
    refine ⟨hrecord, ?_⟩
    rcases h.findsOnePlace k with ⟨hnone, -⟩ | ⟨_, _, _, r, o, -, -, -, -, hr, ho, -, hkeys, -, hv⟩
    · rw [hnone] at hrecord
      cases hrecord
    · rw [hr] at hrecord
      cases hrecord
      obtain ⟨value, keys⟩ := o
      cases hkeys
      exact ⟨value, hv, ho⟩
  · intro k habsent
    have hrecord : s.record? k = none := by
      rw [record?_eq_lookup]
      cases ht : s.strings.map tableOf with
      | none => rfl
      | some t => simp [Finmap.lookup_eq_none.mpr (habsent t ht)]
    refine ⟨hrecord, ?_⟩
    rcases h.findsOnePlace k with ⟨-, hnone, -⟩ | ⟨_, _, _, r, o, -, -, -, -, hr, -⟩
    · exact hnone
    · rw [hr] at hrecord
      cases hrecord
  · unfold Store.stringsEmpty
    rw [Option.map_map]
    exact congrArg (Option.map · s.strings) (funext fun records => (decide_tableOf records).symm)
  · unfold Store.objectsEmpty
    rcases h with ⟨hs, ho⟩ | ⟨strings, objects, hs, ho, hforms⟩
    · rw [hs, ho]
      rfl
    · rw [hs, ho, Option.map_some, Option.map_some, Option.map_some, decide_tableOf]
      cases hforms <;> rfl

end ResultGateway.Result
