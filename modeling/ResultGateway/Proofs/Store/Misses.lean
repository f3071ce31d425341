-- Updates that find no record. Both kinds leave the lists as they are. A
-- change is also told in the log then, by one record that names the ids,
-- and only then. A clear is never told.
import ResultGateway.Proofs.Store.Updates

namespace ResultGateway.Result

/-! ## Whether a record is found -/

namespace Store

section

variable {α : Type} (keysOf : α → Keys) (k : Keys) (f : α → α)

theorem updateFirst_eq_none {items : List α} :
    updateFirst (fun a => keysOf a == k) f items = none ↔ k ∉ items.map keysOf := by
  induction items with
  | nil => simp [updateFirst]
  | cons a rest ih =>
    rw [List.map_cons, List.mem_cons, not_or, ← ih]
    by_cases h : keysOf a = k
    · simp [updateFirst, h]
    · simp [updateFirst, h, Ne.symm h]

/-- The scan of a list tells whether the keys are in it. -/
theorem updateIn_snd (list : Option (List α)) :
    (updateIn (fun a => keysOf a == k) f list).2 = true ↔
      ∃ row, list.map (List.map keysOf) = some row ∧ k ∈ row := by
  cases list with
  | none => simp [updateIn]
  | some items =>
    simp only [updateIn, Option.map_some, Option.some.injEq, exists_eq_left']
    cases hupdate : updateFirst (fun a => keysOf a == k) f items with
    | none => simpa using (updateFirst_eq_none keysOf k f).mp hupdate
    | some changed =>
      have hfound : ¬ k ∉ items.map keysOf := by
        rw [← updateFirst_eq_none keysOf k f, hupdate]
        exact nofun
      simpa using hfound

end

/-- The object records have the keys of the records, so both scans tell the same. -/
theorem Paired.objectKeys_eq {s : Store} (h : s.Paired) : s.objectKeys = s.recordKeys := by
  unfold objectKeys recordKeys
  rcases h with ⟨hs, ho⟩ | ⟨strings, objects, hs, ho, hforms⟩
  · rw [hs, ho]
    rfl
  · rw [hs, ho, Option.map_some, Option.map_some, map_keys_of_forms hforms]

theorem Paired.set_snd {s : Store} (h : s.Paired) (k : Keys) (json : String) (value : Json) :
    (s.set k json value).2 = true ↔ s.Has k := by
  have hstrings := updateIn_snd Record.keys k (fun r => { r with json }) s.strings
  have hobjects := updateIn_snd ObjectRecord.keys k (fun o => { o with value }) s.objects
  change _ ↔ ∃ row, s.objectKeys = some row ∧ k ∈ row at hobjects
  rw [h.objectKeys_eq] at hobjects
  unfold Store.set
  rw [Bool.or_eq_true, hstrings, hobjects]
  exact or_self_iff

/-- A change that can be parsed is told when it finds no record. -/
theorem change_log (s : Store) {r : Record} {value : Json} (h : parse r.json = .ok value) :
    (s.change r).log = if (s.set r.keys r.json value).2 then [] else [missRecord r.keys] := by
  unfold change Record.toObject
  rw [h]
  dsimp only
  split <;> rename_i heq <;> rw [heq] <;> rfl

end Store

/-! ## The law -/

/-- A log record of the finest level that names both ids of some keys. -/
structure IsTraceOf (k : Keys) (r : Log.Record) : Prop where
  level : r.level = .trace
  named : r.fields = [("graph_id", k.graphId), ("code_id", k.codeId)]

theorem isTraceOf_missRecord (k : Keys) : IsTraceOf k (Store.missRecord k) := ⟨rfl, rfl⟩

/-- In every state an update that finds no record succeeds and leaves both lists. A change whose
text can be parsed is told in the log by one record if it finds none, and by no record if it finds
one. A clear is not told in either case. -/
theorem a_miss_changes_nothing_and_is_told_of_a_change_only (ids : FreshIds)
    (ops : List Operation) :
    let s := ((State.new ids).run ops).store
    (∀ r, IsResultText r.json → (s.change r).result = .ok () ∧
      (¬ s.Has r.keys → (s.change r).store = s ∧
        ∃ record, (s.change r).log = [record] ∧ IsTraceOf r.keys record) ∧
      (s.Has r.keys → (s.change r).log = [])) ∧
    ∀ k, (s.clear k).result = .ok () ∧ (¬ s.Has k → (s.clear k).store = s) ∧
      (s.clear k).log = [] := by
  intro s
  have hpaired : s.Paired := run_paired ids ops
  refine ⟨?_, fun k => ⟨rfl, (hpaired.isUpdate k emptyText emptyValue).missing, rfl⟩⟩
  rintro r ⟨value, hvalue⟩
  obtain ⟨hresult, hstore⟩ := s.change_of_parsed hvalue
  have hlog := s.change_log hvalue
  refine ⟨hresult, fun hmissing => ⟨?_, ?_⟩, fun hheld => ?_⟩
  · rw [hstore]
    exact (hpaired.isUpdate r.keys r.json value).missing hmissing
  · rw [if_neg (mt (hpaired.set_snd r.keys r.json value).mp hmissing)] at hlog
    exact ⟨_, hlog, isTraceOf_missRecord r.keys⟩
  · rw [if_pos ((hpaired.set_snd r.keys r.json value).mpr hheld)] at hlog
    exact hlog

/-! ## A pair of ids that no record has -/

theorem twins_lack : ¬ twinState.store.Has ⟨"g", "e"⟩ := by
  rintro ⟨row, hrow, hmem⟩
  cases hrow
  exact absurd hmem (by decide)

theorem twins_have : twinState.store.Has ⟨"g", "c"⟩ := ⟨_, rfl, by decide⟩

/-- The change of a pair that the twins lack is told, and that of their own pair is not. -/
theorem a_change_of_a_missing_pair_is_told :
    IsResultText "[7]" ∧ ¬ twinState.store.Has ⟨"g", "e"⟩ ∧ twinState.store.Has ⟨"g", "c"⟩ ∧
    (twinState.store.change ⟨"[7]", ⟨"g", "e"⟩⟩).store = twinState.store ∧
    (∃ record, (twinState.store.change ⟨"[7]", ⟨"g", "e"⟩⟩).log = [record] ∧
      IsTraceOf ⟨"g", "e"⟩ record) ∧
    (twinState.store.change ⟨"[7]", ⟨"g", "c"⟩⟩).log = [] ∧
    (twinState.store.clear ⟨"g", "e"⟩).store = twinState.store := by
  have hreadable : IsResultText "[7]" := by decide
  obtain ⟨hchange, hclear⟩ :=
    a_miss_changes_nothing_and_is_told_of_a_change_only (.countingFrom 0) [.load twins]
  obtain ⟨-, hmiss, -⟩ := hchange ⟨"[7]", ⟨"g", "e"⟩⟩ hreadable
  obtain ⟨-, -, hhit⟩ := hchange ⟨"[7]", ⟨"g", "c"⟩⟩ hreadable
  obtain ⟨hstore, hlog⟩ := hmiss twins_lack
  exact ⟨hreadable, twins_lack, twins_have, hstore, hlog, hhit twins_have,
    (hclear ⟨"g", "e"⟩).2.1 twins_lack⟩

/-- The clear of a pair that the twins lack is told by no record that names it. -/
theorem a_clear_of_a_missing_pair_is_not_told :
    ¬ twinState.store.Has ⟨"g", "e"⟩ ∧
    ¬ ∃ record, (twinState.store.clear ⟨"g", "e"⟩).log = [record] ∧
      IsTraceOf ⟨"g", "e"⟩ record := by
  refine ⟨twins_lack, ?_⟩
  rintro ⟨record, hlog, -⟩
  cases hlog

end ResultGateway.Result
