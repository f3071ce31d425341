-- How far keys are unique in a store. Only loads bring keys into the lists,
-- and no load minds keys that come twice. So a store has each pair of ids
-- once as far as its last load brought it once, and then all its records
-- are read back.
import ResultGateway.Proofs.Store.Places
import ResultGateway.Proofs.Store.Updates

namespace ResultGateway.Result

/-! ## Stores whose keys are unique -/

/-- No two records have the same keys, and no two object records. -/
structure Store.KeysAreUnique (s : Store) : Prop where
  records : ∀ row, s.recordKeys = some row → row.Nodup
  objects : ∀ row, s.objectKeys = some row → row.Nodup

/-- A lookup of the keys of any record, in either form, finds that record. -/
structure Store.ReadsBackAll (s : Store) : Prop where
  records : ∀ strings, s.strings = some strings → ∀ r ∈ strings, s.record? r.keys = some r
  objects : ∀ objects, s.objects = some objects → ∀ o ∈ objects, s.object? o.keys = some o

theorem find?_of_nodup {α : Type} (keysOf : α → Keys) {items : List α}
    (h : (items.map keysOf).Nodup) {a : α} (ha : a ∈ items) :
    items.find? (fun b => keysOf b == keysOf a) = some a := by
  induction items with
  | nil => cases ha
  | cons first rest ih =>
    obtain ⟨hfirst, hrest⟩ := List.nodup_cons.mp h
    rcases List.mem_cons.mp ha with rfl | ha
    · exact List.find?_cons_of_pos (beq_self_eq_true _)
    · have hne : keysOf first ≠ keysOf a := fun heq => hfirst (List.mem_map.mpr ⟨a, ha, heq.symm⟩)
      rw [List.find?_cons_of_neg (by simpa using hne), ih hrest ha]

theorem Store.KeysAreUnique.readsBackAll {s : Store} (h : s.KeysAreUnique) : s.ReadsBackAll := by
  refine ⟨fun strings hs r hr => ?_, fun objects ho o hmem => ?_⟩
  · have hnodup : (strings.map Record.keys).Nodup := h.records _ (by rw [recordKeys, hs]; rfl)
    unfold Store.record?
    rw [hs]
    exact find?_of_nodup Record.keys hnodup hr
  · have hnodup : (objects.map ObjectRecord.keys).Nodup :=
      h.objects _ (by rw [objectKeys, ho]; rfl)
    unfold Store.object?
    rw [ho]
    exact find?_of_nodup ObjectRecord.keys hnodup hmem

theorem keysAreUnique_congr {s after : Store} (hrecords : after.recordKeys = s.recordKeys)
    (hobjects : after.objectKeys = s.objectKeys) : after.KeysAreUnique ↔ s.KeysAreUnique := by
  constructor
  · rintro ⟨hr, ho⟩
    exact ⟨hrecords ▸ hr, hobjects ▸ ho⟩
  · rintro ⟨hr, ho⟩
    exact ⟨hrecords ▸ hr, hobjects ▸ ho⟩

/-- A store that is made of records has unique keys if they come once in these. -/
theorem Store.IsOf.keysAreUnique_iff {s : Store} {records : List Record} (h : s.IsOf records) :
    s.KeysAreUnique ↔ (records.map Record.keys).Nodup := by
  obtain ⟨objects, rfl, hforms⟩ := h
  have hkeys := map_keys_of_forms hforms
  constructor
  · exact fun hunique => hunique.records _ rfl
  · intro hnodup
    constructor
    · rintro _ ⟨⟩
      exact hnodup
    · rintro _ ⟨⟩
      rwa [← hkeys] at hnodup

/-! ## Keys that a load brings -/

theorem names_of_mem_heldBy {entries : List Entry} {k : Keys}
    (h : k ∈ (heldBy entries).map Record.keys) : ∃ e ∈ entries, e.Names k.graphId := by
  obtain ⟨r, hr, rfl⟩ := List.mem_map.mp h
  obtain ⟨e, he, hrecord⟩ := List.mem_filterMap.mp hr
  have holds : e.record? = .ok r := by
    cases hresult : e.record? <;> rw [hresult] at hrecord <;> cases hrecord
    rfl
  exact ⟨e, he, .inl (holds_iff.mp holds).graph⟩

theorem heldBy_cons_of_holds {e : Entry} {r : Record} (h : e.Holds r) (rest : List Entry) :
    heldBy (e :: rest) = r :: heldBy rest := by
  unfold heldBy
  rw [List.filterMap_cons, holds_iff.mpr h]
  rfl

theorem heldBy_cons_of_incomplete {e : Entry} (h : e.IsIncomplete) (rest : List Entry) :
    heldBy (e :: rest) = heldBy rest := by
  obtain ⟨lack, hlack⟩ := isIncomplete_iff.mp h
  unfold heldBy
  rw [List.filterMap_cons, hlack]
  rfl

section

variable {entries : List Entry} {records : List Record} {used : List String}

/-- The keys of the records in the places of entries are those that are held, and the new ones. -/
theorem Placed.mem_keys (h : Placed entries records used) (k : Keys) :
    k ∈ records.map Record.keys ↔
      k ∈ (heldBy entries).map Record.keys ∨ ∃ id ∈ used, k = ⟨id, id⟩ := by
  induction h with
  | nil => simp [heldBy]
  | held holds _ ih =>
    rw [heldBy_cons_of_holds holds, List.map_cons, List.map_cons, List.mem_cons, List.mem_cons, ih,
      or_assoc]
  | empty lacks _ ih =>
    rw [heldBy_cons_of_incomplete lacks, List.map_cons, List.mem_cons, ih]
    simp only [List.exists_mem_cons_iff]
    exact or_left_comm

/-- New ids bring no keys twice, so the records have their keys once if the entries do. -/
theorem Placed.nodup_keys_iff (h : Placed entries records used) (hdistinct : used.Nodup)
    (hunused : ∀ id ∈ used, ¬ ∃ e ∈ entries, e.Names id) :
    (records.map Record.keys).Nodup ↔ ((heldBy entries).map Record.keys).Nodup := by
  induction h with
  | nil => simp [heldBy]
  | @held e r entries records used holds hrest ih =>
    simp only [List.exists_mem_cons_iff, not_or] at hunused
    have hnew : ¬ ∃ id ∈ used, r.keys = ⟨id, id⟩ := by
      rintro ⟨id, hid, hkeys⟩
      refine (hunused id hid).1 (.inl ?_)
      rw [holds.graph, hkeys]
    rw [heldBy_cons_of_holds holds, List.map_cons, List.map_cons, List.nodup_cons, List.nodup_cons,
      hrest.mem_keys, or_iff_left hnew, ih hdistinct fun id hid => (hunused id hid).2]
  | @empty e id entries records used lacks hrest ih =>
    obtain ⟨hid, hdistinct⟩ := List.nodup_cons.mp hdistinct
    simp only [List.exists_mem_cons_iff, not_or] at hunused
    have hnew : (⟨id, id⟩ : Keys) ∉ records.map Record.keys := by
      rw [hrest.mem_keys]
      rintro (hheld | ⟨other, hother, hkeys⟩)
      · exact (hunused id List.mem_cons_self).2 (names_of_mem_heldBy hheld)
      · cases hkeys
        exact hid hother
    rw [heldBy_cons_of_incomplete lacks, List.map_cons, List.nodup_cons,
      ih hdistinct fun other hother => (hunused other (List.mem_cons_of_mem _ hother)).2,
      and_iff_right hnew]

end

/-! ## Operations that bring keys -/

namespace Operation

/-- The entries that a load is given, complete or not. -/
def entries : Operation → List Entry
  | .loadEntries entries => entries
  | _ => []

/-- The records that a load brings, the empty ones apart. No other operation brings any. -/
def brought : Operation → List Record
  | .loadEntries entries => heldBy entries
  | .load records => records
  | _ => []

/-- An operation that does not bring a pair of ids twice. -/
def BringsOnce (op : Operation) : Prop := (op.brought.map Record.keys).Nodup

instance (op : Operation) : Decidable op.BringsOnce :=
  inferInstanceAs (Decidable (op.brought.map Record.keys).Nodup)

end Operation

/-- An operation that is a load, and succeeds. -/
def State.Loads (s : State) : Operation → Prop
  | .loadEntries entries => ∃ summary, (s.store.loadEntries entries s.ids).1.result = .ok summary
  | .load records => (s.store.load records).result = .ok ()
  | _ => False

/-! ## Ids for a run -/

/-- A supply whose ids for the incomplete ones of entries are distinct, and named by no entry. -/
def NewFor (ids : FreshIds) (entries : List Entry) : Prop :=
  NextAreNew ids (lacksOf entries).length fun id => ∃ e ∈ entries, e.Names id

/-- A supply whose ids for all loads of a run are new. -/
def SuppliesNewIds (ids : FreshIds) (ops : List Operation) : Prop :=
  NewFor ids (ops.flatMap Operation.entries)

theorem take_add (ids : FreshIds) (first later : Nat) :
    (ids.take (first + later)).1 = (ids.take first).1 ++ ((ids.take first).2.take later).1 := by
  induction first generalizing ids with
  | zero => rw [Nat.zero_add]; rfl
  | succ first ih =>
    rw [Nat.succ_add]
    exact congrArg (ids.next :: ·) (ih ids.rest)

theorem recordsOf_snd (entries : List Entry) (ids : FreshIds) :
    (recordsOf entries ids).2 = (ids.take (lacksOf entries).length).2 := by
  unfold lacksOf
  induction entries generalizing ids with
  | nil => rfl
  | cons e rest ih =>
    rw [recordsOf, Entry.recordOr, List.filterMap_cons]
    cases e.record? with
    | ok r => exact ih ids
    | error lack => exact ih ids.rest

theorem step_ids (s : State) (op : Operation) :
    (s.step op).ids = (s.ids.take (lacksOf op.entries).length).2 := by
  cases op with
  | loadEntries entries => exact recordsOf_snd entries s.ids
  | load | change | clear | clearAll => rfl

/-- The ids for a run are those for its first operation, and for the run that follows this. -/
theorem SuppliesNewIds.step {s : State} {op : Operation} {rest : List Operation}
    (h : SuppliesNewIds s.ids (op :: rest)) :
    NewFor s.ids op.entries ∧ SuppliesNewIds (s.step op).ids rest := by
  obtain ⟨hdistinct, hunused⟩ := h
  have htake : (s.ids.take (lacksOf ((op :: rest).flatMap Operation.entries)).length).1 =
      (s.ids.take (lacksOf op.entries).length).1 ++
        ((s.step op).ids.take (lacksOf (rest.flatMap Operation.entries)).length).1 := by
    rw [step_ids, ← take_add, List.flatMap_cons, lacksOf, List.filterMap_append,
      List.length_append]
    rfl
  rw [htake] at hdistinct hunused
  obtain ⟨hfirst, hlater, -⟩ := List.nodup_append.mp hdistinct
  constructor
  · refine ⟨hfirst, fun id hid ⟨e, he, hnames⟩ => ?_⟩
    exact hunused id (List.mem_append_left _ hid) ⟨e, List.mem_append_left _ he, hnames⟩
  · refine ⟨hlater, fun id hid ⟨e, he, hnames⟩ => ?_⟩
    exact hunused id (List.mem_append_right _ hid) ⟨e, List.mem_append_right _ he, hnames⟩

theorem SuppliesNewIds.run {s : State} {before after : List Operation}
    (h : SuppliesNewIds s.ids (before ++ after)) : SuppliesNewIds (s.run before).ids after := by
  induction before generalizing s with
  | nil => exact h
  | cons op rest ih => exact ih h.step.2

/-! ## Steps -/

/-- A load makes a store of records, in which keys are unique as far as it brought them once. -/
theorem keysAreUnique_of_loads {s : State} {op : Operation} (hnew : NewFor s.ids op.entries)
    (h : s.Loads op) : (s.step op).store.KeysAreUnique ↔ op.BringsOnce := by
  cases op with
  | loadEntries entries =>
    obtain ⟨summary, hsummary⟩ := h
    exact (loadEntries_isOf s.store hsummary).keysAreUnique_iff.trans
      ((placed_recordsOf entries s.ids).nodup_keys_iff hnew.distinct hnew.unused)
  | load records => exact (load_isOf s.store h).keysAreUnique_iff
  | change | clear | clearAll => exact h.elim

/-- An update leaves all keys where they are. -/
theorem Update.keysAreUnique_step (u : Update) (s : State) :
    (s.step u.operation).store.KeysAreUnique ↔ s.store.KeysAreUnique := by
  rcases u.step_cases with ⟨value, -, hstep⟩ | ⟨-, hstep⟩
  · rw [hstep]
    exact keysAreUnique_congr (s.store.recordKeys_set ..) (s.store.objectKeys_set ..)
  · rw [hstep]

theorem keysAreUnique_run_updates (s : State) (updates : List Update) :
    (s.run (updates.map Update.operation)).store.KeysAreUnique ↔ s.store.KeysAreUnique := by
  induction updates generalizing s with
  | nil => exact Iff.rfl
  | cons u rest ih => exact (ih (s.step u.operation)).trans (u.keysAreUnique_step s)

theorem keysAreUnique_empty : Store.empty.KeysAreUnique := by
  constructor <;> rintro _ ⟨⟩

/-- What is no load that succeeds brings no keys. -/
theorem keysAreUnique_of_not_loads {s : State} {op : Operation} (hloads : ¬ s.Loads op)
    (h : s.store.KeysAreUnique) : (s.step op).store.KeysAreUnique := by
  cases op with
  | loadEntries entries =>
    cases hresult : (s.store.loadEntries entries s.ids).1.result with
    | ok summary => exact absurd ⟨summary, hresult⟩ hloads
    | error f =>
      have hstore : (s.step (.loadEntries entries)).store = s.store :=
        (loadEntries_failsFor s.store entries s.ids).keeps f hresult
      rwa [hstore]
  | load records =>
    cases hresult : (s.store.load records).result with
    | ok => exact absurd hresult hloads
    | error f =>
      have hstore : (s.step (.load records)).store = s.store := load_store_of_error s.store hresult
      rwa [hstore]
  | change r => exact ((Update.change r).keysAreUnique_step s).mpr h
  | clear k => exact ((Update.clear k).keysAreUnique_step s).mpr h
  | clearAll => exact keysAreUnique_empty

theorem keysAreUnique_step {s : State} {op : Operation} (hnew : NewFor s.ids op.entries)
    (honce : op.BringsOnce) (h : s.store.KeysAreUnique) : (s.step op).store.KeysAreUnique := by
  by_cases hloads : s.Loads op
  · exact (keysAreUnique_of_loads hnew hloads).mpr honce
  · exact keysAreUnique_of_not_loads hloads h

theorem keysAreUnique_run {s : State} {ops : List Operation} (hnew : SuppliesNewIds s.ids ops)
    (honce : ∀ op ∈ ops, op.BringsOnce) (h : s.store.KeysAreUnique) :
    (s.run ops).store.KeysAreUnique := by
  induction ops generalizing s with
  | nil => exact h
  | cons op rest ih =>
    obtain ⟨hstep, hrest⟩ := hnew.step
    rw [List.forall_mem_cons] at honce
    exact ih hrest honce.2 (keysAreUnique_step hstep honce.1 h)

/-! ## The law -/

/-- With a supply of new ids, keys are unique in every store whose loads bring no keys twice, and
all its records are read back. After a load, and any updates that follow, they are unique only if
that load brought none twice. -/
theorem keys_are_unique_as_far_as_loads_bring_them_once (ids : FreshIds) (ops : List Operation)
    (hnew : SuppliesNewIds ids ops) :
    ((∀ op ∈ ops, op.BringsOnce) → ((State.new ids).run ops).store.KeysAreUnique ∧
      ((State.new ids).run ops).store.ReadsBackAll) ∧
    ∀ (before : List Operation) op (updates : List Update),
      ops = before ++ op :: updates.map Update.operation → ((State.new ids).run before).Loads op →
      (((State.new ids).run ops).store.KeysAreUnique ↔ op.BringsOnce) := by
  constructor
  · intro honce
    have hunique := keysAreUnique_run (s := .new ids) hnew honce keysAreUnique_empty
    exact ⟨hunique, hunique.readsBackAll⟩
  · rintro before op updates rfl hloads
    have hrun : (State.new ids).run (before ++ op :: updates.map Update.operation) =
        (((State.new ids).run before).step op).run (updates.map Update.operation) :=
      List.foldl_append
    have hop := (SuppliesNewIds.run (s := .new ids) hnew).step.1
    rw [hrun, keysAreUnique_run_updates]
    exact keysAreUnique_of_loads hop hloads

/-- A load with gaps, and a change of the record that it holds. -/
def gapOperations : List Operation :=
  [.loadEntries gapEntries, .change ⟨"[7]", ⟨"g", "c"⟩⟩]

theorem keys_are_unique_after_a_load_with_gaps :
    SuppliesNewIds (.countingFrom 0) gapOperations ∧ (∀ op ∈ gapOperations, op.BringsOnce) ∧
    ((State.new (.countingFrom 0)).run gapOperations).store.KeysAreUnique ∧
    ((State.new (.countingFrom 0)).run gapOperations).store.ReadsBackAll := by
  have htake : ((FreshIds.countingFrom 0).take
      (lacksOf (gapOperations.flatMap Operation.entries)).length).1 =
      ["00000000-0000-4000-8000-000000000000", "00000000-0000-4000-8000-000000000001"] := rfl
  have hnew : SuppliesNewIds (.countingFrom 0) gapOperations := by
    constructor
    · rw [htake]
      decide
    · rw [htake]
      simp [gapOperations, Operation.entries, gapEntries, Entry.Names, Entry.ofRecord]
  have honce : ∀ op ∈ gapOperations, op.BringsOnce := by decide
  exact ⟨hnew, honce,
    (keys_are_unique_as_far_as_loads_bring_them_once (.countingFrom 0) gapOperations hnew).1 honce⟩

/-- A store with two records under one pair of ids, of which the second cannot be read back. -/
structure Store.HasTwins (s : Store) : Prop where
  not_unique : ¬ s.KeysAreUnique
  not_read_back : ¬ s.ReadsBackAll

theorem hasTwins_of_twins {s : Store} (h : s.strings = some twins) : s.HasTwins := by
  constructor
  · intro hunique
    have hnodup := hunique.records (twins.map Record.keys) (by rw [Store.recordKeys, h]; rfl)
    exact absurd hnodup (by decide)
  · intro hreads
    have hfound := hreads.records twins h ⟨"[2]", ⟨"g", "c"⟩⟩ (by decide)
    unfold Store.record? at hfound
    rw [h] at hfound
    exact absurd hfound (by decide)

/-- Both loads bring two records under one pair of ids, as records and as entries. -/
theorem loads_bring_twins :
    SuppliesNewIds (.countingFrom 0) [.load twins] ∧ twinState.store.HasTwins ∧
    SuppliesNewIds (.countingFrom 0) [.loadEntries (twins.map Entry.ofRecord)] ∧
    ((State.new (.countingFrom 0)).run [.loadEntries (twins.map Entry.ofRecord)]).store.HasTwins :=
  ⟨⟨List.nodup_nil, List.forall_mem_nil _⟩, hasTwins_of_twins rfl,
    ⟨List.nodup_nil, List.forall_mem_nil _⟩, hasTwins_of_twins rfl⟩

end ResultGateway.Result
