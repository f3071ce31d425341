-- What an update of one record does. Only the first place of its keys moves,
-- the same one in both lists, and no id moves with it. Updates under
-- different keys may change places, of two under the same keys the later one
-- decides, and a clear is the change to an empty result.
import ResultGateway.Proofs.Store.Projection

namespace ResultGateway.Result

/-! ## Places -/

/-- A place of some keys in a row of keys, with no earlier one. -/
structure IsFirstPlace (row : List Keys) (k : Keys) (i : Nat) : Prop where
  here : row[i]? = some k
  before : ∀ j < i, row[j]? ≠ some k

theorem exists_isFirstPlace {row : List Keys} {k : Keys} (h : k ∈ row) :
    ∃ i, IsFirstPlace row k i := by
  induction row with
  | nil => cases h
  | cons q rest ih =>
    by_cases hq : q = k
    · subst hq
      exact ⟨0, rfl, by simp⟩
    · obtain ⟨i, hhere, hbefore⟩ := ih ((List.mem_cons.mp h).resolve_left (Ne.symm hq))
      refine ⟨i + 1, hhere, ?_⟩
      intro j hj
      cases j with
      | zero => simpa using hq
      | succ j => exact hbefore j (Nat.lt_of_succ_lt_succ hj)

/-- A list that has the given element at one place, and at all others what another list has. -/
structure MovedAt {α : Type} (i : Nat) (a : α) (before after : List α) : Prop where
  length_eq : after.length = before.length
  here : after[i]? = some a
  elsewhere : ∀ j, j ≠ i → after[j]? = before[j]?

/-! ## Lists of things under keys -/

section

variable {α : Type} (keysOf : α → Keys)

/-- The list after a change of the first element with some keys, or as it was if none has them. -/
def changeFirst (k : Keys) (f : α → α) (items : List α) : List α :=
  (Store.updateFirst (fun a => keysOf a == k) f items).getD items

theorem changeFirst_cons (k : Keys) (f : α → α) (a : α) (rest : List α) :
    changeFirst keysOf k f (a :: rest) =
      if keysOf a = k then f a :: rest else a :: changeFirst keysOf k f rest := by
  unfold changeFirst
  by_cases h : keysOf a = k
  · simp [Store.updateFirst, h]
  · simp only [Store.updateFirst, beq_iff_eq, h, if_false]
    cases Store.updateFirst (fun a => keysOf a == k) f rest <;> rfl

theorem updateIn_fst (k : Keys) (f : α → α) (list : Option (List α)) :
    (Store.updateIn (fun a => keysOf a == k) f list).1 = list.map (changeFirst keysOf k f) := by
  unfold Store.updateIn changeFirst
  cases list with
  | none => rfl
  | some items => dsimp only; split <;> simp [*]

theorem changeFirst_of_absent {k : Keys} (f : α → α) {items : List α}
    (h : k ∉ items.map keysOf) : changeFirst keysOf k f items = items := by
  induction items with
  | nil => rfl
  | cons a rest ih =>
    rw [List.map_cons, List.mem_cons, not_or] at h
    rw [changeFirst_cons, if_neg (Ne.symm h.1), ih h.2]

/-- The element that is changed is the one at the first place of the keys. -/
theorem changeFirst_eq_modify {k : Keys} (f : α → α) {items : List α} {i : Nat}
    (h : IsFirstPlace (items.map keysOf) k i) :
    changeFirst keysOf k f items = items.modify i f := by
  induction items generalizing i with
  | nil => cases h.here
  | cons a rest ih =>
    rw [changeFirst_cons]
    cases i with
    | zero =>
      have ha : keysOf a = k := Option.some.inj h.here
      rw [if_pos ha]
      rfl
    | succ i =>
      have ha : keysOf a ≠ k := fun heq => h.before 0 (Nat.succ_pos i) (congrArg some heq)
      have hrest : IsFirstPlace (rest.map keysOf) k i :=
        ⟨h.here, fun j hj => h.before (j + 1) (Nat.succ_lt_succ hj)⟩
      rw [if_neg ha, ih hrest]
      rfl

theorem movedAt_changeFirst {k : Keys} {f : α → α} {b : α} (hf : ∀ a, keysOf a = k → f a = b)
    {items : List α} {i : Nat} (h : IsFirstPlace (items.map keysOf) k i) :
    MovedAt i b items (changeFirst keysOf k f items) := by
  rw [changeFirst_eq_modify keysOf f h]
  obtain ⟨a, ha, hk⟩ := Option.map_eq_some_iff.mp (List.getElem?_map ▸ h.here)
  refine ⟨List.length_modify .., ?_, ?_⟩
  · rw [List.getElem?_modify_eq, ha, ← hf a hk]
    rfl
  · exact fun j hj => List.getElem?_modify_ne f items hj.symm

/-- Where the keys of two changes differ, either change may come first. -/
theorem changeFirst_comm {k q : Keys} (hne : k ≠ q) {f g : α → α}
    (hf : ∀ a, keysOf (f a) = keysOf a) (hg : ∀ a, keysOf (g a) = keysOf a) (items : List α) :
    changeFirst keysOf q g (changeFirst keysOf k f items) =
      changeFirst keysOf k f (changeFirst keysOf q g items) := by
  induction items with
  | nil => rfl
  | cons a rest ih =>
    rw [changeFirst_cons, changeFirst_cons (k := q)]
    by_cases hk : keysOf a = k
    · have hq : keysOf a ≠ q := fun h => hne (hk.symm.trans h)
      rw [if_pos hk, if_neg hq, changeFirst_cons, changeFirst_cons, hf, if_pos hk, if_neg hq]
    · rw [if_neg hk]
      by_cases hq : keysOf a = q
      · rw [if_pos hq, changeFirst_cons, changeFirst_cons, hg, if_pos hq, if_neg hk]
      · rw [if_neg hq, changeFirst_cons, changeFirst_cons, if_neg hk, if_neg hq, ih]

section

variable (k : Keys) {f : α → α} (hf : ∀ a, keysOf (f a) = keysOf a)

include hf

/-- Two changes under the same keys change the same element. -/
theorem changeFirst_changeFirst (g : α → α) (items : List α) :
    changeFirst keysOf k g (changeFirst keysOf k f items) =
      changeFirst keysOf k (fun a => g (f a)) items := by
  induction items with
  | nil => rfl
  | cons a rest ih =>
    rw [changeFirst_cons, changeFirst_cons]
    by_cases hk : keysOf a = k
    · rw [if_pos hk, if_pos hk, changeFirst_cons, hf, if_pos hk]
    · rw [if_neg hk, if_neg hk, changeFirst_cons, if_neg hk, ih]

theorem map_changeFirst (items : List α) :
    (changeFirst keysOf k f items).map keysOf = items.map keysOf := by
  induction items with
  | nil => rfl
  | cons a rest ih =>
    rw [changeFirst_cons]
    split
    · rw [List.map_cons, List.map_cons, hf]
    · rw [List.map_cons, List.map_cons, ih]

theorem find?_changeFirst_of_ne {q : Keys} (hne : q ≠ k) (items : List α) :
    (changeFirst keysOf k f items).find? (fun a => keysOf a == q) =
      items.find? fun a => keysOf a == q := by
  induction items with
  | nil => rfl
  | cons a rest ih =>
    rw [changeFirst_cons]
    by_cases hk : keysOf a = k
    · have hq : keysOf a ≠ q := fun h => hne (h.symm.trans hk)
      rw [if_pos hk, List.find?_cons_of_neg (by simp [hf, hq]),
        List.find?_cons_of_neg (by simp [hq])]
    · rw [if_neg hk, List.find?_cons, List.find?_cons, ih]

end

/-- The element that a lookup finds is the one that is changed. -/
theorem find?_changeFirst {k : Keys} {f : α → α} {b : α} (hb : keysOf b = k)
    (hf : ∀ a, keysOf a = k → f a = b) {items : List α} (h : k ∈ items.map keysOf) :
    (changeFirst keysOf k f items).find? (fun a => keysOf a == k) = some b := by
  induction items with
  | nil => cases h
  | cons a rest ih =>
    rw [changeFirst_cons]
    by_cases hk : keysOf a = k
    · rw [if_pos hk, hf a hk, List.find?_cons_of_pos (by simpa using hb)]
    · have hrest : k ∈ rest.map keysOf := (List.mem_cons.mp h).resolve_left (Ne.symm hk)
      rw [if_neg hk, List.find?_cons_of_neg (by simpa using hk), ih hrest]

end

/-! ## Updates of a store -/

namespace Store

/-- The keys of the records in their order, when there is a list of them. -/
def recordKeys (s : Store) : Option (List Keys) :=
  s.strings.map fun records => records.map Record.keys

def objectKeys (s : Store) : Option (List Keys) :=
  s.objects.map fun objects => objects.map ObjectRecord.keys

/-- A store in which some record has the keys. -/
def Has (s : Store) (k : Keys) : Prop := ∃ row, s.recordKeys = some row ∧ k ∈ row

/-- The second store differs from the first at one place alone, which is the first one of the keys
in both lists. There it has the text and the value under the same keys. -/
def MovesOnly (s after : Store) (k : Keys) (json : String) (value : Json) (i : Nat) : Prop :=
  ∃ strings objects strings' objects', s = ⟨some strings, some objects⟩ ∧
    after = ⟨some strings', some objects'⟩ ∧
    IsFirstPlace (strings.map Record.keys) k i ∧
    IsFirstPlace (objects.map ObjectRecord.keys) k i ∧
    MovedAt i ⟨json, k⟩ strings strings' ∧ MovedAt i ⟨value, k⟩ objects objects'

/-- The second store is the first with the text and the value under the keys, if some record has
these keys, and the first itself if none has them. -/
structure IsUpdate (s after : Store) (k : Keys) (json : String) (value : Json) : Prop where
  held : s.Has k → ∃ i, s.MovesOnly after k json value i
  missing : ¬ s.Has k → after = s
  record_keys : after.recordKeys = s.recordKeys
  object_keys : after.objectKeys = s.objectKeys
  read_back : s.Has k → after.record? k = some ⟨json, k⟩ ∧ after.object? k = some ⟨value, k⟩
  others : ∀ q, q ≠ k → after.record? q = s.record? q ∧ after.object? q = s.object? q

/-- Object records have the keys of the records that they are the forms of. -/
theorem map_keys_of_forms {strings : List Record} {objects : List ObjectRecord}
    (h : List.Forall₂ IsForm strings objects) :
    objects.map ObjectRecord.keys = strings.map Record.keys := by
  induction h with
  | nil => rfl
  | cons hform _ ih => rw [List.map_cons, List.map_cons, hform.keys, ih]

theorem change_of_parsed (s : Store) {r : Record} {value : Json} (h : parse r.json = .ok value) :
    (s.change r).result = .ok () ∧ (s.change r).store = (s.set r.keys r.json value).1 := by
  unfold change Record.toObject
  rw [h]
  dsimp only
  split <;> rename_i heq <;> rw [heq] <;> exact ⟨rfl, rfl⟩

section

variable (s : Store) (k : Keys) (json : String) (value : Json)

theorem strings_set : (s.set k json value).1.strings =
    s.strings.map (changeFirst Record.keys k fun r => { r with json }) :=
  updateIn_fst Record.keys k _ s.strings

theorem objects_set : (s.set k json value).1.objects =
    s.objects.map (changeFirst ObjectRecord.keys k fun o => { o with value }) :=
  updateIn_fst ObjectRecord.keys k _ s.objects

theorem recordKeys_set : (s.set k json value).1.recordKeys = s.recordKeys := by
  unfold recordKeys
  rw [strings_set, Option.map_map]
  exact congrArg (Option.map · s.strings) (funext fun records =>
    map_changeFirst Record.keys k (f := fun r => { r with json }) (fun _ => rfl) records)

theorem objectKeys_set : (s.set k json value).1.objectKeys = s.objectKeys := by
  unfold objectKeys
  rw [objects_set, Option.map_map]
  exact congrArg (Option.map · s.objects) (funext fun objects =>
    map_changeFirst ObjectRecord.keys k (f := fun o => { o with value }) (fun _ => rfl) objects)

/-- A lookup of other keys finds what it found. -/
theorem lookups_set_of_ne {q : Keys} (hne : q ≠ k) :
    (s.set k json value).1.record? q = s.record? q ∧
      (s.set k json value).1.object? q = s.object? q := by
  unfold record? object?
  rw [strings_set, objects_set]
  constructor
  · cases s.strings with
    | none => rfl
    | some records =>
      exact find?_changeFirst_of_ne Record.keys k (f := fun r => { r with json })
        (fun _ => rfl) hne records
  · cases s.objects with
    | none => rfl
    | some objects =>
      exact find?_changeFirst_of_ne ObjectRecord.keys k (f := fun o => { o with value })
        (fun _ => rfl) hne objects

end

/-- What the keys of a paired store are under which a text and a value are set. -/
theorem Paired.has_cases {s : Store} (h : s.Paired) (k : Keys) :
    (¬ s.Has k ∧ ∀ json value, (s.set k json value).1 = s) ∨
    ∃ strings objects, s = ⟨some strings, some objects⟩ ∧ k ∈ strings.map Record.keys ∧
      objects.map ObjectRecord.keys = strings.map Record.keys := by
  obtain ⟨strings?, objects?⟩ := s
  rcases h with ⟨rfl, rfl⟩ | ⟨strings, objects, rfl, rfl, hforms⟩
  · refine .inl ⟨?_, fun _ _ => rfl⟩
    rintro ⟨row, ⟨⟩, _⟩
  · have hkeys := map_keys_of_forms hforms
    by_cases hk : k ∈ strings.map Record.keys
    · exact .inr ⟨strings, objects, rfl, hk, hkeys⟩
    · refine .inl ⟨?_, fun json value => ?_⟩
      · rintro ⟨row, ⟨⟩, hmem⟩
        exact hk hmem
      · have hs := strings_set ⟨some strings, some objects⟩ k json value
        have ho := objects_set ⟨some strings, some objects⟩ k json value
        rw [Option.map_some, changeFirst_of_absent _ _ hk] at hs
        rw [Option.map_some, changeFirst_of_absent _ _ (hkeys ▸ hk)] at ho
        exact congrArg₂ Store.mk hs ho

/-- A text and a value that are set move the first place of their keys, and nothing else. -/
theorem Paired.isUpdate {s : Store} (h : s.Paired) (k : Keys) (json : String) (value : Json) :
    s.IsUpdate (s.set k json value).1 k json value := by
  have hrecords := recordKeys_set s k json value
  have hobjects := objectKeys_set s k json value
  have hothers := fun q (hne : q ≠ k) => lookups_set_of_ne s k json value hne
  rcases h.has_cases k with ⟨hmissing, hsame⟩ | ⟨strings, objects, rfl, hk, hkeys⟩
  · exact ⟨fun hk => absurd hk hmissing, fun _ => hsame json value, hrecords, hobjects,
      fun hk => absurd hk hmissing, hothers⟩
  · have hrecord : ∀ r : Record, r.keys = k → { r with json } = (⟨json, k⟩ : Record) := by
      rintro r rfl
      rfl
    have hobject : ∀ o : ObjectRecord, o.keys = k →
        { o with value } = (⟨value, k⟩ : ObjectRecord) := by
      rintro o rfl
      rfl
    obtain ⟨i, hi⟩ := exists_isFirstPlace hk
    have hi' : IsFirstPlace (objects.map ObjectRecord.keys) k i := hkeys ▸ hi
    have hs := strings_set ⟨some strings, some objects⟩ k json value
    have ho := objects_set ⟨some strings, some objects⟩ k json value
    have hmoves : MovesOnly ⟨some strings, some objects⟩
        (Store.set ⟨some strings, some objects⟩ k json value).1 k json value i :=
      ⟨strings, objects, _, _, rfl, congrArg₂ Store.mk hs ho, hi, hi',
        movedAt_changeFirst Record.keys hrecord hi,
        movedAt_changeFirst ObjectRecord.keys hobject hi'⟩
    refine ⟨fun _ => ⟨i, hmoves⟩, fun hmissing => (hmissing ⟨_, rfl, hk⟩).elim, hrecords, hobjects,
      fun _ => ⟨?_, ?_⟩, hothers⟩
    · unfold record?
      rw [hs]
      exact find?_changeFirst Record.keys (b := ⟨json, k⟩) rfl hrecord hk
    · unfold object?
      rw [ho]
      exact find?_changeFirst ObjectRecord.keys (b := ⟨value, k⟩) rfl hobject (hkeys ▸ hk)

end Store

/-! ## The law of one update -/

/-- In every state a change of a record that can be parsed, and a clear, succeed. They move the
first place of the keys alone, the same one in both lists, and nothing when no record has the
keys. -/
theorem an_update_moves_one_place (ids : FreshIds) (ops : List Operation) :
    (∀ r value, parse r.json = .ok value →
      (((State.new ids).run ops).store.change r).result = .ok () ∧
      ((State.new ids).run ops).store.IsUpdate (((State.new ids).run ops).store.change r).store
        r.keys r.json value) ∧
    ∀ k, (((State.new ids).run ops).store.clear k).result = .ok () ∧
      ((State.new ids).run ops).store.IsUpdate (((State.new ids).run ops).store.clear k).store
        k "[]" (.arr []) := by
  have hpaired := run_paired ids ops
  refine ⟨?_, fun k => ⟨rfl, hpaired.isUpdate k emptyText emptyValue⟩⟩
  intro r value hvalue
  obtain ⟨hresult, hstore⟩ := Store.change_of_parsed ((State.new ids).run ops).store hvalue
  rw [hstore]
  exact ⟨hresult, hpaired.isUpdate r.keys r.json value⟩

/-- Two records under one pair of ids, and a third under another. -/
def twins : List Record := [⟨"[1]", ⟨"g", "c"⟩⟩, ⟨"[2]", ⟨"g", "c"⟩⟩, ⟨"[3]", ⟨"g", "d"⟩⟩]

def twinState : State := (State.new (.countingFrom 0)).run [.load twins]

theorem the_first_of_two_twins_is_changed :
    parse "[7]" = .ok (.arr [.num (.integer 7)]) ∧
    twinState.store.IsUpdate (twinState.store.change ⟨"[7]", ⟨"g", "c"⟩⟩).store
      ⟨"g", "c"⟩ "[7]" (.arr [.num (.integer 7)]) := by
  have hparse : parse "[7]" = .ok (.arr [.num (.integer 7)]) := rfl
  exact ⟨hparse,
    ((an_update_moves_one_place (.countingFrom 0) [.load twins]).1 ⟨"[7]", ⟨"g", "c"⟩⟩ _ hparse).2⟩

/-! ## The laws of two updates -/

/-- What sets a text under some keys. -/
inductive Update where
  | change (r : Record)
  | clear (k : Keys)

namespace Update

def operation : Update → Operation
  | change r => .change r
  | clear k => .clear k

/-- The text that is set, under the keys that it is set under. -/
def record : Update → Record
  | change r => r
  | clear k => ⟨"[]", k⟩

def keys (u : Update) : Keys := u.record.keys

/-- An update whose text can be parsed, as that of a clear can. -/
def IsReadable (u : Update) : Prop := IsResultText u.record.json

end Update

namespace Store

variable (s : Store)

theorem set_fst (k : Keys) (json : String) (value : Json) : (s.set k json value).1 =
    ⟨s.strings.map (changeFirst Record.keys k fun r => { r with json }),
      s.objects.map (changeFirst ObjectRecord.keys k fun o => { o with value })⟩ :=
  congrArg₂ Store.mk (strings_set s k json value) (objects_set s k json value)

theorem set_comm {k q : Keys} (hne : k ≠ q) (json text : String) (value other : Json) :
    ((s.set k json value).1.set q text other).1 = ((s.set q text other).1.set k json value).1 := by
  simp only [set_fst, Option.map_map]
  congr 2
  · exact funext (changeFirst_comm Record.keys hne (fun _ => rfl) fun _ => rfl)
  · exact funext (changeFirst_comm ObjectRecord.keys hne (fun _ => rfl) fun _ => rfl)

/-- Of two texts under the same keys the later one is there. -/
theorem set_set (k : Keys) (json text : String) (value other : Json) :
    ((s.set k json value).1.set k text other).1 = (s.set k text other).1 := by
  simp only [set_fst, Option.map_map]
  congr 2
  · exact funext (changeFirst_changeFirst Record.keys k (f := fun r => { r with json })
      (fun _ => rfl) fun r => { r with json := text })
  · exact funext (changeFirst_changeFirst ObjectRecord.keys k (f := fun o => { o with value })
      (fun _ => rfl) fun o => { o with value := other })

end Store

/-- The state with a text and its value under some keys, if they are there. -/
def State.put (s : State) (k : Keys) (json : String) (value : Json) : State :=
  { s with store := (s.store.set k json value).1 }

/-- An update puts its text and the value of that, or does nothing at all. -/
theorem Update.step_cases (u : Update) :
    (∃ value, parse u.record.json = .ok value ∧
      ∀ s : State, s.step u.operation = s.put u.keys u.record.json value) ∨
    (¬ u.IsReadable ∧ ∀ s : State, s.step u.operation = s) := by
  cases u with
  | clear k => exact .inl ⟨emptyValue, parse_emptyText, fun _ => rfl⟩
  | change r =>
    cases h : parse r.json with
    | ok value =>
      refine .inl ⟨value, h, fun s => ?_⟩
      exact congrArg (State.mk · s.ids) (s.store.change_of_parsed h).2
    | error f =>
      refine .inr ⟨fun ⟨value, hvalue⟩ => ?_, fun s => ?_⟩
      · cases h.symm.trans hvalue
      · rcases s.store.change_cases r with ⟨value, hvalue, -⟩ | ⟨-, -, hstore⟩
        · cases h.symm.trans hvalue
        · exact congrArg (State.mk · s.ids) hstore

/-- Updates under different keys may change places, an update takes the place of those before it
under the same keys, and a clear does what the change to an empty result does. -/
theorem updates_commute_or_absorb (s : State) :
    (∀ u v : Update, u.keys ≠ v.keys →
      s.run [u.operation, v.operation] = s.run [v.operation, u.operation]) ∧
    (∀ u v : Update, u.keys = v.keys → v.IsReadable →
      s.run [u.operation, v.operation] = s.run [v.operation]) ∧
    (∀ u : Update, s.run [u.operation, u.operation] = s.run [u.operation]) ∧
    ∀ k, s.run [.clear k] = s.run [.change ⟨"[]", k⟩] := by
  refine ⟨?_, ?_, ?_, ?_⟩
  · intro u v hne
    show (s.step u.operation).step v.operation = (s.step v.operation).step u.operation
    rcases u.step_cases with ⟨value, -, hu⟩ | ⟨-, hu⟩
    · rcases v.step_cases with ⟨other, -, hv⟩ | ⟨-, hv⟩
      · rw [hu, hu, hv, hv]
        exact congrArg (State.mk · s.ids)
          (s.store.set_comm hne u.record.json v.record.json value other)
      · rw [hv, hv]
    · rw [hu, hu]
  · intro u v hkeys hreadable
    show (s.step u.operation).step v.operation = s.step v.operation
    rcases u.step_cases with ⟨value, -, hu⟩ | ⟨-, hu⟩
    · rcases v.step_cases with ⟨other, -, hv⟩ | ⟨hunread, -⟩
      · rw [hu, hv, hv, ← hkeys]
        exact congrArg (State.mk · s.ids)
          (s.store.set_set u.keys u.record.json v.record.json value other)
      · exact absurd hreadable hunread
    · rw [hu]
  · intro u
    show (s.step u.operation).step u.operation = s.step u.operation
    rcases u.step_cases with ⟨value, -, hu⟩ | ⟨-, hu⟩
    · rw [hu, hu]
      exact congrArg (State.mk · s.ids)
        (s.store.set_set u.keys u.record.json u.record.json value value)
    · rw [hu, hu]
  · intro k
    have hstore := (s.store.change_of_parsed (r := ⟨"[]", k⟩) parse_emptyText).2
    exact congrArg (State.mk · s.ids) hstore.symm

/-- Updates of the twins: their keys and another pair, present and absent. -/
theorem updates_of_twins_commute_or_absorb :
    (twinState.run [.change ⟨"[7]", ⟨"g", "c"⟩⟩, .clear ⟨"g", "d"⟩] =
      twinState.run [.clear ⟨"g", "d"⟩, .change ⟨"[7]", ⟨"g", "c"⟩⟩]) ∧
    IsResultText "[8]" ∧
    twinState.run [.clear ⟨"g", "c"⟩, .change ⟨"[8]", ⟨"g", "c"⟩⟩] =
      twinState.run [.change ⟨"[8]", ⟨"g", "c"⟩⟩] := by
  have hreadable : IsResultText "[8]" := by decide
  obtain ⟨hcommute, habsorb, -, -⟩ := updates_commute_or_absorb twinState
  exact ⟨hcommute (.change ⟨"[7]", ⟨"g", "c"⟩⟩) (.clear ⟨"g", "d"⟩) (by decide), hreadable,
    habsorb (.clear ⟨"g", "c"⟩) (.change ⟨"[8]", ⟨"g", "c"⟩⟩) rfl hreadable⟩

end ResultGateway.Result
