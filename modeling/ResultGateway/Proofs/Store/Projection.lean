-- The two lists of a store are one list in two forms. Each object record
-- is made from the record at its place, so a lookup finds the same place
-- in both lists.
import Mathlib.Data.List.Forall2
import ResultGateway.Proofs.Store.Run

namespace ResultGateway.Result

/-! ## The invariant -/

/-- The object record is the object form of the record. -/
def IsForm (r : Record) (o : ObjectRecord) : Prop := r.toObject = .ok o

/-- The second list holds the object forms of the first, or there is neither list. -/
def Store.Paired (s : Store) : Prop :=
  (s.strings = none ∧ s.objects = none) ∨
  ∃ strings objects, s.strings = some strings ∧ s.objects = some objects ∧
    List.Forall₂ IsForm strings objects

theorem IsForm.keys {r : Record} {o : ObjectRecord} (h : IsForm r o) : o.keys = r.keys :=
  (toObject_eq_ok.1 h).1

theorem IsForm.parse {r : Record} {o : ObjectRecord} (h : IsForm r o) :
    parse r.json = .ok o.value := (toObject_eq_ok.1 h).2

/-- A text and its value, put into a record and its form, give a record and its form. -/
theorem IsForm.put {r : Record} {o : ObjectRecord} (h : IsForm r o) {json : String} {value : Json}
    (hv : Result.parse json = .ok value) : IsForm { r with json } { o with value } :=
  toObject_eq_ok.2 ⟨h.keys, hv⟩

/-! ## Loads -/

theorem forms_of_objectsOf {records : List Record} {objects : List ObjectRecord}
    (h : Store.objectsOf records = .ok objects) : List.Forall₂ IsForm records objects := by
  induction records generalizing objects with
  | nil =>
    cases h
    exact .nil
  | cons r rest ih =>
    unfold Store.objectsOf at h
    cases hr : r.toObject with
    | error f => simp [hr] at h
    | ok o =>
      cases hrest : Store.objectsOf rest with
      | error f => simp [hr, hrest] at h
      | ok os =>
        simp only [hr, hrest, Except.ok.injEq] at h
        subst h
        exact .cons hr (ih hrest)

theorem Store.Paired.load {s : Store} (h : s.Paired) (records : List Record) :
    (s.load records).store.Paired := by
  rcases s.load_cases records with ⟨objects, ho, he⟩ | ⟨_, _, he⟩
  · rw [he]
    exact .inr ⟨records, objects, rfl, rfl, forms_of_objectsOf ho⟩
  · rw [he]
    exact h

/-! ## Updates -/

/-- An update finds the keys at the same place of both lists, or in neither. -/
theorem updateFirst_forms {strings : List Record} {objects : List ObjectRecord}
    (h : List.Forall₂ IsForm strings objects) (k : Keys) {json : String} {value : Json}
    (hv : parse json = .ok value) :
    (Store.updateFirst (fun r => r.keys == k) (fun r => { r with json }) strings = none ∧
      Store.updateFirst (fun o => o.keys == k) (fun o => { o with value }) objects = none) ∨
    ∃ strings' objects',
      Store.updateFirst (fun r => r.keys == k) (fun r => { r with json }) strings = some strings' ∧
      Store.updateFirst (fun o => o.keys == k) (fun o => { o with value }) objects
        = some objects' ∧
      List.Forall₂ IsForm strings' objects' := by
  induction h with
  | nil => exact .inl ⟨rfl, rfl⟩
  | @cons r o strings objects hro hrest ih =>
    have hko : (o.keys == k) = (r.keys == k) := by rw [hro.keys]
    unfold Store.updateFirst
    rw [hko]
    by_cases hk : (r.keys == k) = true
    · simp only [hk, if_true]
      exact .inr ⟨_, _, rfl, rfl, .cons (hro.put hv) hrest⟩
    · simp only [hk, Bool.false_eq_true, if_false]
      rcases ih with ⟨hs, ho⟩ | ⟨strings', objects', hs, ho, hf⟩
      · rw [hs, ho]
        exact .inl ⟨rfl, rfl⟩
      · rw [hs, ho]
        exact .inr ⟨_, _, rfl, rfl, .cons hro hf⟩

theorem Store.Paired.set {s : Store} (h : s.Paired) (k : Keys) {json : String} {value : Json}
    (hv : parse json = .ok value) : (s.set k json value).1.Paired := by
  unfold Store.set Store.updateIn
  rcases h with ⟨hs, ho⟩ | ⟨strings, objects, hs, ho, hf⟩
  · simp only [hs, ho]
    exact .inl ⟨rfl, rfl⟩
  · simp only [hs, ho]
    rcases updateFirst_forms hf k hv with ⟨hs', ho'⟩ | ⟨strings', objects', hs', ho', hf'⟩
    · simp only [hs', ho']
      exact .inr ⟨strings, objects, rfl, rfl, hf⟩
    · simp only [hs', ho']
      exact .inr ⟨strings', objects', rfl, rfl, hf'⟩

theorem Store.Paired.change {s : Store} (h : s.Paired) (r : Record) :
    (s.change r).store.Paired := by
  rcases s.change_cases r with ⟨value, hv, he⟩ | ⟨_, _, he⟩
  · rw [he]
    exact h.set r.keys hv
  · rw [he]
    exact h

/-! ## Runs -/

theorem State.step_paired (s : State) (op : Operation) (h : s.store.Paired) :
    (s.step op).store.Paired := by
  cases op with
  | loadEntries entries => exact h.load _
  | load records => exact h.load records
  | change r => exact h.change r
  | clear k => exact h.set k parse_emptyText
  | clearAll => exact .inl ⟨rfl, rfl⟩

theorem run_paired (ids : FreshIds) (ops : List Operation) :
    ((State.new ids).run ops).store.Paired :=
  State.run_keeps State.step_paired _ ops (.inl ⟨rfl, rfl⟩)

/-! ## Lookups -/

/-- A lookup in a list and in the list of its forms finds nothing, or the same place: the first
one with the keys. -/
theorem find_forms {strings : List Record} {objects : List ObjectRecord}
    (h : List.Forall₂ IsForm strings objects) (k : Keys) :
    ((∀ r ∈ strings, r.keys ≠ k) ∧ strings.find? (fun r => r.keys == k) = none ∧
      objects.find? (fun o => o.keys == k) = none) ∨
    ∃ i r o, strings[i]? = some r ∧ objects[i]? = some o ∧
      strings.find? (fun r => r.keys == k) = some r ∧
      objects.find? (fun o => o.keys == k) = some o ∧
      r.keys = k ∧ IsForm r o ∧
      ∀ (j : Nat) (q : Record), j < i → strings[j]? = some q → q.keys ≠ k := by
  induction h with
  | nil => exact .inl ⟨by simp, rfl, rfl⟩
  | @cons r o strings objects hro hrest ih =>
    have hko : (o.keys == k) = (r.keys == k) := by rw [hro.keys]
    simp only [List.find?_cons, hko]
    by_cases hk : r.keys = k
    · have hb : (r.keys == k) = true := by simpa using hk
      simp only [hb]
      exact .inr ⟨0, r, o, rfl, rfl, rfl, rfl, hk, hro, by simp⟩
    · have hb : (r.keys == k) = false := by simpa using hk
      simp only [hb]
      rcases ih with ⟨hne, hs, ho⟩ | ⟨i, r', o', hsi, hoi, hs, ho, hk', hf, hfirst⟩
      · refine .inl ⟨?_, hs, ho⟩
        intro q hq
        rcases List.mem_cons.1 hq with rfl | hq
        · exact hk
        · exact hne q hq
      · refine .inr ⟨i + 1, r', o', by simpa using hsi, by simpa using hoi, hs, ho, hk', hf, ?_⟩
        intro j q hj hq
        cases j with
        | zero =>
          cases hq
          exact hk
        | succ j => exact hfirst j q (by omega) (by simpa using hq)

/-! ## The law -/

/-- There is neither list, or there are both, of one length, with the object form of each record
at the place of the record. -/
def Store.Parallel (s : Store) : Prop :=
  (s.strings = none ∧ s.objects = none) ∨
  ∃ strings objects, s.strings = some strings ∧ s.objects = some objects ∧
    strings.length = objects.length ∧
    ∀ (i : Nat) r o, strings[i]? = some r → objects[i]? = some o →
      r.toObject = .ok o ∧ o.keys.graphId = r.keys.graphId ∧ o.keys.codeId = r.keys.codeId ∧
      parse r.json = .ok o.value

/-- The lookups of some keys find nothing, because no record has them, or the records at one
place: the first one with both ids. -/
def Store.FindsOnePlace (s : Store) (k : Keys) : Prop :=
  (s.record? k = none ∧ s.object? k = none ∧ ∀ strings, s.strings = some strings →
    ∀ r ∈ strings, r.keys ≠ k) ∨
  ∃ strings objects i r o, s.strings = some strings ∧ s.objects = some objects ∧
    strings[i]? = some r ∧ objects[i]? = some o ∧
    s.record? k = some r ∧ s.object? k = some o ∧
    r.keys = k ∧ o.keys = k ∧
    (∀ (j : Nat) (q : Record), j < i → strings[j]? = some q → q.keys ≠ k) ∧
    parse r.json = .ok o.value

theorem Store.Paired.parallel {s : Store} (h : s.Paired) : s.Parallel := by
  rcases h with h | ⟨strings, objects, hs, ho, hf⟩
  · exact .inl h
  · refine .inr ⟨strings, objects, hs, ho, hf.length_eq, ?_⟩
    intro i r o hr hro
    obtain ⟨hi, rfl⟩ := List.getElem?_eq_some_iff.1 hr
    obtain ⟨hi', rfl⟩ := List.getElem?_eq_some_iff.1 hro
    have hform : IsForm strings[i] objects[i] := hf.get hi hi'
    refine ⟨hform, ?_, ?_, hform.parse⟩
    · rw [hform.keys]
    · rw [hform.keys]

theorem Store.Paired.findsOnePlace {s : Store} (h : s.Paired) (k : Keys) : s.FindsOnePlace k := by
  unfold Store.FindsOnePlace Store.record? Store.object?
  rcases h with ⟨hs, ho⟩ | ⟨strings, objects, hs, ho, hf⟩
  · exact .inl (by simp [hs, ho])
  · simp only [hs, ho]
    rcases find_forms hf k with ⟨hne, hs', ho'⟩ | ⟨i, r, o, hsi, hoi, hs', ho', hk, hform, hfirst⟩
    · refine .inl ⟨hs', ho', ?_⟩
      intro _ he
      cases he
      exact hne
    · exact .inr ⟨strings, objects, i, r, o, rfl, rfl, hsi, hoi, hs', ho', hk,
        hform.keys.trans hk, hfirst, hform.parse⟩

/-- After every run the lists are parallel, and the lookups of any keys find the records at one
place of both. -/
theorem the_lists_stay_parallel (ids : FreshIds) (ops : List Operation) :
    ((State.new ids).run ops).store.Parallel ∧
    ∀ k, ((State.new ids).run ops).store.FindsOnePlace k :=
  ⟨(run_paired ids ops).parallel, (run_paired ids ops).findsOnePlace⟩

end ResultGateway.Result
