-- Runs of a store. A run is a list of operations with any arguments, one
-- after another; those that fail are part of it. Every law of the store
-- is a law of all runs from an empty store and any supply of ids.
import ResultGateway.Result.Store

namespace ResultGateway.Result

/-! ## Operations -/

/-- What may be done to a store. -/
inductive Operation where
  | loadEntries (entries : List Entry)
  | load (records : List Record)
  | change (r : Record)
  | clear (k : Keys)
  | clearAll

/-- A store, with the supply that ids for incomplete entries come from. -/
structure State where
  store : Store
  ids : FreshIds

namespace State

/-- A new store. -/
def new (ids : FreshIds) : State := ⟨.empty, ids⟩

/-- The state after an operation, whether that succeeds or not. -/
def step (s : State) : Operation → State
  | .loadEntries entries =>
    let (effect, ids) := s.store.loadEntries entries s.ids
    ⟨effect.store, ids⟩
  | .load records => { s with store := (s.store.load records).store }
  | .change r => { s with store := (s.store.change r).store }
  | .clear k => { s with store := (s.store.clear k).store }
  | .clearAll => { s with store := s.store.clearAll.store }

def run (s : State) (ops : List Operation) : State := ops.foldl step s

/-- A law of the new store that each operation keeps holds after every run. -/
theorem run_keeps {P : Store → Prop} (step_keeps : ∀ s op, P s.store → P (step s op).store)
    (s : State) (ops : List Operation) (h : P s.store) : P (s.run ops).store := by
  induction ops generalizing s with
  | nil => exact h
  | cons op rest ih => exact ih (s.step op) (step_keeps s op h)

end State

/-! ## Result texts -/

/-- A text that can be parsed. -/
def IsResultText (json : String) : Prop := ∃ value, parse json = .ok value

instance (json : String) : Decidable (IsResultText json) :=
  match h : parse json with
  | .ok value => isTrue ⟨value, h⟩
  | .error _ => isFalse fun ⟨_, hvalue⟩ => nomatch h.symm.trans hvalue

/-- A record whose text cannot be parsed has no object form, which names its ids. -/
theorem toObject_unparsed {r : Record} (h : ¬ IsResultText r.json) :
    ∃ f, r.toObject = .error f ∧ f.kind = .parse ∧
      f.message = some ("invalid result json for graph " ++ r.keys.graphId ++ " / code "
        ++ r.keys.codeId) := by
  unfold Record.toObject
  cases hparse : parse r.json with
  | ok value => exact absurd ⟨value, hparse⟩ h
  | error f =>
    refine ⟨_, rfl, ?_, rfl⟩
    unfold parse at hparse
    split at hparse
    · cases hparse
    · split at hparse <;> cases hparse
      rfl

/-! ## What the operations do to the lists -/

/-- The text that a clear writes is one of the value that it writes. -/
theorem parse_emptyText : parse emptyText = .ok emptyValue := rfl

theorem toObject_eq_ok {r : Record} {o : ObjectRecord} :
    r.toObject = .ok o ↔ o.keys = r.keys ∧ parse r.json = .ok o.value := by
  unfold Record.toObject
  obtain ⟨value, keys⟩ := o
  cases h : parse r.json with
  | error f => simp
  | ok v =>
    simp only [Except.ok.injEq, ObjectRecord.mk.injEq]
    constructor
    · rintro ⟨rfl, rfl⟩
      exact ⟨rfl, rfl⟩
    · rintro ⟨rfl, rfl⟩
      exact ⟨rfl, rfl⟩

namespace Store

/-- Records have object forms as long as all their texts can be parsed. -/
theorem objectsOf_isOk {records : List Record} :
    (∃ objects, objectsOf records = .ok objects) ↔ ∀ r ∈ records, IsResultText r.json := by
  induction records with
  | nil => exact ⟨fun _ _ h => (nomatch h), fun _ => ⟨[], rfl⟩⟩
  | cons r rest ih =>
    rw [List.forall_mem_cons, ← ih]
    simp only [objectsOf, Record.toObject, IsResultText]
    cases parse r.json with
    | error f => simp
    | ok value => cases objectsOf rest <;> simp

/-- A load gives both lists of the records, or leaves the store. -/
theorem load_cases (s : Store) (records : List Record) :
    (∃ objects, objectsOf records = .ok objects ∧
      (s.load records).store = ⟨some records, some objects⟩) ∨
    (∃ f, objectsOf records = .error f ∧ (s.load records).store = s) := by
  unfold load
  cases h : objectsOf records with
  | error f => exact .inr ⟨f, rfl, rfl⟩
  | ok objects => exact .inl ⟨objects, rfl, rfl⟩

/-- A change sets a text and its value under the keys of a record, or leaves the store. -/
theorem change_cases (s : Store) (r : Record) :
    (∃ value, parse r.json = .ok value ∧ (s.change r).store = (s.set r.keys r.json value).1) ∨
    (∃ f, parse r.json = .error f ∧ (s.change r).store = s) := by
  unfold change Record.toObject
  cases h : parse r.json with
  | error f => exact .inr ⟨f, rfl, rfl⟩
  | ok value =>
    refine .inl ⟨value, rfl, ?_⟩
    dsimp only
    split <;> rename_i heq <;> rw [heq]

end Store

end ResultGateway.Result
