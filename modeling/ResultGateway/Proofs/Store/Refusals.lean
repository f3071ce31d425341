-- What a store refuses. Only a record whose text has characters and is no
-- JSON document fails an operation. The failure names the ids of the first
-- such record, and the store stays as it was; a load that does not fail
-- replaces both lists.
import ResultGateway.Proofs.Store.Projection

namespace ResultGateway.Result

/-! ## Records that spoil an operation -/

/-- A record whose text has characters, but is no JSON document. -/
def Spoils (r : Record) : Prop := r.json ≠ "" ∧ ∀ value, Json.parse r.json ≠ .ok value

theorem spoils_iff {r : Record} : Spoils r ↔ ¬ IsResultText r.json := by
  unfold Spoils IsResultText parse
  by_cases hempty : r.json = ""
  · simp [hempty]
  · cases hparse : Json.parse r.json <;> simp [hempty]

instance (r : Record) : Decidable (Spoils r) := decidable_of_iff' _ spoils_iff

/-- The first record of a list that spoils it. -/
def firstSpoiler? (records : List Record) : Option Record := records.find? fun r => Spoils r

theorem firstSpoiler?_eq_none {records : List Record} :
    firstSpoiler? records = none ↔ ∀ r ∈ records, ¬ Spoils r := by
  simp [firstSpoiler?]

theorem spoils_of_firstSpoiler? {records : List Record} {r : Record}
    (h : firstSpoiler? records = some r) : r ∈ records ∧ Spoils r := by
  refine ⟨List.mem_of_find?_eq_some h, ?_⟩
  simpa using List.find?_some h

/-- The object forms of records fail as that of the first record does that spoils them. -/
theorem objectsOf_eq_error {records : List Record} {f : Failure} :
    Store.objectsOf records = .error f ↔
      ∃ r, firstSpoiler? records = some r ∧ r.toObject = .error f := by
  unfold firstSpoiler?
  induction records with
  | nil => simp [Store.objectsOf]
  | cons q rest ih =>
    by_cases hq : Spoils q
    · obtain ⟨g, hg, -⟩ := toObject_unparsed (spoils_iff.mp hq)
      simp [Store.objectsOf, hq, hg]
    · obtain ⟨value, hvalue⟩ : IsResultText q.json :=
        Decidable.not_not.mp fun hunparsed => hq (spoils_iff.mpr hunparsed)
      have hobject : q.toObject = .ok ⟨value, q.keys⟩ := toObject_eq_ok.mpr ⟨rfl, hvalue⟩
      have hskip : (q :: rest).find? (fun r => decide (Spoils r)) =
          rest.find? fun r => decide (Spoils r) := List.find?_cons_of_neg (by simpa using hq)
      rw [hskip, ← ih]
      cases hrest : Store.objectsOf rest <;> simp [Store.objectsOf, hobject, hrest]

/-! ## Operations that fail -/

/-- The failure of a record that spoils an operation: it names the ids of the record. -/
def IsRefusal (f : Failure) (r : Record) : Prop :=
  f.kind = .parse ∧
    f.message = some ("invalid result json for graph " ++ r.keys.graphId ++ " / code "
      ++ r.keys.codeId)

/-- An operation on a store that fails if and only if one of some records spoils it: then for the
first of them, and with the store as it was. -/
structure Effect.FailsFor {α : Type} (effect : Effect α) (s : Store) (records : List Record) :
    Prop where
  fails_iff : (∃ f, effect.result = .error f) ↔ ∃ r ∈ records, Spoils r
  names_first : ∀ f, effect.result = .error f →
    ∃ r, firstSpoiler? records = some r ∧ IsRefusal f r
  keeps : ∀ f, effect.result = .error f → effect.store = s

/-- An operation that fails as the object form of the first record does that spoils some. -/
theorem Effect.failsFor_of_eq_error {α : Type} {effect : Effect α} {s : Store}
    {records : List Record} (hresult : ∀ f, effect.result = .error f ↔
      ∃ r, firstSpoiler? records = some r ∧ r.toObject = .error f)
    (hstore : ∀ f, effect.result = .error f → effect.store = s) :
    effect.FailsFor s records := by
  refine ⟨?_, ?_, hstore⟩
  · constructor
    · rintro ⟨f, hf⟩
      obtain ⟨r, hfirst, -⟩ := (hresult f).mp hf
      exact ⟨r, spoils_of_firstSpoiler? hfirst⟩
    · rintro ⟨r, hr, hspoils⟩
      cases hfirst : firstSpoiler? records with
      | none => exact absurd hspoils (firstSpoiler?_eq_none.mp hfirst r hr)
      | some q =>
        have hq := (spoils_of_firstSpoiler? hfirst).2
        obtain ⟨f, hf, -⟩ := toObject_unparsed (spoils_iff.mp hq)
        exact ⟨f, (hresult f).mpr ⟨q, hfirst, hf⟩⟩
  · intro f hf
    obtain ⟨r, hfirst, hobject⟩ := (hresult f).mp hf
    obtain ⟨g, hg, hkind, hmessage⟩ :=
      toObject_unparsed (spoils_iff.mp (spoils_of_firstSpoiler? hfirst).2)
    rw [hobject] at hg
    cases hg
    exact ⟨r, hfirst, hkind, hmessage⟩

/-- A store whose lists are some records and their object forms, with nothing from before. -/
def Store.IsOf (s : Store) (records : List Record) : Prop :=
  ∃ objects, s = ⟨some records, some objects⟩ ∧ List.Forall₂ IsForm records objects

/-! ## Loads -/

variable (s : Store)

theorem load_eq_error {records : List Record} {f : Failure} :
    (s.load records).result = .error f ↔ Store.objectsOf records = .error f := by
  unfold Store.load
  cases Store.objectsOf records <;> simp

theorem load_store_of_error {records : List Record} {f : Failure}
    (h : (s.load records).result = .error f) : (s.load records).store = s := by
  rw [load_eq_error] at h
  unfold Store.load
  rw [h]

theorem load_failsFor (records : List Record) : (s.load records).FailsFor s records :=
  Effect.failsFor_of_eq_error (fun _ => (load_eq_error s).trans objectsOf_eq_error)
    fun _ => load_store_of_error s

theorem load_isOf {records : List Record} (h : (s.load records).result = .ok ()) :
    (s.load records).store.IsOf records := by
  unfold Store.load at h ⊢
  cases hobjects : Store.objectsOf records with
  | error f =>
    rw [hobjects] at h
    cases h
  | ok objects => exact ⟨objects, rfl, forms_of_objectsOf hobjects⟩

/-- The records that entries hold, in order. -/
def heldBy (entries : List Entry) : List Record := entries.filterMap fun e => e.record?.toOption

theorem not_spoils_placeholder (id : String) : ¬ Spoils (.placeholder id) := by
  rw [spoils_iff, Decidable.not_not]
  exact ⟨emptyValue, parse_emptyText⟩

/-- An empty record in the place of an entry spoils nothing. -/
theorem firstSpoiler?_recordsOf (entries : List Entry) (ids : FreshIds) :
    firstSpoiler? (recordsOf entries ids).1 = firstSpoiler? (heldBy entries) := by
  unfold firstSpoiler? heldBy
  induction entries generalizing ids with
  | nil => rfl
  | cons e rest ih =>
    rw [recordsOf, Entry.recordOr, List.filterMap_cons]
    cases e.record? with
    | ok r =>
      dsimp only [Except.toOption]
      rw [List.find?_cons, List.find?_cons, ih ids]
      rfl
    | error lack =>
      dsimp only [Except.toOption]
      rw [List.find?_cons_of_neg (by simpa using not_spoils_placeholder ids.next)]
      exact ih ids.rest

theorem loadEntries_eq_error {entries : List Entry} {ids : FreshIds} {f : Failure} :
    (s.loadEntries entries ids).1.result = .error f ↔
      (s.load (recordsOf entries ids).1).result = .error f := by
  show Except.map _ (s.load (recordsOf entries ids).1).result = _ ↔ _
  cases (s.load (recordsOf entries ids).1).result <;> simp [Except.map]

theorem loadEntries_failsFor (entries : List Entry) (ids : FreshIds) :
    (s.loadEntries entries ids).1.FailsFor s (heldBy entries) := by
  apply Effect.failsFor_of_eq_error
  · intro f
    rw [loadEntries_eq_error, load_eq_error, objectsOf_eq_error, firstSpoiler?_recordsOf]
  · exact fun f hf => load_store_of_error s ((loadEntries_eq_error s).mp hf)

theorem loadEntries_isOf {entries : List Entry} {ids : FreshIds} {summary : Store.Summary}
    (h : (s.loadEntries entries ids).1.result = .ok summary) :
    (s.loadEntries entries ids).1.store.IsOf (recordsOf entries ids).1 := by
  apply load_isOf
  cases hload : (s.load (recordsOf entries ids).1).result with
  | error f =>
    rw [(loadEntries_eq_error s).mpr hload] at h
    cases h
  | ok => rfl

/-! ## Changes -/

theorem change_failsFor (r : Record) : (s.change r).FailsFor s [r] := by
  have hfails : ∀ f, (s.change r).result = .error f ↔ r.toObject = .error f := by
    intro f
    unfold Store.change
    cases r.toObject with
    | error g => simp
    | ok object =>
      dsimp only
      split <;> simp
  apply Effect.failsFor_of_eq_error
  · intro f
    rw [hfails, ← objectsOf_eq_error]
    cases hobject : r.toObject <;> simp [Store.objectsOf, hobject]
  · intro f hf
    rw [hfails] at hf
    unfold Store.change
    rw [hf]

/-! ## The law -/

/-- A load of records, a load of entries and a change fail exactly for the texts among their
records that cannot be parsed, name the first of those records and keep the store. A load that
does not fail leaves nothing of the lists from before. -/
theorem only_what_cannot_be_parsed_is_refused (s : Store) :
    (∀ records, (s.load records).FailsFor s records ∧
      ((s.load records).result = .ok () → (s.load records).store.IsOf records)) ∧
    (∀ entries ids, (s.loadEntries entries ids).1.FailsFor s (heldBy entries) ∧
      ∀ summary, (s.loadEntries entries ids).1.result = .ok summary →
        (s.loadEntries entries ids).1.store.IsOf (recordsOf entries ids).1) ∧
    ∀ r, (s.change r).FailsFor s [r] :=
  ⟨fun records => ⟨load_failsFor s records, load_isOf s⟩,
    fun entries ids => ⟨loadEntries_failsFor s entries ids, fun _ => loadEntries_isOf s⟩,
    change_failsFor s⟩

end ResultGateway.Result
