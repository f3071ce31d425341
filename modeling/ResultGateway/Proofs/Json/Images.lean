-- What readings give. The value of a document has sorted members and
-- integers that fit, and nests no deeper than its reader goes. A structure
-- holds what its fields give, whether it stands in an object or in a list.
import Mathlib.Data.List.DropRight
import ResultGateway.Json.Shape
import ResultGateway.Proofs.Json.Grammar
import ResultGateway.Proofs.Json.Members

namespace ResultGateway.Json

/-- Whatever a reading gives has the property. -/
def Yields {α : Type} (read : Step α) (P : α → Prop) : Prop :=
  ∀ ⦃cs : List Char⦄ ⦃a : α⦄ ⦃rest : List Char⦄, read cs = .ok (a, rest) → P a

theorem yields_any {α : Type} {read : Step α} : Yields read fun _ => True :=
  fun _ _ _ _ => trivial

/-! ## Numbers -/

theorem gather_le {limit n : Nat} (h : n ≤ limit) (ds : List Nat) :
    (gather limit n ds).1 ≤ limit := by
  induction ds generalizing n with
  | nil => exact h
  | cons d ds ih =>
    rw [gather]
    split
    · exact h
    · rename_i hfits
      exact ih (Nat.le_of_not_lt hfits)

theorem significand_le (l : Literal) : l.significand.1 ≤ greatestWord :=
  gather_le (gather_le (Nat.zero_le _) _) _

theorem realOrFault_ne {x : Option Binary64} {i : Int} : realOrFault x ≠ .ok (.integer i) := by
  cases x <;> simp [realOrFault]

/-- An integer that a literal gives fits. -/
theorem fits_of_gives {l : Literal} {i : Int} (h : l.Gives (.integer i)) : Number.Fits i := by
  have hword := significand_le l
  unfold Literal.Gives Literal.value at h
  generalize l.significand = found at h hword
  obtain ⟨n, k⟩ := found
  dsimp only [greatestWord] at h hword
  cases hexponent : l.exponent with
  | none =>
    simp only [hexponent] at h
    split at h
    · unfold integerValue at h
      split at h
      · cases h
        constructor <;> omega
      · split at h
        · exact absurd h realOrFault_ne
        · rename_i hnegative
          cases h
          simp only [Bool.or_eq_true, decide_eq_true_eq, not_or] at hnegative
          constructor <;> omega
    · exact absurd h realOrFault_ne
  | some exponent =>
    simp only [hexponent] at h
    split at h
    · exact absurd h realOrFault_ne
    · split at h <;> cases h

theorem yields_number : Yields Step.number fun n => ∀ i, n = .integer i → Number.Fits i := by
  rintro cs n rest h i rfl
  unfold Step.number at h
  simp only [bind, Except.bind] at h
  split at h
  · cases h
  · split at h
    · cases h
    · split at h
      · cases h
      · split at h
        · rename_i hvalue
          cases h
          exact fits_of_gives hvalue
        · cases h
        · split at h <;> cases h

/-! ## Values -/

/-- A value that a document can hold where lists and objects may nest so deep. -/
structure IsAdmitted (depth : Nat) (j : Json) : Prop where
  canonical : Canonical j
  within : Within (fun _ => True) depth j

theorem yields_scalar (depth : Nat) : Yields scalar (IsAdmitted depth) := by
  intro cs j rest h
  unfold scalar at h
  simp only [bind, Except.bind, pure, Except.pure] at h
  split at h
  · cases h
  · split at h <;> cases h
    exact ⟨trivial, .null⟩
  · split at h <;> cases h
    exact ⟨trivial, .bool true⟩
  · split at h <;> cases h
    exact ⟨trivial, .bool false⟩
  · split at h <;> cases h
    exact ⟨trivial, .str _⟩
  · split at h
    · split at h <;> cases h
      rename_i part hnumber
      refine ⟨?_, .num trivial⟩
      obtain ⟨n, rest⟩ := part
      cases n with
      | integer i => exact yields_number hnumber i rfl
      | real x => trivial
    · cases h

/-- The items of a list have what their reading yields. -/
theorem all_readItems {α : Type} {read : Step α} {P : α → Prop} (hread : Yields read P)
    {fuel : List Char} {first : Bool} {found : List α} {cs : List Char} {items : List α}
    {rest : List Char} (hfound : ∀ a ∈ found, P a)
    (h : readItems read fuel first found cs = .ok (items, rest)) : ∀ a ∈ items, P a := by
  induction fuel generalizing first found cs with
  | nil => cases h
  | cons c fuel ih =>
    rw [readItems] at h
    split at h
    · cases h
    · cases h
      exact fun a ha => hfound a (List.mem_reverse.mp ha)
    · split at h
      · cases h
      · rename_i hitem
        exact ih (List.forall_mem_cons.mpr ⟨hread hitem, hfound⟩) h

/-- What the reading of each member keeps, the reading of an object keeps. -/
theorem readMembers_keeps {ε σ : Type} {fault : Fault → ε}
    {read : σ → String → List Char → Except ε (σ × List Char)} {P : σ → Prop}
    (hread : ∀ {s name cs t rest}, P s → read s name cs = .ok (t, rest) → P t)
    {fuel : List Char} {first : Bool} {s t : σ} {cs rest : List Char} (hs : P s)
    (h : readMembers fault read fuel first s cs = .ok (t, rest)) : P t := by
  induction fuel generalizing first s cs with
  | nil => cases h
  | cons c fuel ih =>
    rw [readMembers] at h
    split at h
    · cases h
    · cases h
      exact hs
    · split at h
      · cases h
      · split at h
        · cases h
        · rename_i hmember
          exact ih (hread hs hmember) h

/-- Members of an object, as far as they are read. -/
structure AreAdmitted (depth : Nat) (members : List (String × Json)) : Prop where
  ascend : NamesAscend (members.map Prod.fst)
  values : ∀ member ∈ members, IsAdmitted depth member.2

theorem AreAdmitted.nil {depth : Nat} : AreAdmitted depth [] := ⟨trivial, List.forall_mem_nil _⟩

theorem AreAdmitted.insert {depth : Nat} {members : List (String × Json)}
    (h : AreAdmitted depth members) (name : String) {value : Json}
    (hvalue : IsAdmitted depth value) : AreAdmitted depth (insertMember name value members) := by
  refine ⟨namesAscend_insertMember h.ascend, ?_⟩
  intro member hmember
  rcases mem_insertMember hmember with rfl | hmember
  · exact hvalue
  · exact h.values member hmember

theorem IsAdmitted.arr {depth : Nat} {items : List Json}
    (h : ∀ item ∈ items, IsAdmitted depth item) : IsAdmitted (depth + 1) (.arr items) :=
  ⟨canonicalItems_iff.mpr fun item hitem => (h item hitem).canonical,
    .arr fun item hitem => (h item hitem).within⟩

theorem AreAdmitted.obj {depth : Nat} {members : List (String × Json)}
    (h : AreAdmitted depth members) : IsAdmitted (depth + 1) (.obj members) :=
  ⟨⟨h.ascend, canonicalMembers_iff.mpr fun member hmember => (h.values member hmember).canonical⟩,
    .obj fun member hmember => (h.values member hmember).within⟩

theorem readMember_keeps {read : Step Json} {depth : Nat} (hread : Yields read (IsAdmitted depth))
    {found next : List (String × Json)} {name : String} {cs rest : List Char}
    (hfound : AreAdmitted depth found) (h : readMember read found name cs = .ok (next, rest)) :
    AreAdmitted depth next := by
  simp only [readMember, bind, Except.bind, pure, Except.pure] at h
  split at h
  · cases h
  · split at h
    · cases h
    · rename_i hvalue
      cases h
      exact hfound.insert name (hread hvalue)

/-- A value that is read is one that a document can hold where it stands. -/
theorem yields_value (depth : Nat) : Yields (Reader.value depth) (IsAdmitted depth) := by
  unfold Reader.value
  -- The depth counts down as the reader goes in, so parts are read one level lower. The cases
  -- are those of the first character: a list, an object, or neither.
  induction depth with
  | zero =>
    intro cs j rest h
    rw [readValue] at h
    split at h
    · cases h
    · cases h
    · exact yields_scalar 0 h
  | succ depth ih =>
    intro cs j rest h
    rw [readValue] at h
    split at h
    · split at h
      · cases h
      · rename_i hitems
        cases h
        exact .arr (all_readItems ih (List.forall_mem_nil _) hitems)
    · split at h
      · cases h
      · rename_i hmembers
        cases h
        exact (readMembers_keeps (readMember_keeps ih) AreAdmitted.nil hmembers).obj
    · exact yields_scalar (depth + 1) h

/-! ## Values without reals -/

theorem Within.any {allowed : Number → Prop} {depth : Nat} {j : Json}
    (h : Within allowed depth j) : Within (fun _ => True) depth j := by
  induction h with
  | null => exact .null
  | bool b => exact .bool b
  | num => exact .num trivial
  | str s => exact .str s
  | arr _ ih => exact .arr ih
  | obj _ ih => exact .obj ih

/-- All numbers of a value are integers of 64 bits. -/
def HasNoReals (j : Json) : Prop := ∃ depth, Within Number.IsExact depth j

theorem HasNoReals.within {j : Json} (h : j.HasNoReals) {depth : Nat}
    (hdepth : Within (fun _ => True) depth j) : Within Number.IsExact depth j := by
  obtain ⟨deep, h⟩ := h
  induction hdepth generalizing deep with
  | null => exact .null
  | bool b => exact .bool b
  | num _ =>
    cases h with
    | num hn => exact .num hn
  | str s => exact .str s
  | arr _ ih =>
    cases h with
    | arr hitems => exact .arr fun item hitem => ih item hitem _ (hitems item hitem)
  | obj _ ih =>
    cases h with
    | obj hmembers =>
      exact .obj fun member hmember => ih member hmember _ (hmembers member hmember)

/-! ## Parts of a structure -/

theorem yields_word (depth : Nat) : Yields (Reader.word depth) (· ≤ greatestWord) := by
  intro cs n rest h
  unfold Reader.word at h
  split at h
  · cases h
  · split at h
    · split at h
      · cases h
      · rename_i hnumber
        cases h
        have hfits := (yields_number hnumber _ rfl).2
        simp only [greatestWord]
        exact Int.ofNat_le.mp hfits
      · cases h
      · cases h
    · cases h

theorem yields_list {α : Type} {read : Reader α} {depth : Nat} {P : α → Prop}
    (h : Yields (read depth) P) :
    Yields (Reader.list read (depth + 1)) fun items => ∀ a ∈ items, P a := by
  intro cs items rest hread
  unfold Reader.list at hread
  split at hread
  · simp only [bind, Except.bind, pure, Except.pure] at hread
    split at hread
    · cases hread
    · rename_i hitems
      cases hread
      exact all_readItems h (List.forall_mem_nil _) hitems
  · cases hread

theorem yields_optional {α : Type} {read : Reader α} {depth : Nat} {P : α → Prop}
    (h : Yields (read depth) P) :
    Yields (Reader.optional read depth) fun found => ∀ a, found = some a → P a := by
  rintro cs found rest hread a rfl
  unfold Reader.optional at hread
  simp only [bind, Except.bind, pure, Except.pure] at hread
  split at hread
  · split at hread <;> cases hread
  · split at hread
    · cases hread
    · rename_i hvalue
      cases hread
      exact h hvalue

theorem skipSpace_skipSpace (cs : List Char) : skipSpace (skipSpace cs) = skipSpace cs :=
  List.dropWhile_idempotent isSpace cs

theorem scalar_eq_null {cs rest : List Char} (h : scalar cs = .ok (.null, rest)) :
    ∃ more, cs = 'n' :: more := by
  unfold scalar at h
  simp only [bind, Except.bind, pure, Except.pure] at h
  split at h
  · cases h
  · exact ⟨_, rfl⟩
  · split at h <;> cases h
  · split at h <;> cases h
  · split at h <;> cases h
  · split at h
    · split at h <;> cases h
    · cases h

theorem readValue_eq_null {depth : Nat} {cs rest : List Char}
    (h : readValue depth cs = .ok (.null, rest)) : ∃ more, skipSpace cs = 'n' :: more := by
  cases depth with
  | zero =>
    rw [readValue] at h
    split at h
    · cases h
    · cases h
    · exact scalar_eq_null h
  | succ depth =>
    rw [readValue] at h
    split at h
    · split at h <;> cases h
    · split at h <;> cases h
    · exact scalar_eq_null h

/-- A value that is optional is never null: a null is read as nothing. -/
theorem yields_optional_value (depth : Nat) :
    Yields (Reader.optional Reader.value depth) fun found =>
      (∀ j, found = some j → IsAdmitted depth j) ∧ found ≠ some .null := by
  intro cs found rest h
  refine ⟨yields_optional (yields_value depth) h, ?_⟩
  rintro rfl
  unfold Reader.optional at h
  simp only [bind, Except.bind, pure, Except.pure] at h
  split at h
  · split at h <;> cases h
  · rename_i hnot
    split at h
    · cases h
    · rename_i part hvalue
      obtain ⟨value, behind⟩ := part
      cases h
      obtain ⟨more, hmore⟩ := readValue_eq_null hvalue
      rw [skipSpace_skipSpace] at hmore
      exact hnot more hmore

/-! ## Structures -/

section

variable {σ : Type} {P : σ → Prop} {depth : Nat}

theorem yields_field {α : Type} {read : Reader α} {Q : α → Prop} (h : Yields (read depth) Q)
    {store : α → σ → σ} {s : σ} (hstore : ∀ a, Q a → P (store a s)) (name : String)
    (required : Bool) : Yields ((Field.of name required read store).read s depth) P := by
  intro cs t rest hread
  simp only [Field.of, Reader.map, bind, Except.bind, pure, Except.pure] at hread
  split at hread
  · cases hread
  · rename_i hpart
    cases hread
    exact hstore _ (h hpart)

variable {shape : Shape σ}
  (hfields : ∀ field ∈ shape.fields, ∀ s, P s → Yields (field.read s depth) P)

include hfields

theorem readField_keeps {progress next : Shape.Progress σ} {name : String} {cs rest : List Char}
    (hprogress : P progress.value)
    (h : shape.readField depth progress name cs = .ok (next, rest)) : P next.value := by
  unfold Shape.readField at h
  simp only [bind, Except.bind] at h
  split at h
  · split at h <;> cases h
    exact hprogress
  · rename_i field hfield
    split at h
    · cases h
    · split at h
      · cases h
      · rename_i hread
        cases h
        split at hread
        · cases hread
        · exact hfields field (List.mem_of_find?_eq_some hfield) _ hprogress hread

theorem ofItems_keeps {fields : List (Field σ)} (hsub : ∀ field ∈ fields, field ∈ shape.fields)
    {index : Nat} {first : Bool} {s t : σ} {cs rest : List Char} (hs : P s)
    (h : shape.ofItems depth fields index first s cs = .ok (t, rest)) : P t := by
  induction fields generalizing index first s cs with
  | nil =>
    cases h
    exact hs
  | cons field fields ih =>
    rw [List.forall_mem_cons] at hsub
    rw [Shape.ofItems] at h
    split at h
    · cases h
    · split at h
      · cases h
      · exact ih hsub.2 hs h
    · split at h
      · cases h
      · rename_i hread
        exact ih hsub.2 (hfields field hsub.1 s hs hread) h

/-- What a structure has before any field is read, and the reading of each field keeps, is had
by each structure that is read. -/
theorem yields_shape (hstart : P shape.start) : Yields (shape.reader (depth + 1)) P := by
  have hfinish : ∀ {close parsed t rest}, (∀ s more, parsed = .ok (s, more) → P s) →
      Shape.finish close parsed = .ok (t, rest) → P t := by
    intro close parsed t rest hparsed h
    unfold Shape.finish at h
    split at h
    · cases h
    · cases h
    · split at h
      · cases h
      · cases h
        exact hparsed _ _ rfl
  intro cs t rest h
  unfold Shape.reader at h
  split at h
  · refine hfinish (fun s more hread => ?_) h
    exact ofItems_keeps hfields (fun _ hfield => hfield) hstart hread
  · refine hfinish (fun s more hread => ?_) h
    unfold Shape.ofObject at hread
    split at hread
    · cases hread
    · rename_i hmembers
      split at hread
      · cases hread
      · cases hread
        exact readMembers_keeps (P := fun progress => P progress.value)
          (fun hprogress hmember => readField_keeps hfields hprogress hmember) hstart hmembers
  · cases h

end

end ResultGateway.Json
