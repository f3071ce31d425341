-- Reading a list item by item. A text is read as a list of things that are
-- made from values if and only if its value is a list, and then each thing
-- is made from the item at its place.
import ResultGateway.Json.Shape

namespace ResultGateway.Json

/-! ## Items -/

theorem Reader.map_eq {α β : Type} (f : α → β) (read : Reader α) (depth : Nat)
    (cs : List Char) : read.map f depth cs = (read depth cs).map fun part => (f part.1, part.2) := by
  unfold Reader.map
  cases read depth cs <;> rfl

/-- Items that are made into something are those of the values, each made so. -/
theorem readItems_map {α β : Type} (f : α → β) (read : Reader α) (depth : Nat)
    (fuel : List Char) (first : Bool) (found : List α) (cs : List Char) :
    readItems (read.map f depth) fuel first (found.map f) cs =
      (readItems (read depth) fuel first found cs).map fun part => (part.1.map f, part.2) := by
  -- One item uses one character of the fuel, whatever its own length.
  induction fuel generalizing first found cs with
  | nil => rfl
  | cons c fuel ih =>
    simp only [readItems]
    cases nextItem first cs with
    | error fault => rfl
    | ok next =>
      obtain ⟨isItem, cs⟩ := next
      cases isItem with
      | false => simp [Except.map]
      | true =>
        simp only [Reader.map_eq]
        cases read depth cs with
        | error fault => rfl
        | ok part => exact ih false (part.1 :: found) part.2

/-! ## Lists -/

/-- A list is read from behind its bracket, one level down, to its closing bracket. -/
theorem Reader.list_eq_ok {α : Type} {read : Reader α} {depth : Nat} {cs rest : List Char}
    {items : List α} : read.list depth cs = .ok (items, rest) ↔
    ∃ lower inside behind, depth = lower + 1 ∧ skipSpace cs = '[' :: inside ∧
      readItems (read lower) inside true [] inside = .ok (items, behind) ∧
      rest = behind.drop 1 := by
  unfold Reader.list
  split
  · rename_i inside hskip
    cases depth with
    | zero => simp
    | succ depth =>
      dsimp only
      cases hitems : readItems (read depth) inside true [] inside with
      | error fault => simp [bind, Except.bind, hskip, hitems]
      | ok part =>
        obtain ⟨found, behind⟩ := part
        simp only [bind, Except.bind, pure, Except.pure, Except.ok.injEq, Prod.mk.injEq, hskip,
          List.cons.injEq, true_and]
        constructor
        · rintro ⟨rfl, rfl⟩
          exact ⟨depth, inside, behind, rfl, rfl, hitems, rfl⟩
        · rintro ⟨_, _, _, hdepth, rfl, hread, rfl⟩
          cases hdepth
          rw [hitems] at hread
          cases hread
          exact ⟨rfl, rfl⟩
  · rename_i hskip
    refine ⟨fun h => (nomatch h), ?_⟩
    rintro ⟨_, inside, _, _, hopen, _, _⟩
    exact absurd hopen (hskip inside)

theorem scalar_ne_list (cs : List Char) {items : List Json} {rest : List Char} :
    scalar cs ≠ .ok (.arr items, rest) := by
  intro h
  unfold scalar at h
  simp only [bind, Except.bind, pure, Except.pure] at h
  split at h
  · cases h
  · split at h <;> simp at h
  · split at h <;> simp at h
  · split at h <;> simp at h
  · split at h <;> simp at h
  · split at h
    · split at h <;> simp at h
    · cases h

/-- A value is a list where a list is read. -/
theorem readValue_eq_list {depth : Nat} {cs rest : List Char} {items : List Json} :
    readValue depth cs = .ok (.arr items, rest) ↔
      Reader.list Reader.value depth cs = .ok (items, rest) := by
  rw [Reader.list_eq_ok]
  cases depth with
  | zero =>
    simp only [readValue]
    split
    · simp
    · simp
    · rename_i hskip _
      constructor
      · exact fun h => absurd h (scalar_ne_list _)
      · rintro ⟨_, _, _, hdepth, _⟩
        cases hdepth
  | succ depth =>
    simp only [readValue]
    split
    · rename_i inside hskip
      split
      · rename_i fault hitems
        simp [hskip, Reader.value, hitems]
      · rename_i found behind hitems
        simp only [Except.ok.injEq, Prod.mk.injEq, Json.arr.injEq, hskip, List.cons.injEq, true_and,
          Nat.add_right_cancel_iff]
        constructor
        · rintro ⟨rfl, rfl⟩
          exact ⟨depth, inside, behind, rfl, rfl, hitems, rfl⟩
        · rintro ⟨_, _, _, rfl, rfl, hread, rfl⟩
          rw [Reader.value, hitems] at hread
          cases hread
          exact ⟨rfl, rfl⟩
    · rename_i inside hskip
      constructor
      · intro h
        split at h <;> simp at h
      · rintro ⟨_, _, _, _, hopen, _⟩
        rw [hskip] at hopen
        cases hopen
    · rename_i hskip _
      constructor
      · exact fun h => absurd h (scalar_ne_list _)
      · rintro ⟨_, inside, _, _, hopen, _⟩
        exact absurd hopen (hskip inside)

/-! ## Whole texts -/

theorem whole_eq_ok {α : Type} {read : Step α} {text : List Char} {a : α} :
    whole read text = .ok a ↔ ∃ rest, read text = .ok (a, rest) ∧ skipSpace rest = [] := by
  unfold whole
  cases read text with
  | error fault => simp
  | ok part =>
    obtain ⟨found, rest⟩ := part
    dsimp only
    split
    · rename_i hend
      constructor
      · rintro ⟨⟩
        exact ⟨rest, rfl, hend⟩
      · rintro ⟨_, ⟨⟩, _⟩
        rfl
    · rename_i hend
      refine ⟨fun h => (nomatch h), ?_⟩
      rintro ⟨_, ⟨⟩, hrest⟩
      exact absurd hrest hend

/-- A text is read as a list of things made from values if and only if its value is a list. -/
theorem decode_list {α : Type} (f : Json → α) (text : String) (things : List α) :
    (Reader.list (Reader.value.map f)).decode text = .ok things ↔
      ∃ items, parse text = .ok (.arr items) ∧ things = items.map f := by
  unfold Reader.decode parse
  simp only [whole_eq_ok, readValue_eq_list, Reader.list_eq_ok]
  constructor
  · rintro ⟨rest, ⟨lower, inside, behind, hdepth, hskip, hitems, hrest⟩, hend⟩
    have hmap := readItems_map f Reader.value lower inside true [] inside
    rw [List.map_nil, hitems] at hmap
    cases hread : readItems (Reader.value lower) inside true [] inside with
    | error fault =>
      rw [hread] at hmap
      cases hmap
    | ok part =>
      rw [hread] at hmap
      cases hmap
      exact ⟨part.1, ⟨rest, ⟨lower, inside, part.2, hdepth, hskip, hread, hrest⟩, hend⟩, rfl⟩
  · rintro ⟨items, ⟨rest, ⟨lower, inside, behind, hdepth, hskip, hitems, hrest⟩, hend⟩, rfl⟩
    refine ⟨rest, ⟨lower, inside, behind, hdepth, hskip, ?_, hrest⟩, hend⟩
    have hmap := readItems_map f Reader.value lower inside true [] inside
    rw [List.map_nil, hitems] at hmap
    exact hmap

end ResultGateway.Json
