-- Tables as lists of characters. The lines of a table are literals, from
-- which the characters are slow to get one by one. A table is evaluated
-- from the characters that its lines are spelled with instead.
import ResultGateway.Text.Table

namespace ResultGateway.Text

/-! ## Lines and their characters -/

inductive Spelled : List String → List (List Char) → Prop where
  | nil : Spelled [] []
  | cons (cs : List Char) {lines : List String} {css : List (List Char)} (h : Spelled lines css) :
      Spelled (String.ofList cs :: lines) (cs :: css)

variable {lines : List String} {css : List (List Char)}

theorem Spelled.rowsOf_eq (h : Spelled lines css) :
    rowsOf lines = css.flatMap (splitBy (· == ' ')) := by
  unfold rowsOf
  induction h with
  | nil => rfl
  | cons cs _ ih => rw [List.flatMap_cons, List.flatMap_cons, String.toList_ofList, ih]

theorem Spelled.ranges_eq (h : Spelled lines css) :
    Ranges.ofLines lines = (css.flatMap (splitBy (· == ' '))).map Ranges.ofRow := by
  rw [← h.rowsOf_eq]
  rfl

/-- The entries of rows, as `Entries.ofLines` reads them. -/
def Entries.ofRows (rows : List (List Char)) : Entries :=
  let (entries, _) := rows.foldl (fun (entries, next) row =>
    match splitBy (· == '=') row with
    | [values] => ((next, numbers values) :: entries, next + 1)
    | key :: values :: _ => ((ofHex key, numbers values) :: entries, ofHex key + 1)
    | [] => (entries, next)) (([] : Entries), 0)
  entries.reverse

theorem Spelled.entries_eq (h : Spelled lines css) :
    Entries.ofLines lines = Entries.ofRows (css.flatMap (splitBy (· == ' '))) := by
  rw [← h.rowsOf_eq]
  rfl

/-! ## Looking up -/

theorem contains_eq_false {ranges : Ranges} {c : Char} (h : ∀ range ∈ ranges, c.toNat < range.1) :
    ranges.contains c = false := by
  unfold Ranges.contains
  rw [List.any_eq_false]
  intro range hrange
  have hlow := h range hrange
  simp
  omega

theorem targets?_eq_none {entries : Entries} {point : Nat}
    (h : ∀ entry ∈ entries, entry.1 ≠ point) : entries.targets? point = none := by
  unfold Entries.targets?
  rw [Option.map_eq_none_iff, List.find?_eq_none]
  intro entry hentry
  simpa using h entry hentry

end ResultGateway.Text
