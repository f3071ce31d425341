-- What is made of the value of a structure with one field, which the
-- structure is: the field of an object that has it once, or of a list of one
-- value.
import ResultGateway.Proofs.Json.ShapeMeanings

namespace ResultGateway.Json

section

variable {α : Type}

/-- A value that holds a thing under a name: an object with one member of that name, or a list of
one value. -/
def HoldsSole (name : String) (holds : Json → α → Prop) (j : Json) (a : α) : Prop :=
  (∃ members i, j = .obj members ∧
    members.filter (fun member => member.1 == name) = [(name, i)] ∧ holds i a) ∨
  ∃ i, j = .arr [i] ∧ holds i a

variable {shape : Shape α} {name : String} {read : Reader α}

/-- The meaning of a structure that is its only field. -/
def Meaning.sole (m : Meaning read)
    (hfields : shape.fields = [.of name true read fun a _ => a]) : ShapeMeaning shape where
  fields := [m.field name true fun a _ => a]
  same := hfields
  distinct := by simp
  independent := List.pairwise_singleton _ _

variable (m : Meaning read) (hfields : shape.fields = [.of name true read fun a _ => a])

theorem Meaning.sole_made_object {depth : Nat} {members : List (String × Json)} {a : α} :
    (m.sole hfields).made (depth + 1) (.obj members) = some a ↔
      ∃ i, members.filter (fun member => member.1 == name) = [(name, i)] ∧
        m.made depth i = some a := by
  show ((m.field name true fun a _ => a).ofMembers depth members shape.start).bind some = some a ↔ _
  have hname : (m.field name true fun a (_ : α) => a).name = name := rfl
  have hrequired : (m.field name true fun a (_ : α) => a).field.required = true := rfl
  have hmade : ∀ s i, (m.field name true fun a (_ : α) => a).made s depth i = m.made depth i := by
    intro s i
    simp [Meaning.field]
  rw [Option.bind_fun_some, FieldMeaning.ofMembers_eq_some]
  simp only [hname, hrequired, hmade, Bool.true_eq_false, false_and, and_false, false_or]

/-- A structure of one field is made of what holds the field, and of nothing else. -/
theorem Meaning.sole_made {depth : Nat} {j : Json} {a : α} :
    (m.sole hfields).made (depth + 1) j = some a ↔
      HoldsSole name (fun i a => m.made depth i = some a) j a := by
  unfold HoldsSole
  cases j with
  | obj members => simp [m.sole_made_object hfields]
  | arr items =>
    have hfieldNames : (m.sole hfields).fields.map FieldMeaning.name = [name] := rfl
    have hlength : (m.sole hfields).fields.length = 1 := rfl
    rw [ShapeMeaning.made_list, hfieldNames, hlength]
    match items with
    | [] => simp [m.sole_made_object hfields]
    | [item] => simp [m.sole_made_object hfields]
    | _ :: _ :: _ => simp
  | _ =>
    rw [ShapeMeaning.made_scalar _ (by simp [Json.kind]) (by simp [Json.kind])]
    simp

end

theorem text?_eq_some {j : Json} {s : String} : j.text? = some s ↔ j = .str s := by
  cases j <;> simp [Json.text?]

theorem Meaning.text_made {depth : Nat} {j : Json} {s : String} :
    Meaning.text.made depth j = some s ↔ j = .str s := by
  rw [← text?_eq_some]
  rfl

theorem mapM_eq_some {α β : Type} {f : α → Option β} {as : List α} {bs : List β} :
    as.mapM f = some bs ↔ List.Forall₂ (fun a b => f a = some b) as bs := by
  induction as generalizing bs with
  | nil => cases bs <;> simp
  | cons a as ih =>
    rw [List.mapM_cons]
    cases bs with
    | nil => cases f a <;> cases as.mapM f <;> simp
    | cons b bs =>
      rw [List.forall₂_cons, ← ih]
      cases f a <;> cases as.mapM f <;> simp

theorem Meaning.list_made {α : Type} {read : Reader α} (m : Meaning read) {depth : Nat} {j : Json}
    {things : List α} : m.list.made (depth + 1) j = some things ↔
      ∃ items, j = .arr items ∧ List.Forall₂ (fun i a => m.made depth i = some a) items things := by
  cases j with
  | arr items =>
    show items.mapM (m.made depth) = some things ↔ _
    simp [mapM_eq_some]
  | _ => simp [Meaning.list, madeItems]

end ResultGateway.Json
