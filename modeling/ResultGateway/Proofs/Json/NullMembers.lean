-- Null members of an object. A field that makes of a null what it makes of
-- no member at all does not tell an object from the same object without its
-- null, as long as no other member has the name of the null.
import ResultGateway.Proofs.Json.ShapeMeanings

namespace ResultGateway.Json

/-- The members without the null ones of some names. -/
def withoutNulls (names : List String) (members : List (String × Json)) : List (String × Json) :=
  members.filter fun member => !(member.2.isNull && names.contains member.1)

/-- A null member of a name is the only member of that name. -/
def NullStandsAlone (members : List (String × Json)) (name : String) : Prop :=
  (name, Json.null) ∈ members →
    members.filter (fun member => member.1 == name) = [(name, Json.null)]

/-! ## Fields -/

namespace FieldMeaning

variable {σ : Type} {f : FieldMeaning σ} {depth : Nat} {members : List (String × Json)} {s : σ}

/-- A null leaves the structure as it is, and so does a field that is left out. -/
structure TakesNull (f : FieldMeaning σ) (depth : Nat) (s : σ) : Prop where
  optional : f.field.required = false
  null : f.made s depth .null = some s

theorem ofMembers_withoutNulls {names : List String}
    (h : f.name ∈ names → f.TakesNull depth s ∧ NullStandsAlone members f.name) :
    f.ofMembers depth (withoutNulls names members) s = f.ofMembers depth members s := by
  have hfilter : (withoutNulls names members).filter (fun member => member.1 == f.name) =
      (members.filter fun member => member.1 == f.name).filter
        fun member => !(member.2.isNull && names.contains member.1) := by
    rw [withoutNulls, List.filter_filter, List.filter_filter]
    simp only [Bool.and_comm]
  by_cases hnull : f.name ∈ names ∧ (f.name, Json.null) ∈ members
  · obtain ⟨hname, hmember⟩ := hnull
    obtain ⟨htakes, halone⟩ := h hname
    unfold FieldMeaning.ofMembers
    rw [hfilter, halone hmember]
    simp [isNull, hname, htakes.optional, htakes.null]
  · have hkept : ((members.filter fun member => member.1 == f.name).filter
        fun member => !(member.2.isNull && names.contains member.1)) =
        members.filter fun member => member.1 == f.name := by
      rw [List.filter_eq_self]
      rintro ⟨name, value⟩ hmember
      obtain ⟨hmember, hname⟩ := List.mem_filter.mp hmember
      obtain rfl : name = f.name := by simpa using hname
      cases value with
      | null => simpa [isNull] using fun hname => hnull ⟨hname, hmember⟩
      | _ => rfl
    unfold FieldMeaning.ofMembers
    rw [hfilter, hkept]

/-- A field makes nothing of an object in which its name stands twice, or of whose only member of
its name it makes nothing. -/
theorem ofMembers_eq_none {member : String × Json} (hmember : member ∈ members)
    (hname : member.1 = f.name)
    (h : members.filter (fun member => member.1 == f.name) = [member] →
      f.made s depth member.2 = none) : f.ofMembers depth members s = none := by
  have hfound : member ∈ members.filter fun member => member.1 == f.name := by
    simp [hmember, hname]
  unfold FieldMeaning.ofMembers
  split
  · rename_i hnil
    rw [hnil] at hfound
    cases hfound
  · rename_i only hone
    rw [hone] at hfound
    obtain rfl := List.mem_singleton.mp hfound
    exact h hone
  · rfl

theorem ofMembers_of_not_alone (h : ¬ NullStandsAlone members f.name) :
    f.ofMembers depth members s = none := by
  unfold NullStandsAlone at h
  push Not at h
  exact ofMembers_eq_none h.1 rfl fun hone => absurd hone h.2

/-- A field makes the same of members of the same names of whose values it makes the same. -/
theorem ofMembers_map {g : String × Json → String × Json}
    (hname : ∀ member, (g member).1 = member.1)
    (hmade : ∀ member ∈ members, member.1 = f.name →
      f.made s depth (g member).2 = f.made s depth member.2) :
    f.ofMembers depth (members.map g) s = f.ofMembers depth members s := by
  have hfilter : (members.map g).filter (fun member => member.1 == f.name) =
      (members.filter fun member => member.1 == f.name).map g := by
    rw [List.filter_map]
    simp only [Function.comp_def, hname]
  unfold FieldMeaning.ofMembers
  rw [hfilter]
  cases hfound : members.filter fun member => member.1 == f.name with
  | nil => rfl
  | cons member more =>
    cases more with
    | nil =>
      have hmem : member ∈ members.filter fun member => member.1 == f.name := by simp [hfound]
      obtain ⟨hmember, heq⟩ := List.mem_filter.mp hmem
      exact hmade member hmember (by simpa using heq)
    | cons next more => rfl

/-- What takes a null goes on to take it behind a field that is independent. -/
theorem TakesNull.step {g : FieldMeaning σ} {t : σ} (h : g.TakesNull depth s)
    (hindependent : f.Independent g) (ht : f.ofMembers depth members s = some t) :
    g.TakesNull depth t := by
  refine ⟨h.optional, ?_⟩
  rcases FieldMeaning.ofMembers_eq_some.mp ht with ⟨-, -, rfl⟩ | ⟨j, -, hj⟩
  · exact h.null
  · have hcomm := hindependent depth s j .null
    rw [hj, h.null] at hcomm
    exact hcomm.trans hj

end FieldMeaning

/-! ## Structures -/

namespace ShapeMeaning

variable {σ : Type} {shape : Shape σ} (m : ShapeMeaning shape) {depth : Nat}
  {members : List (String × Json)}

theorem foldlM_withoutNulls {names : List String} {fields : List (FieldMeaning σ)}
    (hindependent : fields.Pairwise FieldMeaning.Independent)
    (halone : ∀ f ∈ fields, f.name ∈ names → NullStandsAlone members f.name) {s : σ}
    (hnull : ∀ f ∈ fields, f.name ∈ names → f.TakesNull depth s) :
    fields.foldlM (fun s f => f.ofMembers depth (withoutNulls names members) s) s =
      fields.foldlM (fun s f => f.ofMembers depth members s) s := by
  induction fields generalizing s with
  | nil => rfl
  | cons f fields ih =>
    rw [List.pairwise_cons] at hindependent
    rw [List.forall_mem_cons] at halone hnull
    rw [List.foldlM_cons, List.foldlM_cons, FieldMeaning.ofMembers_withoutNulls
      fun hname => ⟨hnull.1 hname, halone.1 hname⟩]
    cases hread : f.ofMembers depth members s with
    | none => rfl
    | some t =>
      exact ih hindependent.2 halone.2 fun g hg hname =>
        (hnull.2 g hg hname).step (hindependent.1 g hg) hread

/-- A structure is made of an object as of the object without nulls that stand for nothing. -/
theorem ofMembers_withoutNulls {names : List String}
    (h : ∀ f ∈ m.fields, f.name ∈ names →
      f.TakesNull depth shape.start ∧ NullStandsAlone members f.name) :
    m.ofMembers depth (withoutNulls names members) = m.ofMembers depth members :=
  foldlM_withoutNulls m.independent (fun f hf hname => (h f hf hname).2)
    fun f hf hname => (h f hf hname).1

/-- Nothing is made of an object of which one of the fields makes nothing. -/
theorem ofMembers_none {f : FieldMeaning σ} (hf : f ∈ m.fields)
    (h : ∀ s, f.ofMembers depth members s = none) : m.ofMembers depth members = none :=
  foldlM_none hf h shape.start

end ShapeMeaning

end ResultGateway.Json
