-- Errors and replies on the wire. What is read of an error nests no deeper
-- than the reader goes, and can be written. Such an error is read back from
-- what it is written as, also when its members are sorted there.
import ResultGateway.GraphQl.Reply
import ResultGateway.Proofs.Json.Images
import ResultGateway.Proofs.Json.Shapes

namespace ResultGateway.GraphQl

open Json (Arranged Canonical HasNoReals IsPart Reader ReadsAs Within Yields)

/-! ## Locations -/

/-- A place whose line and column are words of 64 bits. -/
structure Location.Fits (l : Location) : Prop where
  line : l.line ≤ Json.greatestWord
  column : l.column ≤ Json.greatestWord

theorem yields_location (depth : Nat) :
    Yields (Location.shape.reader (depth + 1)) Location.Fits := by
  apply Json.yields_shape
  · intro field hfield l hl
    rcases List.mem_pair.mp hfield with rfl | rfl
    · exact Json.yields_field (Json.yields_word depth) (fun _ hline => ⟨hline, hl.column⟩) _ _
    · exact Json.yields_field (Json.yields_word depth) (fun _ hcolumn => ⟨hl.line, hcolumn⟩) _ _
  · exact ⟨Nat.zero_le _, Nat.zero_le _⟩

/-- The place with its parts of these names alone. -/
def Location.only (l : Location) (names : List String) : Location where
  line := if "line" ∈ names then l.line else 0
  column := if "column" ∈ names then l.column else 0

theorem readsAs_location {l : Location} (h : l.Fits) {j : Json} (hj : Arranged l.toJson j)
    (depth : Nat) : ReadsAs (Location.shape.reader (depth + 1)) j l := by
  apply Json.readsAs_arranged l.only hj
  · show ["line", "column"].Nodup
    decide
  · intro member hmember value hvalue
    rcases List.mem_pair.mp hmember with rfl | rfl
    · refine ⟨_, rfl, fun seen => ?_⟩
      rcases hvalue with rfl | rfl <;>
        exact Json.readsAs_field (Json.readsAs_word h.line depth) (by simp [Location.only]) _ _
    · refine ⟨_, rfl, fun seen => ?_⟩
      rcases hvalue with rfl | rfl <;>
        exact Json.readsAs_field (Json.readsAs_word h.column depth) (by simp [Location.only]) _ _
  · simp [Location.shape, Json.Field.of]
  · rfl
  · intro names hnames
    simp [Location.only, hnames]

/-- Places are read item by item. -/
theorem readsAs_locations {locations : List Location} (h : ∀ l ∈ locations, l.Fits)
    {items : List Json} (hitems : List.Forall₂ (fun l => Arranged l.toJson) locations items)
    (depth : Nat) :
    List.Forall₂ (ReadsAs (Location.shape.reader (depth + 1))) items locations := by
  induction hitems with
  | nil => exact .nil
  | cons hitem _ ih =>
    rw [List.forall_mem_cons] at h
    exact .cons (readsAs_location h.1 hitem depth) (ih h.2)

theorem le_of_within {depth n : Nat} (h : Within Json.Number.IsExact depth (.nat n)) :
    n ≤ Json.greatestWord := by
  cases h with
  | num hn =>
    obtain ⟨i, hi, hfits⟩ := hn
    cases hi
    exact Int.ofNat_le.mp hfits.2

/-! ## Errors -/

/-- An error that can be read, and whose path holds values that nest so deep. -/
structure QueryError.IsAdmitted (depth : Nat) (e : QueryError) : Prop where
  locations : ∀ l ∈ e.locations, l.Fits
  path : ∀ items, e.path = some items → ∀ item ∈ items, item.IsAdmitted depth
  extensions : ∀ details, e.extensions = some details → details.IsAdmitted (depth + 1)
  /-- Details that are null are read as none. -/
  has_no_null : e.extensions ≠ some .null

theorem yields_queryError (depth : Nat) :
    Yields (QueryError.shape.reader (depth + 3)) (QueryError.IsAdmitted (depth + 1)) := by
  apply Json.yields_shape
  · intro field hfield e he
    simp only [QueryError.shape, List.mem_cons, List.not_mem_nil, or_false] at hfield
    rcases hfield with rfl | rfl | rfl | rfl
    · exact Json.yields_field Json.yields_any
        (fun _ _ => ⟨he.locations, he.path, he.extensions, he.has_no_null⟩) _ _
    · exact Json.yields_field (Json.yields_list (yields_location depth))
        (fun _ hlocations => ⟨hlocations, he.path, he.extensions, he.has_no_null⟩) _ _
    · exact Json.yields_field
        (Json.yields_optional (Json.yields_list (Json.yields_value (depth + 1))))
        (fun _ hpath => ⟨he.locations, hpath, he.extensions, he.has_no_null⟩) _ _
    · exact Json.yields_field (Json.yields_optional_value (depth + 2))
        (fun _ h => ⟨he.locations, he.path, h.1, h.2⟩) _ _
  · exact ⟨by simp [QueryError.shape], by simp [QueryError.shape], by simp [QueryError.shape],
      by simp [QueryError.shape]⟩

/-- An error whose values have no reals. -/
structure QueryError.HasNoReals (e : QueryError) : Prop where
  path : ∀ items, e.path = some items → ∀ item ∈ items, item.HasNoReals
  extensions : ∀ details, e.extensions = some details → details.HasNoReals

/-! ## What an error is written as -/

/-- The members that an error is written as, of which the message alone is always there. -/
def QueryError.members (e : QueryError) : List (String × Json) :=
  [("message", .str e.message)]
    ++ (if e.locations.isEmpty then []
      else [("locations", Json.arr (e.locations.map Location.toJson))])
    ++ (match e.path with
      | some path => [("path", Json.arr path)]
      | none => [])
    ++ match e.extensions with
      | some extensions => [("extensions", extensions)]
      | none => []

theorem QueryError.toJson_eq (e : QueryError) : e.toJson = .obj e.members := rfl

/-- What a member of a written error tells. -/
inductive QueryError.Part (e : QueryError) : String × Json → Prop where
  | message : Part e ("message", .str e.message)
  | locations : Part e ("locations", .arr (e.locations.map Location.toJson))
  | path {items : List Json} (h : e.path = some items) : Part e ("path", .arr items)
  | extensions {details : Json} (h : e.extensions = some details) :
      Part e ("extensions", details)

theorem part_of_mem_members {e : QueryError} {member : String × Json} (h : member ∈ e.members) :
    e.Part member := by
  simp only [QueryError.members, List.mem_append, List.mem_singleton] at h
  rcases h with ((rfl | h) | h) | h
  · exact .message
  · split at h
    · cases h
    · rw [List.mem_singleton.mp h]
      exact .locations
  · split at h
    · rename_i hpath
      rw [List.mem_singleton.mp h]
      exact .path hpath
    · cases h
  · split at h
    · rename_i hextensions
      rw [List.mem_singleton.mp h]
      exact .extensions hextensions
    · cases h

theorem names_members (e : QueryError) : e.members.map Prod.fst =
    ["message"] ++ (if e.locations = [] then [] else ["locations"])
      ++ (if e.path = none then [] else ["path"])
      ++ if e.extensions = none then [] else ["extensions"] := by
  unfold QueryError.members
  cases e.locations <;> cases e.path <;> cases e.extensions <;> rfl

/-- An error that a document keeps exactly: its numbers are integers of 64 bits, it nests no deeper
than a document may, its objects are sorted, and its details are not null. -/
structure QueryError.IsWritable (e : QueryError) : Prop where
  within : Within Json.Number.IsExact Json.greatestDepth e.toJson
  path : ∀ items, e.path = some items → ∀ item ∈ items, Canonical item
  extensions : ∀ details, e.extensions = some details → Canonical details
  has_no_null : e.extensions ≠ some .null

section

variable {e : QueryError} (h : e.IsWritable)

include h

theorem QueryError.IsWritable.member {member : String × Json} (hmember : member ∈ e.members) :
    Within Json.Number.IsExact 126 member.2 := by
  have hwithin := h.within
  rw [QueryError.toJson_eq] at hwithin
  cases hwithin with
  | obj hmembers => exact hmembers member hmember

theorem QueryError.IsWritable.path_within {items : List Json} (hpath : e.path = some items)
    {item : Json} (hitem : item ∈ items) : Within Json.Number.IsExact 125 item := by
  have hmember : ("path", Json.arr items) ∈ e.members := by simp [QueryError.members, hpath]
  cases h.member hmember with
  | arr hitems => exact hitems item hitem

theorem QueryError.IsWritable.extensions_within {details : Json}
    (hextensions : e.extensions = some details) : Within Json.Number.IsExact 126 details := by
  have hmember : ("extensions", details) ∈ e.members := by simp [QueryError.members, hextensions]
  exact h.member hmember

theorem QueryError.IsWritable.fits {l : Location} (hl : l ∈ e.locations) : l.Fits := by
  have hmember : ("locations", Json.arr (e.locations.map Location.toJson)) ∈ e.members := by
    simp [QueryError.members, List.ne_nil_of_mem hl]
  cases h.member hmember with
  | arr hitems =>
    cases hitems l.toJson (List.mem_map_of_mem hl) with
    | obj hparts =>
      exact ⟨le_of_within (hparts ("line", .nat l.line) (by simp)),
        le_of_within (hparts ("column", .nat l.column) (by simp))⟩

theorem QueryError.IsWritable.isAdmitted : e.IsAdmitted 125 where
  locations := fun _ hl => h.fits hl
  path := fun items hpath item hitem =>
    ⟨h.path items hpath item hitem, (h.path_within hpath hitem).any⟩
  extensions := fun details hextensions =>
    ⟨h.extensions details hextensions, (h.extensions_within hextensions).any⟩
  has_no_null := h.has_no_null

theorem QueryError.IsWritable.hasNoReals : e.HasNoReals where
  path := fun _ hpath _ hitem => ⟨125, h.path_within hpath hitem⟩
  extensions := fun _ hextensions => ⟨126, h.extensions_within hextensions⟩

end

/-! ## Reading an error back -/

/-- The error with its parts of these names alone. -/
def QueryError.only (e : QueryError) (names : List String) : QueryError where
  message := if "message" ∈ names then e.message else ""
  locations := if "locations" ∈ names then e.locations else []
  path := if "path" ∈ names then e.path else none
  extensions := if "extensions" ∈ names then e.extensions else none

section

variable {depth : Nat} {e : QueryError} (h : e.IsAdmitted (depth + 1)) (hreals : e.HasNoReals)

include h hreals

theorem QueryError.Part.isPart {member : String × Json} (hpart : e.Part member) {value : Json}
    (hvalue : Arranged member.2 value) :
    IsPart QueryError.shape (depth + 2) e.only (member.1, value) := by
  cases hpart with
  | message =>
    cases hvalue.eq_of_canonical trivial
    refine ⟨_, rfl, fun seen => ?_⟩
    exact Json.readsAs_field (Json.readsAs_text e.message _) (by simp [only]) _ _
  | locations =>
    obtain ⟨items, rfl, hitems⟩ := hvalue.items
    rw [List.forall₂_map_left_iff] at hitems
    have hlocations := readsAs_locations h.locations hitems depth
    refine ⟨_, rfl, fun seen => ?_⟩
    exact Json.readsAs_field (Json.readsAs_list hlocations) (by simp [only]) _ _
  | @path items hpath =>
    have hall := h.path items hpath
    cases hvalue.eq_of_canonical (Json.IsAdmitted.arr hall).canonical
    have hitems : List.Forall₂ (ReadsAs (Reader.value (depth + 1))) items items :=
      List.forall₂_same.mpr fun item hitem =>
        Json.readsAs_value (hall item hitem) (hreals.path items hpath item hitem)
    refine ⟨_, rfl, fun seen => ?_⟩
    exact Json.readsAs_field ((Json.readsAs_list hitems).optional (by simp))
      (by simp [only, hpath]) _ _
  | @extensions details hextensions =>
    have hdetails := h.extensions details hextensions
    have hne : details ≠ .null := by
      rintro rfl
      exact h.has_no_null hextensions
    have hread := Json.readsAs_value hdetails (hreals.extensions details hextensions)
    cases hvalue.eq_of_canonical hdetails.canonical
    refine ⟨_, rfl, fun seen => ?_⟩
    exact Json.readsAs_field (hread.optional hne)
      (by simp [only, hextensions]) _ _

/-- An error is read back from what it is written as. -/
theorem readsAs_queryError {j : Json} (hj : Arranged e.toJson j) :
    ReadsAs (QueryError.shape.reader (depth + 3)) j e := by
  rw [QueryError.toJson_eq] at hj
  apply Json.readsAs_arranged e.only hj
  · rw [names_members]
    split <;> split <;> split <;> decide
  · exact fun member hmember value hvalue => (part_of_mem_members hmember).isPart h hreals hvalue
  · simp [QueryError.shape, Json.Field.of, names_members]
  · rfl
  · intro names hnames
    obtain ⟨message, locations, path, extensions⟩ := e
    simp only [QueryError.only, hnames, names_members]
    by_cases hlocations : locations = [] <;> by_cases hpath : path = none <;>
      by_cases hextensions : extensions = none <;> simp [*]

end

/-- So is a list of errors. -/
theorem readsAs_errors {depth : Nat} {errors : List QueryError}
    (h : ∀ e ∈ errors, e.IsAdmitted (depth + 1)) (hreals : ∀ e ∈ errors, e.HasNoReals) {j : Json}
    (hj : Arranged (.arr (errors.map QueryError.toJson)) j) :
    ReadsAs (Reader.list QueryError.shape.reader (depth + 4)) j errors := by
  obtain ⟨items, rfl, hitems⟩ := hj.items
  rw [List.forall₂_map_left_iff] at hitems
  apply Json.readsAs_list
  clear hj
  induction hitems with
  | nil => exact .nil
  | cons hitem _ ih =>
    rw [List.forall_mem_cons] at h hreals
    exact .cons (readsAs_queryError h.1 hreals.1 hitem) (ih h.2 hreals.2)

/-! ## Replies -/

/-- A reply that can be read, in which the values of a path nest so deep. -/
structure Reply.IsAdmitted (depth : Nat) (r : Reply) : Prop where
  data : ∀ data, r.data = some data → data.IsAdmitted (depth + 3)
  /-- Data that are null are read as none. -/
  has_no_null : r.data ≠ some .null
  errors : ∀ errors, r.errors = some errors → ∀ e ∈ errors, e.IsAdmitted depth

theorem yields_reply (depth : Nat) :
    Yields (Reply.shape.reader (depth + 5)) (Reply.IsAdmitted (depth + 1)) := by
  apply Json.yields_shape
  · intro field hfield r hr
    rcases List.mem_pair.mp hfield with rfl | rfl
    · exact Json.yields_field (Json.yields_optional_value (depth + 4))
        (fun _ h => ⟨h.1, h.2, hr.errors⟩) _ _
    · exact Json.yields_field
        (Json.yields_optional (Json.yields_list (yields_queryError depth)))
        (fun _ herrors => ⟨hr.data, hr.has_no_null, herrors⟩) _ _
  · exact ⟨by simp [Reply.shape], by simp [Reply.shape], by simp [Reply.shape]⟩

/-- A reply whose values have no reals. -/
structure Reply.HasNoReals (r : Reply) : Prop where
  data : ∀ data, r.data = some data → data.HasNoReals
  errors : ∀ errors, r.errors = some errors → ∀ e ∈ errors, e.HasNoReals

end ResultGateway.GraphQl
