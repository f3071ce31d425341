-- What is made of the replies of the API. A token is made of an object with
-- one token, or of a list of one text. A reply is made of an object, in
-- which a null may stand for a missing member, though not for the places of
-- an error.
import ResultGateway.GraphQl.Reply
import ResultGateway.Proofs.Json.NullMembers
import ResultGateway.Proofs.Json.SoleMeanings

namespace ResultGateway.GraphQl

open Json (FieldMeaning HoldsSole Meaning NullStandsAlone ShapeMeaning withoutNulls)

/-! ## Meanings -/

def tokenField : FieldMeaning String :=
  Meaning.text.field "csrfToken" true fun token _ => token

def tokenMeaning : ShapeMeaning tokenShape where
  fields := [tokenField]
  same := rfl
  distinct := by simp
  independent := List.pairwise_singleton _ _

def Location.meaning : ShapeMeaning Location.shape where
  fields := [
    Meaning.word.field "line" true fun line l => { l with line },
    Meaning.word.field "column" true fun column l => { l with column }]
  same := rfl
  distinct := by simp [FieldMeaning.name, Meaning.field, Json.Field.of]
  independent := by
    rw [List.pairwise_pair]
    exact Meaning.independent_field _ _ fun _ _ _ => rfl

def QueryError.meaning : ShapeMeaning QueryError.shape where
  fields := [
    Meaning.text.field "message" true fun message e => { e with message },
    Location.meaning.meaning.list.field "locations" false fun locations e => { e with locations },
    Meaning.value.list.optional.field "path" false fun path e => { e with path },
    Meaning.value.optional.field "extensions" false fun extensions e => { e with extensions }]
  same := rfl
  distinct := by simp [FieldMeaning.name, Meaning.field, Json.Field.of]
  independent := by
    simp only [List.pairwise_cons, List.mem_cons, List.not_mem_nil, or_false, forall_eq_or_imp,
      forall_eq, false_imp_iff, implies_true, List.Pairwise.nil, and_true]
    refine ⟨⟨?_, ?_, ?_⟩, ⟨?_, ?_⟩, ?_⟩ <;> exact Meaning.independent_field _ _ fun _ _ _ => rfl

def Reply.meaning : ShapeMeaning Reply.shape where
  fields := [
    Meaning.value.optional.field "data" false fun data r => { r with data },
    QueryError.meaning.meaning.list.optional.field "errors" false fun errors r =>
      { r with errors }]
  same := rfl
  distinct := by simp [FieldMeaning.name, Meaning.field, Json.Field.of]
  independent := by
    rw [List.pairwise_pair]
    exact Meaning.independent_field _ _ fun _ _ _ => rfl

/-! ## Tokens -/

/-- A value that holds a token: an object with one member of its name, or a list of one text. -/
def HoldsToken (j : Json) (token : String) : Prop :=
  (∃ members, j = .obj members ∧
    members.filter (fun member => member.1 == "csrfToken") = [("csrfToken", .str token)]) ∨
  j = .arr [.str token]

theorem tokenShape_fields :
    tokenShape.fields = [.of "csrfToken" true Json.Reader.text fun token _ => token] := rfl

/-- A token is made of what holds it, and of nothing else. -/
theorem tokenMeaning_made {depth : Nat} {j : Json} {token : String} :
    tokenMeaning.made (depth + 1) j = some token ↔ HoldsToken j token := by
  refine (Meaning.text.sole_made tokenShape_fields).trans ?_
  simp [HoldsSole, HoldsToken, Meaning.text_made]

/-! ## Errors of failed replies -/

/-- A value that holds the message of an error: an object with one message, or a list of one
text. -/
def HoldsComplaint : Json → String → Prop := HoldsSole "message" fun i message => i = .str message

/-- A value that holds errors: an object with one list of them, or a list of such a list alone. -/
def HoldsComplaints : Json → List String → Prop :=
  HoldsSole "errors" fun i messages =>
    ∃ entries, i = .arr entries ∧ List.Forall₂ HoldsComplaint entries messages

theorem complaintShape_fields :
    complaintShape.fields = [.of "message" true Json.Reader.text fun message _ => message] := rfl

theorem complaintsShape_fields : complaintsShape.fields =
    [.of "errors" true (.list complaintShape.reader) fun messages _ => messages] := rfl

def complaintMeaning : ShapeMeaning complaintShape := Meaning.text.sole complaintShape_fields

def complaintsMeaning : ShapeMeaning complaintsShape :=
  complaintMeaning.meaning.list.sole complaintsShape_fields

theorem complaintMeaning_made {depth : Nat} {j : Json} {message : String} :
    complaintMeaning.made (depth + 1) j = some message ↔ HoldsComplaint j message := by
  refine (Meaning.text.sole_made complaintShape_fields).trans ?_
  simp only [HoldsComplaint, Meaning.text_made]

/-- Errors are made of what holds them, and of nothing else. -/
theorem complaintsMeaning_made {depth : Nat} {j : Json} {messages : List String} :
    complaintsMeaning.made (depth + 3) j = some messages ↔ HoldsComplaints j messages := by
  have hentry : (fun i message => complaintMeaning.meaning.made (depth + 1) i = some message) =
      HoldsComplaint := by
    funext i message
    exact propext complaintMeaning_made
  refine (complaintMeaning.meaning.list.sole_made complaintsShape_fields).trans ?_
  simp only [HoldsComplaints, Meaning.list_made, hentry]

/-! ## Replies in lists -/

/-- A list is taken for a reply with its values as data and as errors. -/
theorem Reply.made_list (depth : Nat) (items : List Json) :
    Reply.meaning.made depth (.arr items) = if items.length ≤ 2
      then Reply.meaning.made depth (.obj (["data", "errors"].zip items)) else none :=
  Reply.meaning.made_list depth items

/-! ## Nulls in an error -/

def entryWithoutNulls : Json → Json
  | .obj members => .obj (withoutNulls ["locations", "path", "extensions"] members)
  | j => j

/-- The nulls of an error stand for members that are missing. -/
structure QueryError.TakesNulls (members : List (String × Json)) : Prop where
  locations : ("locations", Json.null) ∉ members
  path : NullStandsAlone members "path"
  extensions : NullStandsAlone members "extensions"

theorem QueryError.made_withoutNulls {members : List (String × Json)}
    (h : QueryError.TakesNulls members) (depth : Nat) :
    QueryError.meaning.made depth (entryWithoutNulls (.obj members)) =
      QueryError.meaning.made depth (.obj members) := by
  have hplaces : withoutNulls ["locations", "path", "extensions"] members =
      withoutNulls ["path", "extensions"] members := by
    refine List.filter_congr ?_
    rintro ⟨name, value⟩ hmember
    cases value with
    | null =>
      have hname : name ≠ "locations" := fun hname => h.locations (hname ▸ hmember)
      simp [Json.isNull, hname]
    | _ => rfl
  rw [entryWithoutNulls, hplaces]
  cases depth with
  | zero => rfl
  | succ depth =>
    refine QueryError.meaning.ofMembers_withoutNulls fun f hf hname => ?_
    simp only [QueryError.meaning, List.mem_cons, List.not_mem_nil, or_false] at hf
    rcases hf with rfl | rfl | rfl | rfl
    · exact absurd hname (by decide)
    · exact absurd hname (by decide)
    · exact ⟨⟨rfl, rfl⟩, h.path⟩
    · exact ⟨⟨rfl, rfl⟩, h.extensions⟩

/-- No error is made where a null stands for something, or where its name stands twice. -/
theorem QueryError.made_none {members : List (String × Json)}
    (h : ¬ QueryError.TakesNulls members) (depth : Nat) :
    QueryError.meaning.made depth (.obj members) = none := by
  cases depth with
  | zero => rfl
  | succ depth =>
    by_cases hlocations : ("locations", Json.null) ∈ members
    · refine QueryError.meaning.ofMembers_none
        (List.mem_cons_of_mem _ List.mem_cons_self) fun s => ?_
      refine FieldMeaning.ofMembers_eq_none hlocations rfl fun _ => ?_
      cases depth <;> rfl
    · by_cases hpath : NullStandsAlone members "path"
      · have hextensions : ¬ NullStandsAlone members "extensions" :=
          fun hextensions => h ⟨hlocations, hpath, hextensions⟩
        exact QueryError.meaning.ofMembers_none
          (List.mem_cons_of_mem _ (List.mem_cons_of_mem _ (List.mem_cons_of_mem _
            List.mem_cons_self)))
          fun s => FieldMeaning.ofMembers_of_not_alone hextensions
      · exact QueryError.meaning.ofMembers_none
          (List.mem_cons_of_mem _ (List.mem_cons_of_mem _ List.mem_cons_self))
          fun s => FieldMeaning.ofMembers_of_not_alone hpath

/-! ## Nulls in a reply -/

def errorsWithoutNulls : Json → Json
  | .arr items => .arr (items.map entryWithoutNulls)
  | j => j

/-- A reply without its null members, and its errors without theirs. -/
def replyWithoutNulls (members : List (String × Json)) : List (String × Json) :=
  (withoutNulls ["data", "errors"] members).map fun member =>
    (member.1, if member.1 = "errors" then errorsWithoutNulls member.2 else member.2)

/-- The nulls of a reply stand for members that are missing. -/
structure Reply.TakesNulls (members : List (String × Json)) : Prop where
  data : NullStandsAlone members "data"
  errors : NullStandsAlone members "errors"
  entries : ∀ items, ("errors", Json.arr items) ∈ members →
    ∀ inside, Json.obj inside ∈ items → QueryError.TakesNulls inside

def errorsMeaning : Meaning QueryError.shape.reader.list.optional :=
  QueryError.meaning.meaning.list.optional

theorem errorsMeaning_list (depth : Nat) (items : List Json) :
    errorsMeaning.made (depth + 1) (.arr items) =
      (items.mapM (QueryError.meaning.made depth)).map some := rfl

theorem QueryError.made_entryWithoutNulls {entry : Json}
    (h : ∀ inside, entry = .obj inside → QueryError.TakesNulls inside) (depth : Nat) :
    QueryError.meaning.made depth (entryWithoutNulls entry) =
      QueryError.meaning.made depth entry := by
  cases entry with
  | obj inside => exact QueryError.made_withoutNulls (h inside rfl) depth
  | _ => rfl

theorem errorsMeaning_withoutNulls {j : Json}
    (h : ∀ items, j = .arr items → ∀ inside, Json.obj inside ∈ items → QueryError.TakesNulls inside)
    (depth : Nat) :
    errorsMeaning.made depth (errorsWithoutNulls j) = errorsMeaning.made depth j := by
  cases j with
  | arr items =>
    cases depth with
    | zero => rfl
    | succ depth =>
      rw [errorsWithoutNulls, errorsMeaning_list, errorsMeaning_list]
      refine congrArg _ (Json.mapM_congr fun entry hentry => ?_)
      refine QueryError.made_entryWithoutNulls (fun inside hinside => ?_) depth
      exact h items rfl inside (hinside ▸ hentry)
  | _ => rfl

/-- A reply is made as it is without its nulls, where these stand for missing members. -/
theorem Reply.made_withoutNulls {members : List (String × Json)} (h : Reply.TakesNulls members)
    (depth : Nat) : Reply.meaning.made depth (.obj (replyWithoutNulls members)) =
      Reply.meaning.made depth (.obj members) := by
  cases depth with
  | zero => rfl
  | succ depth =>
    have hnulls : Reply.meaning.ofMembers depth (withoutNulls ["data", "errors"] members) =
        Reply.meaning.ofMembers depth members := by
      refine Reply.meaning.ofMembers_withoutNulls fun f hf _ => ?_
      rcases List.mem_pair.mp hf with rfl | rfl
      · exact ⟨⟨rfl, rfl⟩, h.data⟩
      · exact ⟨⟨rfl, rfl⟩, h.errors⟩
    refine Eq.trans ?_ hnulls
    refine Json.foldlM_congr (fun f hf s => ?_) Reply.shape.start
    refine FieldMeaning.ofMembers_map (fun _ => rfl) fun member hmember hname => ?_
    rcases List.mem_pair.mp hf with rfl | rfl
    · have hother : member.1 ≠ "errors" := by
        rw [hname]
        decide
      rw [if_neg hother]
    · have hentries : ∀ items, member.2 = .arr items → ∀ inside, Json.obj inside ∈ items →
          QueryError.TakesNulls inside := by
        intro items hitems
        refine h.entries items ?_
        rw [← hitems, show "errors" = member.1 from hname.symm]
        exact (List.mem_filter.mp hmember).1
      rw [if_pos (show member.1 = "errors" from hname)]
      exact congrArg (Option.map fun errors => { s with errors })
        (errorsMeaning_withoutNulls hentries depth)

/-- No reply is made where a null stands for something, or where its name stands twice. -/
theorem Reply.made_none {members : List (String × Json)} (h : ¬ Reply.TakesNulls members)
    (depth : Nat) : Reply.meaning.made depth (.obj members) = none := by
  cases depth with
  | zero => rfl
  | succ depth =>
    by_cases hdata : NullStandsAlone members "data"
    · by_cases herrors : NullStandsAlone members "errors"
      · have hentries : ¬ ∀ items, ("errors", Json.arr items) ∈ members →
            ∀ inside, Json.obj inside ∈ items → QueryError.TakesNulls inside :=
          fun hentries => h ⟨hdata, herrors, hentries⟩
        push Not at hentries
        obtain ⟨items, hitems, inside, hinside, hrefused⟩ := hentries
        refine Reply.meaning.ofMembers_none (List.mem_cons_of_mem _ List.mem_cons_self) fun s => ?_
        refine FieldMeaning.ofMembers_eq_none hitems rfl fun _ => ?_
        show (errorsMeaning.made depth (.arr items)).map _ = none
        cases depth with
        | zero => rfl
        | succ depth =>
          rw [errorsMeaning_list, Json.mapM_none hinside (QueryError.made_none hrefused depth)]
          rfl
      · exact Reply.meaning.ofMembers_none (List.mem_cons_of_mem _ List.mem_cons_self)
          fun s => FieldMeaning.ofMembers_of_not_alone herrors
    · exact Reply.meaning.ofMembers_none List.mem_cons_self
        fun s => FieldMeaning.ofMembers_of_not_alone hdata

end ResultGateway.GraphQl
