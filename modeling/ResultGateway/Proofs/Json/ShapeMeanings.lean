-- What readers of structures make of values, and of whole texts. A
-- structure is made of an object member by member, or of a list by the
-- places of its items. So a reader decodes a text exactly when its meaning
-- makes something of the value that the text denotes.
import ResultGateway.Proofs.Json.Documents
import ResultGateway.Proofs.Json.Meanings

namespace ResultGateway.Json

/-! ## Steps along a list -/

section

variable {α β : Type}

theorem mapM_congr {γ : Type} {f : α → Option γ} {g : β → Option γ} {h : α → β}
    {as : List α} (hmade : ∀ a ∈ as, g (h a) = f a) : (as.map h).mapM g = as.mapM f := by
  induction as with
  | nil => rfl
  | cons a as ih =>
    rw [List.forall_mem_cons] at hmade
    rw [List.map_cons, List.mapM_cons, List.mapM_cons, hmade.1, ih hmade.2]

theorem mapM_none {f : α → Option β} {as : List α} {a : α} (ha : a ∈ as)
    (hf : f a = none) : as.mapM f = none := by
  induction as with
  | nil => cases ha
  | cons first as ih =>
    rw [List.mapM_cons]
    rcases List.mem_cons.mp ha with rfl | ha
    · rw [hf]
      rfl
    · rw [ih ha]
      cases f first <;> rfl

theorem foldlM_congr {f g : β → α → Option β} {as : List α}
    (h : ∀ a ∈ as, ∀ b, f b a = g b a) (b : β) : as.foldlM f b = as.foldlM g b := by
  induction as generalizing b with
  | nil => rfl
  | cons a as ih =>
    rw [List.forall_mem_cons] at h
    rw [List.foldlM_cons, List.foldlM_cons, h.1]
    exact congrArg _ (funext fun b => ih h.2 b)

theorem foldlM_none {f : β → α → Option β} {as : List α} {a : α} (ha : a ∈ as)
    (h : ∀ b, f b a = none) (b : β) : as.foldlM f b = none := by
  induction as generalizing b with
  | nil => cases ha
  | cons first as ih =>
    rw [List.foldlM_cons]
    rcases List.mem_cons.mp ha with rfl | ha
    · rw [h]
      rfl
    · cases f b first with
      | none => rfl
      | some c => exact ih ha c

/-- A step that may be made before or after each step of a list may be made before or after all of
them. -/
theorem bind_foldlM_comm {f : β → α → Option β} {g : β → Option β} {as : List α}
    (h : ∀ a ∈ as, ∀ b, ((g b).bind fun c => f c a) = (f b a).bind g) (b : β) :
    ((g b).bind fun c => as.foldlM f c) = (as.foldlM f b).bind g := by
  induction as generalizing b with
  | nil => simp
  | cons a as ih =>
    rw [List.forall_mem_cons] at h
    calc ((g b).bind fun c => (a :: as).foldlM f c)
        = ((g b).bind fun c => f c a).bind fun c => as.foldlM f c := by
          simp only [List.foldlM_cons, Option.bind_assoc, Option.bind_eq_bind]
      _ = (f b a).bind fun c => (g c).bind fun d => as.foldlM f d := by
          rw [h.1, Option.bind_assoc]
      _ = (f b a).bind fun c => (as.foldlM f c).bind g :=
          congrArg _ (funext fun c => ih h.2 c)
      _ = ((a :: as).foldlM f b).bind g := by
          rw [List.foldlM_cons, Option.bind_eq_bind, Option.bind_assoc]

/-- A step that is part of one of the steps of a list, and may be made before or after those in
front of it, may be made first. -/
theorem foldlM_move {old new : β → α → Option β} {g : β → Option β}
    {before after : List α} {a : α} (hbefore : ∀ x ∈ before, ∀ b, old b x = new b x)
    (hafter : ∀ x ∈ after, ∀ b, old b x = new b x)
    (hown : ∀ b, old b a = (g b).bind fun c => new c a)
    (hcomm : ∀ x ∈ before, ∀ b, ((g b).bind fun c => new c x) = (new b x).bind g) (b : β) :
    (before ++ a :: after).foldlM old b =
      (g b).bind fun c => (before ++ a :: after).foldlM new c := by
  have hold : ∀ c, (a :: after).foldlM old c = (g c).bind fun d => (a :: after).foldlM new d := by
    intro c
    rw [List.foldlM_cons, hown, Option.bind_eq_bind, Option.bind_assoc]
    exact congrArg _ (funext fun d => by
      rw [List.foldlM_cons, Option.bind_eq_bind]
      exact congrArg _ (funext fun e => foldlM_congr hafter e))
  calc (before ++ a :: after).foldlM old b
      = (before.foldlM new b).bind fun c => (a :: after).foldlM old c := by
        rw [List.foldlM_append, Option.bind_eq_bind, foldlM_congr hbefore]
    _ = ((before.foldlM new b).bind g).bind fun d => (a :: after).foldlM new d := by
        rw [Option.bind_assoc]
        exact congrArg _ (funext hold)
    _ = (g b).bind fun c => (before ++ a :: after).foldlM new c := by
        rw [← bind_foldlM_comm hcomm, Option.bind_assoc]
        exact congrArg _ (funext fun c => by rw [List.foldlM_append, Option.bind_eq_bind])

end

/-! ## Fields -/

/-- A field with what it makes of each value, in a structure that is read so far. -/
structure FieldMeaning (σ : Type) where
  field : Field σ
  made : σ → Nat → Json → Option σ
  makes : ∀ s depth j, Makes (field.read s depth) j (made s depth j)

section

variable {σ : Type}

def FieldMeaning.name (f : FieldMeaning σ) : String := f.field.name

/-- Fields that make the same of their values in either order. -/
def FieldMeaning.Independent (f g : FieldMeaning σ) : Prop :=
  ∀ depth s i j, ((f.made s depth i).bind fun t => g.made t depth j) =
    (g.made s depth j).bind fun t => f.made t depth i

/-- What a field makes of an object: of the only member of its name, or of none if it may be left
out. -/
def FieldMeaning.ofMembers (f : FieldMeaning σ) (depth : Nat) (members : List (String × Json))
    (s : σ) : Option σ :=
  match members.filter fun member => member.1 == f.name with
  | [] => if f.field.required then none else some s
  | [member] => f.made s depth member.2
  | _ => none

theorem FieldMeaning.ofMembers_eq_some {f : FieldMeaning σ} {depth : Nat}
    {members : List (String × Json)} {s t : σ} : f.ofMembers depth members s = some t ↔
      ((members.filter fun member => member.1 == f.name) = [] ∧ f.field.required = false ∧ s = t) ∨
      ∃ j, (members.filter fun member => member.1 == f.name) = [(f.name, j)] ∧
        f.made s depth j = some t := by
  have hnames : ∀ member ∈ members.filter fun member => member.1 == f.name,
      member = (f.name, member.2) := by
    intro member hmember
    obtain ⟨-, hname⟩ := List.mem_filter.mp hmember
    rw [← beq_iff_eq.mp hname]
  unfold FieldMeaning.ofMembers
  generalize (members.filter fun member => member.1 == f.name) = found at hnames
  match found with
  | [] => cases hrequired : f.field.required <;> simp
  | [member] =>
    rw [hnames member List.mem_cons_self]
    simp
  | _ :: _ :: _ => simp

def Meaning.field {α : Type} {read : Reader α} (m : Meaning read) (name : String)
    (required : Bool) (store : α → σ → σ) : FieldMeaning σ where
  field := .of name required read store
  made s depth j := (m.made depth j).map fun a => store a s
  makes s := (m.map fun a => store a s).makes

theorem Meaning.independent_field {α β : Type} {read : Reader α} {other : Reader β}
    (m : Meaning read) (n : Meaning other) {name another : String} {required needed : Bool}
    {store : α → σ → σ} {keep : β → σ → σ} (h : ∀ a b s, keep b (store a s) = store a (keep b s)) :
    (m.field name required store).Independent (n.field another needed keep) := by
  intro depth s i j
  simp only [Meaning.field]
  cases m.made depth i <;> cases n.made depth j <;> simp [h]

end

/-- The fields of a shape, with what they make of values. -/
structure ShapeMeaning {σ : Type} (shape : Shape σ) where
  fields : List (FieldMeaning σ)
  same : shape.fields = fields.map FieldMeaning.field
  distinct : (fields.map FieldMeaning.name).Nodup
  independent : fields.Pairwise FieldMeaning.Independent

namespace ShapeMeaning

variable {σ : Type} {shape : Shape σ} (m : ShapeMeaning shape)

/-! ## Members one after the other -/

/-- What a member makes of the structure that is read so far: each field is read once, and other
members are passed over. -/
def takeMember (depth : Nat) (progress : Shape.Progress σ) (member : String × Json) :
    Option (Shape.Progress σ) :=
  match m.fields.find? fun f => f.name == member.1 with
  | none => some progress
  | some f =>
    if progress.seen.contains member.1 then none
    else (f.made progress.value depth member.2).map fun value => ⟨value, member.1 :: progress.seen⟩

/-- The structure that is read, if no field that is needed is missing. -/
def closed (shape : Shape σ) (progress : Shape.Progress σ) : Option σ :=
  match shape.fields.find? fun f => f.required && !progress.seen.contains f.name with
  | some _ => none
  | none => some progress.value

theorem find?_fields (name : String) : (shape.fields.find? fun f => f.name == name) =
    (m.fields.find? fun f => f.name == name).map FieldMeaning.field := by
  rw [m.same, List.find?_map]
  rfl

theorem makesMember_readField (depth : Nat) (progress : Shape.Progress σ)
    (member : String × Json) : MakesMember (shape.readField depth) progress member
      (m.takeMember depth progress member) := by
  intro before after v rest hbefore hafter hvalue hends
  unfold Shape.readField takeMember
  rw [m.find?_fields]
  cases m.fields.find? fun f => f.name == member.1 with
  | none =>
    have hskip := skipValue_append hvalue after rest hafter hends
    simp only [colon_append hbefore, bind, Except.bind, hskip,
      Option.map_none, Option.map_some, toOption_ok]
  | some f =>
    simp only [Option.map_some]
    by_cases hseen : progress.seen.contains member.1
    · simp only [hseen, if_true, toOption_error, Option.map_none]
    · have hread := f.makes progress.value depth member.2 after v rest hafter hvalue hends
      simp only [hseen, Bool.false_eq_true, if_false, colon_append hbefore, bind, Except.bind]
      rcases refused_or_made hread with ⟨hnone, fault, hfault⟩ | ⟨value, hmade, hok⟩
      · simp only [hnone, hfault, toOption_error, Option.map_none]
      · simp only [hmade, hok, toOption_ok, Option.map_some]

/-! ## Fields one after the other -/

/-- What a field makes of the members that follow those of some names. -/
def pending (f : FieldMeaning σ) (depth : Nat) (seen : List String)
    (members : List (String × Json)) (s : σ) : Option σ :=
  if seen.contains f.name then
    if members.any fun member => member.1 == f.name then none else some s
  else f.ofMembers depth members s

theorem closed_fields (fields : List (FieldMeaning σ)) (depth : Nat) (seen : List String) (s : σ) :
    (match (fields.map FieldMeaning.field).find? fun f => f.required && !seen.contains f.name with
      | some _ => none
      | none => some s) = fields.foldlM (fun s f => pending f depth seen [] s) s := by
  induction fields with
  | nil => rfl
  | cons f fields ih =>
    rw [List.map_cons, List.find?_cons, List.foldlM_cons, pending, FieldMeaning.name]
    cases seen.contains f.field.name with
    | true =>
      simp only [Bool.not_true, Bool.and_false, List.any_nil, Bool.false_eq_true, if_true, if_false,
        Option.bind_eq_bind, Option.bind_some]
      exact ih
    | false =>
      simp only [FieldMeaning.ofMembers, List.filter_nil, Bool.not_false, Bool.and_true,
        Bool.false_eq_true, if_false]
      cases f.field.required with
      | true => rfl
      | false => exact ih

section

variable {f g : FieldMeaning σ} {depth : Nat} {seen : List String} {member : String × Json}
  {members : List (String × Json)} {s : σ}

theorem pending_skip (hname : g.name ≠ member.1) :
    pending g depth seen (member :: members) s = pending g depth seen members s := by
  have hskip : (member.1 == g.name) = false := by simpa using Ne.symm hname
  simp only [pending, FieldMeaning.ofMembers, List.any_cons, List.filter_cons, hskip,
    Bool.false_or, Bool.false_eq_true, if_false]

/-- To another field it is the same whether a member is still to come or was seen. -/
theorem pending_cons_other (hname : g.name ≠ member.1) :
    pending g depth seen (member :: members) s = pending g depth (member.1 :: seen) members s := by
  have hhead : (g.name == member.1) = false := by simpa using hname
  rw [pending_skip hname]
  simp only [pending, List.contains_cons, hhead, Bool.false_or]

theorem pending_twice (hname : f.name = member.1) (hseen : seen.contains member.1 = true) :
    pending f depth seen (member :: members) s = none := by
  simp only [pending, hname, hseen, if_true, List.any_cons, beq_self_eq_true, Bool.true_or]

theorem pending_cons_own (hname : f.name = member.1) (hnew : seen.contains member.1 = false) :
    pending f depth seen (member :: members) s =
      (f.made s depth member.2).bind (pending f depth (member.1 :: seen) members) := by
  have hown : (member.1 == f.name) = true := by simp [hname]
  have hseen : (member.1 :: seen).contains f.name = true := by simp [hname]
  have hpending : pending f depth (member.1 :: seen) members =
      fun t => if members.any fun member => member.1 == f.name then none else some t := by
    funext t
    rw [pending, if_pos hseen]
  rw [hpending, pending, hname, hnew, ← hname, FieldMeaning.ofMembers, List.filter_cons,
    if_pos hown]
  simp only [Bool.false_eq_true, if_false]
  cases hfilter : members.filter fun member => member.1 == f.name with
  | nil =>
    have hany : (members.any fun member => member.1 == f.name) = false := by
      simpa [List.filter_eq_nil_iff] using hfilter
    simp [hany]
  | cons next more =>
    have hany : (members.any fun member => member.1 == f.name) = true := by
      have hmem : next ∈ members.filter fun member => member.1 == f.name := by simp [hfilter]
      rw [List.mem_filter] at hmem
      exact List.any_eq_true.mpr ⟨next, hmem⟩
    simp [hany]

theorem pending_comm (h : g.Independent f) (j : Json) :
    ((f.made s depth j).bind fun t => pending g depth seen members t) =
      (pending g depth seen members s).bind fun t => f.made t depth j := by
  unfold pending FieldMeaning.ofMembers
  split
  · split <;> simp
  · split
    · split <;> simp
    · exact (h depth s _ j).symm
    · simp

end

/-- A member is read into its field, before or after what the other fields make. -/
theorem foldlM_pending_cons {depth : Nat} {seen : List String} {member : String × Json}
    {members : List (String × Json)} {f : FieldMeaning σ} (hf : f ∈ m.fields)
    (hname : f.name = member.1) (hnew : seen.contains member.1 = false) (s : σ) :
    m.fields.foldlM (fun s f => pending f depth seen (member :: members) s) s =
      (f.made s depth member.2).bind fun t =>
        m.fields.foldlM (fun s f => pending f depth (member.1 :: seen) members s) t := by
  obtain ⟨before, after, hfields⟩ := List.append_of_mem hf
  have hdistinct := m.distinct
  have hindependent := m.independent
  rw [hfields, List.map_append, List.map_cons, List.nodup_append] at hdistinct
  rw [hfields, List.pairwise_append] at hindependent
  obtain ⟨-, hafter, hapart⟩ := hdistinct
  rw [List.nodup_cons] at hafter
  have hbefore : ∀ g ∈ before, g.name ≠ member.1 := fun g hg hne =>
    hapart g.name (List.mem_map_of_mem hg) f.name List.mem_cons_self (hne.trans hname.symm)
  have hbehind : ∀ g ∈ after, g.name ≠ member.1 := by
    intro g hg hne
    rw [← hname] at hne
    exact hafter.1 (hne ▸ List.mem_map_of_mem hg)
  rw [hfields]
  exact foldlM_move (fun g hg s => pending_cons_other (hbefore g hg))
    (fun g hg s => pending_cons_other (hbehind g hg))
    (fun s => pending_cons_own hname hnew)
    (fun g hg s => pending_comm (hindependent.2.2 g hg f List.mem_cons_self) member.2) s

/-- An object is read field by field, whatever the order of its members. -/
theorem foldlM_takeMember (depth : Nat) (members : List (String × Json))
    (progress : Shape.Progress σ) :
    (members.foldlM (m.takeMember depth) progress).bind (closed shape) =
      m.fields.foldlM (fun s f => pending f depth progress.seen members s) progress.value := by
  induction members generalizing progress with
  | nil =>
    rw [List.foldlM_nil, Option.pure_def, Option.bind_some, closed, m.same]
    exact closed_fields m.fields depth progress.seen progress.value
  | cons member members ih =>
    rw [List.foldlM_cons, takeMember]
    cases hfield : m.fields.find? fun f => f.name == member.1 with
    | none =>
      have hother : ∀ f ∈ m.fields, f.name ≠ member.1 := by simpa using hfield
      simp only [Option.bind_eq_bind, Option.bind_some, ih]
      refine foldlM_congr (fun f hf s => ?_) progress.value
      exact (pending_skip (hother f hf)).symm
    | some f =>
      have hf := List.mem_of_find?_eq_some hfield
      have hname : f.name = member.1 := by simpa using List.find?_some hfield
      cases hseen : progress.seen.contains member.1 with
      | true =>
        simp only [if_true, Option.bind_eq_bind, Option.bind_none]
        symm
        refine foldlM_none hf (fun s => ?_) progress.value
        exact pending_twice hname hseen
      | false =>
        rw [m.foldlM_pending_cons hf hname hseen]
        simp only [Bool.false_eq_true, if_false, Option.bind_eq_bind, Option.bind_assoc,
          Option.bind_map, Function.comp_def, ih]

/-- What an object makes: each field what it makes of the members, in the order of the fields. -/
def ofMembers (depth : Nat) (members : List (String × Json)) : Option σ :=
  m.fields.foldlM (fun s f => f.ofMembers depth members s) shape.start

theorem foldlM_takeMember_start (depth : Nat) (members : List (String × Json)) :
    (members.foldlM (m.takeMember depth) ⟨shape.start, []⟩).bind (closed shape) =
      m.ofMembers depth members :=
  m.foldlM_takeMember depth members ⟨shape.start, []⟩

/-! ## Closing -/

theorem toOption_finish (close : List Char → Option Fault × List Char)
    (read : Except Shape.Snag (σ × List Char)) :
    (Shape.finish close read).toOption = read.toOption.bind fun part =>
      match close part.2 with
      | (some _, _) => none
      | (none, rest) => some (part.1, rest) := by
  match read with
  | .error (.placed _) => rfl
  | .error (.unplaced _ _) => rfl
  | .ok (value, cs) =>
    simp only [Shape.finish, toOption_ok, Option.bind_some]
    rcases close cs with ⟨_ | fault, rest⟩ <;> rfl

theorem ofObject_makes (depth : Nat) {members : List (String × Json)} {cs : List Char}
    (h : SpellsMembers Literal.Denotes members cs) (rest : List Char) :
    (Shape.finish Shape.closeObject (shape.ofObject depth (cs ++ '\x7d' :: rest))).toOption =
      (m.ofMembers depth members).map (·, rest) := by
  have hclose : isSpace '\x7d' = false := by decide
  have hread := readMembers_makes (m.makesMember_readField depth) Shape.Snag.placed
    (show SpellsNamesFrom Literal.Denotes true members cs from h)
    (show cs.length < (cs ++ '\x7d' :: rest).length by simp) ⟨shape.start, []⟩ rest
  rw [← m.foldlM_takeMember_start, toOption_finish, Shape.ofObject]
  rcases refused_or_made hread with ⟨hnone, snag, hsnag⟩ | ⟨progress, hmade, hok⟩
  · rw [hnone, hsnag]
    rfl
  · rw [hmade, hok]
    simp only [Option.bind_some, closed]
    cases shape.fields.find? fun f => f.required && !progress.seen.contains f.name with
    | some field => rfl
    | none =>
      simp only [toOption_ok, Option.bind_some, Shape.closeObject, skipSpace_cons hclose]
      rfl

/-! ## Lists -/

/-- The structure with the fields that the items of a list are read into, one by one. Fields that
are left over must not be needed, and no item may be left over. -/
def ofItems (depth : Nat) : List (FieldMeaning σ) → σ → List Json → Option σ
  | [], s, [] => some s
  | [], _, _ :: _ => none
  | f :: fields, s, [] => if f.field.required then none else ofItems depth fields s []
  | f :: fields, s, item :: items =>
    (f.made s depth item).bind fun s => ofItems depth fields s items

theorem closeList_refuses {first : Bool} {item : Json} {items : List Json} {cs : List Char}
    (h : SpellsFrom Literal.Denotes first (item :: items) cs) (rest : List Char) :
    ∃ fault more, Shape.closeList (cs ++ rest) = (some fault, more) := by
  cases first with
  | true =>
    have h : SpellsItems Literal.Denotes (item :: items) cs := h
    cases h with
    | cons hblank hvalue _ =>
      obtain ⟨c, v, rfl, hc⟩ := opens_of_spells hvalue
      have hcomma : c ≠ ',' := Kind.ne_of_opens hc (by cases item.kind <;> rfl)
      have hbracket : c ≠ ']' := Kind.ne_of_opens hc (by cases item.kind <;> rfl)
      simp [Shape.closeList, skipSpace_blank hblank, skipSpace_cons (Kind.no_space_of_opens hc),
        hcomma, hbracket]
  | false =>
    have h : SpellsMoreItems Literal.Denotes (item :: items) cs := h
    cases h with
    | cons hblank _ =>
      have hcomma : isSpace ',' = false := by decide
      simp only [Shape.closeList, List.append_assoc, List.cons_append, skipSpace_blank hblank,
        skipSpace_cons hcomma]
      split <;> exact ⟨_, _, rfl⟩

theorem ofItems_makes (depth : Nat) {fields : List (FieldMeaning σ)} {items : List Json}
    {first : Bool} {cs : List Char} (h : SpellsFrom Literal.Denotes first items cs) (index : Nat)
    (s : σ) (rest : List Char) :
    (Shape.finish Shape.closeList (shape.ofItems depth (fields.map FieldMeaning.field) index first s
      (cs ++ ']' :: rest))).toOption = (ofItems depth fields s items).map (·, rest) := by
  have hbracket : isSpace ']' = false := by decide
  induction fields generalizing items first cs index s with
  | nil =>
    rw [List.map_nil, Shape.ofItems, toOption_finish]
    cases items with
    | nil =>
      simp only [toOption_ok, Option.bind_some, Shape.closeList, skipSpace_blank (spellsFrom_nil h),
        skipSpace_cons hbracket]
      rfl
    | cons item items =>
      obtain ⟨fault, more, hclose⟩ := closeList_refuses h (']' :: rest)
      rw [toOption_ok, Option.bind_some, hclose]
      rfl
  | cons f fields ih =>
    rw [List.map_cons, Shape.ofItems]
    cases items with
    | nil =>
      rw [nextItem_end (spellsFrom_nil h), ofItems]
      by_cases hrequired : f.field.required
      · simp only [hrequired, if_true]
        rfl
      · simp only [hrequired, Bool.false_eq_true, if_false]
        have hblank : SpellsFrom Literal.Denotes first [] [] :=
          spellsFrom_blank first isBlank_nil
        exact ih hblank (index + 1) s
    | cons item items =>
      obtain ⟨v, more, hvalue, hmore, hnext, -, -⟩ := spellsFrom_cons h
      have hitem := f.makes s depth item [] v (more ++ ']' :: rest) isBlank_nil hvalue
        (endsNumber_moreItems hmore)
      rw [List.nil_append] at hitem
      rw [hnext, ofItems]
      rcases refused_or_made hitem with ⟨hnone, fault, hfault⟩ | ⟨t, hmade, hok⟩
      · simp only [hfault, hnone, Option.bind_none, Option.map_none]
        rfl
      · simp only [hok, hmade, Option.bind_some]
        exact ih hmore (index + 1) t

/-! ## Structures -/

def made : Nat → Json → Option σ
  | depth + 1, .arr items => ofItems depth m.fields shape.start items
  | depth + 1, .obj members => m.ofMembers depth members
  | _, _ => none

theorem reader_refuses {c : Char} {blank : List Char} (hblank : IsBlank blank)
    (hspace : isSpace c = false) {depth : Nat}
    (h : depth = 0 ∨ c ≠ '[' ∧ c ≠ '\x7b') (cs : List Char) :
    ∃ fault, shape.reader depth (blank ++ c :: cs) = .error fault := by
  unfold Shape.reader
  rw [skipSpace_blank hblank, skipSpace_cons hspace]
  rcases h with rfl | ⟨hlist, hobject⟩
  · split <;> exact ⟨_, rfl⟩
  · simp [hlist, hobject]

def meaning : Meaning shape.reader where
  made := m.made
  makes := by
    intro depth j
    cases depth with
    | zero =>
      exact makes_none fun c blank cs hblank hc =>
        reader_refuses hblank (Kind.no_space_of_opens hc) (.inl rfl) cs
    | succ depth =>
      cases j with
      | arr items =>
        intro blank cs rest hblank hspelled _
        cases hspelled with
        | @arr _ cs hitems =>
          have hbracket : isSpace '[' = false := by decide
          rw [List.cons_append, List.append_assoc, List.cons_append, List.nil_append]
          simp only [Shape.reader, skipSpace_blank hblank, skipSpace_cons hbracket]
          rw [m.same]
          exact ofItems_makes depth (show SpellsFrom Literal.Denotes true items cs from hitems) 0
            shape.start rest
      | obj members =>
        intro blank cs rest hblank hspelled _
        cases hspelled with
        | @obj _ cs hmembers =>
          have hbrace : isSpace '\x7b' = false := by decide
          rw [List.cons_append, List.append_assoc, List.cons_append, List.nil_append]
          simp only [Shape.reader, skipSpace_blank hblank, skipSpace_cons hbrace]
          exact m.ofObject_makes depth hmembers rest
      | _ =>
        exact makes_none fun c blank cs hblank hc => reader_refuses hblank
          (Kind.no_space_of_opens hc)
          (.inr ⟨Kind.ne_of_opens hc rfl, Kind.ne_of_opens hc rfl⟩) cs

/-! ## Lists in place of objects -/

theorem ofMembers_cons_other {f : FieldMeaning σ} {depth : Nat} {member : String × Json}
    {members : List (String × Json)} {s : σ} (hname : f.name ≠ member.1) :
    f.ofMembers depth (member :: members) s = f.ofMembers depth members s := by
  have hskip : (member.1 == f.name) = false := by simpa using Ne.symm hname
  simp only [FieldMeaning.ofMembers, List.filter_cons, hskip, Bool.false_eq_true, if_false]

theorem ofItems_eq_foldlM (depth : Nat) {fields : List (FieldMeaning σ)} {items : List Json}
    (hdistinct : (fields.map FieldMeaning.name).Nodup) (hlength : items.length ≤ fields.length)
    (s : σ) : ofItems depth fields s items = fields.foldlM
      (fun s f => f.ofMembers depth ((fields.map FieldMeaning.name).zip items) s) s := by
  induction fields generalizing items s with
  | nil =>
    obtain rfl := List.eq_nil_of_length_eq_zero (Nat.le_zero.mp hlength)
    rfl
  | cons f fields ih =>
    rw [List.map_cons, List.nodup_cons] at hdistinct
    rw [List.foldlM_cons]
    cases items with
    | nil =>
      have hrest := ih hdistinct.2
        (show ([] : List Json).length ≤ fields.length from Nat.zero_le _) s
      rw [List.zip_nil_right] at hrest
      rw [List.zip_nil_right, ofItems, hrest, FieldMeaning.ofMembers]
      cases f.field.required <;> rfl
    | cons item items =>
      have hother : ∀ g ∈ fields, g.name ≠ f.name := by
        intro g hg hne
        exact hdistinct.1 (hne ▸ List.mem_map_of_mem hg)
      have hown : f.ofMembers depth
          ((f.name, item) :: (fields.map FieldMeaning.name).zip items) s = f.made s depth item := by
        have hrest : ((fields.map FieldMeaning.name).zip items).filter
            (fun member => member.1 == f.name) = [] := by
          rw [List.filter_eq_nil_iff]
          rintro ⟨name, value⟩ hmember
          obtain ⟨g, hg, rfl⟩ := List.mem_map.mp (List.of_mem_zip hmember).1
          simpa using hother g hg
        rw [FieldMeaning.ofMembers, List.filter_cons, if_pos (by simp), hrest]
      rw [ofItems, List.map_cons, List.zip_cons_cons, hown, Option.bind_eq_bind]
      refine congrArg _ (funext fun t => ?_)
      rw [ih hdistinct.2 (Nat.le_of_succ_le_succ hlength)]
      exact foldlM_congr (fun g hg s => (ofMembers_cons_other (hother g hg)).symm) t

theorem ofItems_of_length_lt (depth : Nat) {fields : List (FieldMeaning σ)} {items : List Json}
    (hlength : fields.length < items.length) (s : σ) : ofItems depth fields s items = none := by
  induction fields generalizing items s with
  | nil =>
    obtain ⟨item, items, rfl⟩ := List.exists_cons_of_length_pos hlength
    rfl
  | cons f fields ih =>
    obtain ⟨item, items, rfl⟩ := List.exists_cons_of_length_pos (Nat.zero_lt_of_lt hlength)
    rw [ofItems]
    cases f.made s depth item with
    | none => rfl
    | some t => exact ih (Nat.lt_of_succ_lt_succ hlength) t

/-- A list is read as the object that has its items under the names of the fields, in order. A
list that is longer than the structure is refused. -/
theorem made_list (depth : Nat) (items : List Json) :
    m.made depth (.arr items) = if items.length ≤ m.fields.length
      then m.made depth (.obj ((m.fields.map FieldMeaning.name).zip items)) else none := by
  cases depth with
  | zero => simp [made]
  | succ depth =>
    split
    · rename_i hlength
      exact ofItems_eq_foldlM depth m.distinct hlength shape.start
    · rename_i hlength
      exact ofItems_of_length_lt depth (Nat.lt_of_not_le hlength) shape.start

/-- What is neither a list nor an object is refused. -/
theorem made_scalar {j : Json} (hlist : j.kind ≠ .list) (hobject : j.kind ≠ .object)
    (depth : Nat) : m.made depth j = none := by
  cases depth <;> cases j <;>
    first | rfl | exact absurd rfl hlist | exact absurd rfl hobject

end ShapeMeaning

/-! ## Whole texts -/

/-- A text that denotes a value: it spells the value, at any depth and with numbers of any size,
with blanks around it. -/
def Denotes (text : String) (j : Json) : Prop :=
  ∃ lead inside trail, text.toList = lead ++ (inside ++ trail) ∧ IsBlank lead ∧ IsBlank trail ∧
    Spells Literal.Denotes j inside

/-- The compact text of a value without reals denotes it. -/
theorem denotes_compact {j : Json} (h : j.HasNoReals) : Denotes j.compact j := by
  obtain ⟨depth, h⟩ := h
  have hnumber : ∀ n, Number.IsExact n → ∃ l : Literal, l.IsText n.text ∧ l.Denotes n := by
    intro n hn
    obtain ⟨l, htext, hgives⟩ := hn.exists_literal
    refine ⟨l, htext, ?_⟩
    unfold Literal.Denotes Literal.number
    rw [show l.value = .ok n from hgives]
  refine ⟨[], j.write, [], ?_, isBlank_nil, isBlank_nil, spells_write hnumber h⟩
  rw [compact, String.toList_ofList, List.nil_append, List.append_nil]

/-- A text is decoded as its value says, or refused. -/
theorem Meaning.toOption_decode {α : Type} {read : Reader α} (m : Meaning read) {text : String}
    {j : Json} (h : Denotes text j) :
    (read.decode text).toOption = m.made greatestDepth j := by
  obtain ⟨lead, inside, trail, htext, hlead, htrail, hspelled⟩ := h
  have hread := m.makes greatestDepth j lead inside trail hlead hspelled htrail.endsNumber
  unfold Reader.decode whole
  rw [htext]
  rcases refused_or_made hread with ⟨hnone, fault, hfault⟩ | ⟨a, hmade, hok⟩
  · rw [hnone, hfault]
    rfl
  · simp only [hmade, hok, htrail.skipSpace_eq, toOption_ok]

end ResultGateway.Json
