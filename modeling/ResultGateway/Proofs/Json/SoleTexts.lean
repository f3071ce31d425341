-- The texts of a structure with one field, which the structure is. They are
-- objects with one member of the name of the field, whatever form the values
-- of the others have, and lists of the field alone.
import ResultGateway.Proofs.Json.ExactTexts

namespace ResultGateway.Json

/-! ## Members -/

/-- A member whose name is spelled. -/
structure MemberText.IsNamed (m : MemberText) (name : String) : Prop where
  chars : SpellsChars name.toList m.name
  spaced : m.IsSpaced

/-- A member of another name, with a value of any form. -/
def MemberText.IsOther (m : MemberText) (name : String) : Prop :=
  (∃ other, other ≠ name ∧ m.IsNamed other) ∧ HasForm m.value

theorem MemberText.IsNamed.isFormed {m : MemberText} {name : String} (h : m.IsNamed name)
    (hv : HasForm m.value) : m.IsFormed := ⟨isChars_of_spells h.chars, h.spaced, hv⟩

theorem MemberText.IsOther.isFormed {m : MemberText} {name : String} (h : m.IsOther name) :
    m.IsFormed := by
  obtain ⟨⟨other, -, hnamed⟩, hv⟩ := h
  exact hnamed.isFormed hv

section

variable {ε σ : Type}

/-- From behind the name of a member, a reading goes from one state to another exactly as `leads`
says of the name and the text of the value. -/
structure ReadsOver (read : σ → String → List Char → Except ε (σ × List Char))
    (leads : σ → String → List Char → σ → Prop) : Prop where
  takes : ∀ {s name v t}, leads s name v t → ∀ before after rest, IsBlank before → IsBlank after →
    EndsNumber rest → read s name (before ++ ':' :: (after ++ (v ++ rest))) = .ok (t, rest)
  only : ∀ {s name cs t rest}, read s name cs = .ok (t, rest) →
    ∃ before after v, IsBlank before ∧ IsBlank after ∧ leads s name v t ∧
      cs = before ++ ':' :: (after ++ (v ++ rest))

/-- Members, one after the other, take one state to another. -/
inductive LeadsTo (leads : σ → String → List Char → σ → Prop) : σ → List MemberText → σ → Prop where
  | nil {s : σ} : LeadsTo leads s [] s
  | cons {s t u : σ} {m : MemberText} {name : String} {members : List MemberText}
      (named : m.IsNamed name) (h : leads s name m.value t) (rest : LeadsTo leads t members u) :
      LeadsTo leads s (m :: members) u

theorem nextName_lead {first : Bool} {lead : List Char} (h : IsLead first lead) (m : MemberText)
    (rest : List Char) : nextName first (lead ++ (m.text ++ rest)) =
      .ok (true, m.name ++ '"' :: (m.before ++ ':' :: (m.after ++ (m.value ++ rest)))) := by
  simp only [MemberText.text, List.cons_append, List.append_assoc]
  cases h with
  | first hblank => exact nextName_first hblank _
  | later hbefore hblank =>
    rw [List.append_assoc, List.cons_append]
    exact nextName_comma hbefore hblank _

variable {read : σ → String → List Char → Except ε (σ × List Char)}
  {leads : σ → String → List Char → σ → Prop} (h : ReadsOver read leads)

include h

theorem ReadsOver.readMembers_takes {s t : σ} {members : List MemberText}
    (hmembers : LeadsTo leads s members t) (fault : Fault → ε) {first : Bool} {cs : List Char}
    (hlaid : IsLaid first (members.map MemberText.text) cs) {fuel : List Char}
    (hfuel : cs.length < fuel.length) (rest : List Char) :
    readMembers fault read fuel first s (cs ++ '\x7d' :: rest) = .ok (t, '\x7d' :: rest) := by
  -- On the run: each member takes a character off the text at least, so the fuel lasts.
  induction hmembers generalizing first cs fuel with
  | nil =>
    obtain ⟨f, fuel, rfl⟩ := List.exists_cons_of_length_pos (Nat.zero_lt_of_lt hfuel)
    rw [readMembers, nextName_end (isBlank_of_isLaid hlaid)]
  | @cons s t u m name members hnamed hover _ ih =>
    obtain ⟨f, fuel, rfl⟩ := List.exists_cons_of_length_pos (Nat.zero_lt_of_lt hfuel)
    cases hlaid with
    | cons hlead hmore =>
      have hmember := h.takes hover m.before m.after _ hnamed.spaced.before hnamed.spaced.after
        (hmore.endsNumber (.inr rfl) rest)
      have hlength : 0 < m.text.length := Nat.succ_pos _
      simp only [List.length_append, List.length_cons] at hfuel
      rw [List.append_assoc, List.append_assoc, readMembers, nextName_lead hlead]
      simp only [text_append hnamed.chars, hmember]
      exact ih hmore (by omega)

theorem ReadsOver.readMembers_only {fault : Fault → ε} {fuel : List Char} {first : Bool} {s t : σ}
    {cs rest : List Char} (hread : readMembers fault read fuel first s cs = .ok (t, rest)) :
    ∃ members inside tail, LeadsTo leads s members t ∧
      IsLaid first (members.map MemberText.text) inside ∧ cs = inside ++ rest ∧
      rest = '\x7d' :: tail := by
  -- On the fuel: each round finds what stands before a name, and then the rest of its member.
  induction fuel generalizing first s cs with
  | nil => cases hread
  | cons f fuel ih =>
    rw [readMembers] at hread
    split at hread
    · cases hread
    · rename_i hnext
      cases hread
      obtain ⟨blank, tail, hblank, hcs, hrest⟩ := nextName_end_spelled hnext
      exact ⟨[], blank, tail, .nil, .nil hblank, hcs, hrest⟩
    · rename_i more hnext
      obtain ⟨lead, hlead, hcs⟩ := nextName_spelled hnext
      split at hread
      · cases hread
      · rename_i name behind hname
        obtain ⟨chars, hchars, rfl⟩ := text_spelled hname
        split at hread
        · cases hread
        · rename_i hmember
          obtain ⟨before, after, v, hbefore, hafter, hover, rfl⟩ := h.only hmember
          obtain ⟨members, inside, tail, hmembers, hlaid, rfl, hrest⟩ := ih hread
          refine ⟨⟨chars, before, after, v⟩ :: members, _, tail,
            .cons ⟨hchars, ⟨hbefore, hafter⟩⟩ hover hmembers, .cons hlead hlaid, ?_, hrest⟩
          rw [hcs]
          simp [MemberText.text]

end

/-! ## Structures of one field -/

/-- The texts of a structure that is its only field: an object with one member of the name of the
field, or a list of the field alone. -/
inductive IsSoleText {α : Type} (name : String) (texts : α → List Char → Prop) (a : α) :
    List Char → Prop where
  | item {v cs : List Char} (value : texts a v) (laid : IsLaid true [v] cs) :
      IsSoleText name texts a ('[' :: (cs ++ [']']))
  | member {earlier later : List MemberText} {m : MemberText} {cs : List Char}
      (others : ∀ o ∈ earlier ++ later, o.IsOther name) (named : m.IsNamed name)
      (value : texts a m.value)
      (laid : IsLaid true ((earlier ++ m :: later).map MemberText.text) cs) :
      IsSoleText name texts a ('\x7b' :: (cs ++ ['\x7d']))

/-- What a member does for such a structure: it is the field, unless that is read already, or it
has another name. -/
inductive IsOver {α : Type} (name : String) (texts : α → List Char → Prop) :
    Shape.Progress α → String → List Char → Shape.Progress α → Prop where
  | own {p : Shape.Progress α} {a : α} {v : List Char} (new : name ∉ p.seen) (value : texts a v) :
      IsOver name texts p name v ⟨a, name :: p.seen⟩
  | other {p : Shape.Progress α} {s : String} {v : List Char} (h : s ≠ name) (value : HasForm v) :
      IsOver name texts p s v p

section

variable {α : Type} {name : String} {texts : α → List Char → Prop}

theorem leadsTo_others {p q : Shape.Progress α} {members : List MemberText}
    (h : LeadsTo (IsOver name texts) p members q) (hseen : name ∈ p.seen) :
    (∀ o ∈ members, o.IsOther name) ∧ q = p := by
  induction h with
  | nil => exact ⟨List.forall_mem_nil _, rfl⟩
  | cons hnamed hover _ ih =>
    cases hover with
    | own hnew => exact absurd hseen hnew
    | other hname hvalue =>
      obtain ⟨hothers, rfl⟩ := ih hseen
      exact ⟨List.forall_mem_cons.mpr ⟨⟨⟨_, hname, hnamed⟩, hvalue⟩, hothers⟩, rfl⟩

theorem leadsTo_of_others {members : List MemberText} (h : ∀ o ∈ members, o.IsOther name)
    (p : Shape.Progress α) : LeadsTo (IsOver name texts) p members p := by
  induction members with
  | nil => exact .nil
  | cons m members ih =>
    rw [List.forall_mem_cons] at h
    obtain ⟨⟨⟨other, hname, hnamed⟩, hvalue⟩, hothers⟩ := h
    exact .cons hnamed (.other hname hvalue) (ih hothers)

theorem LeadsTo.append {σ : Type} {leads : σ → String → List Char → σ → Prop} {s t u : σ}
    {members more : List MemberText} (h : LeadsTo leads s members t) (hmore : LeadsTo leads t more u) :
    LeadsTo leads s (members ++ more) u := by
  induction h with
  | nil => exact hmore
  | cons hnamed hover _ ih => exact .cons hnamed hover (ih hmore)

/-- The field is read from one member, and the others have other names. -/
theorem leadsTo_own {p q : Shape.Progress α} {members : List MemberText}
    (h : LeadsTo (IsOver name texts) p members q) (hnew : name ∉ p.seen) (hseen : name ∈ q.seen) :
    ∃ earlier m later, members = earlier ++ m :: later ∧
      (∀ o ∈ earlier ++ later, o.IsOther name) ∧ m.IsNamed name ∧ texts q.value m.value := by
  induction h with
  | nil => exact absurd hseen hnew
  | @cons p r q m s members hnamed hover hrest ih =>
    cases hover with
    | own _ hvalue =>
      obtain ⟨hothers, rfl⟩ := leadsTo_others hrest List.mem_cons_self
      exact ⟨[], m, members, rfl, hothers, hnamed, hvalue⟩
    | other hname hvalue =>
      obtain ⟨earlier, own, later, rfl, hothers, hown⟩ := ih hnew hseen
      exact ⟨m :: earlier, own, later, rfl,
        List.forall_mem_cons.mpr ⟨⟨⟨s, hname, hnamed⟩, hvalue⟩, hothers⟩, hown⟩

end

section

variable {α : Type} {shape : Shape α} {name : String} {read : Reader α} {depth : Nat}
  {texts : α → List Char → Prop}
  (hfields : shape.fields = [.of name true read fun a _ => a])

include hfields

theorem find?_own : (shape.fields.find? fun f => f.name == name) =
    some (.of name true read fun a _ => a) := by
  rw [hfields]
  simp [Field.of]

theorem find?_other {s : String} (h : s ≠ name) :
    (shape.fields.find? fun f => f.name == s) = none := by
  rw [hfields]
  simpa [Field.of] using Ne.symm h

theorem readsOver_readField (h : ReadsTexts (read depth) texts) :
    ReadsOver (shape.readField depth) (IsOver name texts) where
  takes := by
    intro p s v q hover before after rest hbefore hafter hends
    cases hover with
    | own hnew hvalue =>
      have hcontains : p.seen.contains name = false := by simpa using hnew
      simp only [Shape.readField, find?_own hfields, hcontains, Bool.false_eq_true, if_false,
        colon_append hbefore, Field.of, Reader.map, h.takes hvalue after rest hafter, bind,
        Except.bind, pure, Except.pure]
    | other hname hvalue =>
      simp only [Shape.readField, find?_other hfields hname, colon_append hbefore,
        skips_skipValue hvalue after rest hafter hends, bind, Except.bind]
  only := by
    intro p s cs q rest hread
    unfold Shape.readField at hread
    cases hcolon : colon cs with
    | error fault =>
      simp only [hcolon, bind, Except.bind] at hread
      repeat' split at hread
      all_goals cases hread
    | ok behind =>
      obtain ⟨before, hbefore, rfl⟩ := colon_spelled hcolon
      simp only [hcolon, bind, Except.bind] at hread
      by_cases hname : s = name
      · subst hname
        rw [find?_own hfields] at hread
        simp only [Field.of, Reader.map, bind, Except.bind, pure, Except.pure] at hread
        split at hread
        · cases hread
        · rename_i hseen
          cases hvalue : read depth behind with
          | error fault =>
            rw [hvalue] at hread
            cases hread
          | ok part =>
            obtain ⟨a, rest'⟩ := part
            rw [hvalue] at hread
            cases hread
            obtain ⟨after, v, hafter, hv, rfl⟩ := h.only hvalue
            exact ⟨before, after, v, hbefore, hafter, .own (by simpa using hseen) hv, rfl⟩
      · rw [find?_other hfields hname] at hread
        cases hskip : skipValue behind with
        | error fault =>
          simp only [hskip] at hread
          cases hread
        | ok rest' =>
          simp only [hskip] at hread
          cases hread
          obtain ⟨after, v, hafter, hv, rfl⟩ := passesForms_skipValue hskip
          exact ⟨before, after, v, hbefore, hafter, .other hname hv, rfl⟩

/-- Without a member of the name of the field, nothing is read from an object. -/
theorem ofObject_eq_ok {cs rest : List Char} {a : α} :
    shape.ofObject depth cs = .ok (a, rest) ↔ ∃ p, name ∈ p.seen ∧ p.value = a ∧
      readMembers Shape.Snag.placed (shape.readField depth) cs true ⟨shape.start, []⟩ cs =
        .ok (p, rest) := by
  unfold Shape.ofObject
  cases readMembers Shape.Snag.placed (shape.readField depth) cs true ⟨shape.start, []⟩ cs with
  | error snag => simp
  | ok part =>
    obtain ⟨p, behind⟩ := part
    by_cases hseen : name ∈ p.seen
    · have hmissing : (shape.fields.find? fun f => f.required && !p.seen.contains f.name) = none := by
        simp [hfields, Field.of, hseen]
      simp only [hmissing, Except.ok.injEq, Prod.mk.injEq]
      constructor
      · rintro ⟨rfl, rfl⟩
        exact ⟨p, hseen, rfl, rfl, rfl⟩
      · rintro ⟨p, -, rfl, rfl, rfl⟩
        exact ⟨rfl, rfl⟩
    · have hmissing : (shape.fields.find? fun f => f.required && !p.seen.contains f.name) =
          some (.of name true read fun a _ => a) := by
        simp [hfields, Field.of, hseen]
      simp only [hmissing, Except.ok.injEq, Prod.mk.injEq]
      constructor
      · nofun
      · rintro ⟨p, hin, -, rfl, -⟩
        exact absurd hin hseen

end

/-! ### The reader -/

theorem closeList_eq_none {cs rest : List Char} (h : Shape.closeList cs = (none, rest)) :
    ∃ blank, IsBlank blank ∧ cs = blank ++ ']' :: rest := by
  obtain ⟨blank, hblank, hcs⟩ := exists_blank cs
  unfold Shape.closeList at h
  split at h
  · cases h
  · rename_i hclose
    cases h
    exact ⟨blank, hblank, hclose ▸ hcs⟩
  · split at h <;> cases h
  · cases h

theorem finish_eq_ok {σ : Type} {close : List Char → Option Fault × List Char}
    {x : Except Shape.Snag (σ × List Char)} {a : σ} {rest : List Char} :
    Shape.finish close x = .ok (a, rest) ↔ ∃ cs, x = .ok (a, cs) ∧ close cs = (none, rest) := by
  unfold Shape.finish
  split
  · simp
  · simp
  · rename_i value cs
    split
    · rename_i hclose
      simp [hclose]
    · rename_i hclose
      simp [hclose]

section

variable {α : Type} {shape : Shape α} {name : String} {read : Reader α} {depth : Nat}
  {texts : α → List Char → Prop}
  (hfields : shape.fields = [.of name true read fun a _ => a])
  (h : ReadsTexts (read depth) texts)

include hfields h

theorem ofItems_takes {a : α} {v cs : List Char} (hv : texts a v) (hlaid : IsLaid true [v] cs)
    (rest : List Char) : Shape.finish Shape.closeList
      (shape.ofItems depth shape.fields 0 true shape.start (cs ++ ']' :: rest)) = .ok (a, rest) := by
  have hbracket : isSpace ']' = false := by decide
  cases hlaid with
  | cons hlead hmore =>
    have hclose : ∀ blank, IsBlank blank →
        Shape.closeList (blank ++ ']' :: rest) = (none, rest) := by
      intro blank hblank
      simp only [Shape.closeList, skipSpace_blank hblank, skipSpace_cons hbracket]
    rw [hfields, finish_eq_ok]
    refine ⟨_, ?_, hclose _ (isBlank_of_isLaid hmore)⟩
    simp only [List.append_assoc, Shape.ofItems, nextItem_lead hlead (h.form hv), Field.of,
      Reader.map, h.takes_front hv, bind, Except.bind, pure, Except.pure]

theorem ofItems_only {cs rest : List Char} {a : α} (hread : Shape.finish Shape.closeList
      (shape.ofItems depth shape.fields 0 true shape.start cs) = .ok (a, rest)) :
    ∃ v inside, texts a v ∧ IsLaid true [v] inside ∧ cs = inside ++ ']' :: rest := by
  rw [hfields, finish_eq_ok] at hread
  obtain ⟨behind, hitems, hclose⟩ := hread
  obtain ⟨trail, htrail, rfl⟩ := closeList_eq_none hclose
  rw [Shape.ofItems] at hitems
  split at hitems
  · cases hitems
  · simp only [Field.of, if_true] at hitems
    cases hitems
  · rename_i more hnext
    obtain ⟨lead, hlead, rfl⟩ := nextItem_spelled hnext
    simp only [Field.of, Reader.map, bind, Except.bind, pure, Except.pure] at hitems
    cases hvalue : read depth more with
    | error fault =>
      simp only [hvalue] at hitems
      cases hitems
    | ok part =>
      obtain ⟨b, behind⟩ := part
      simp only [hvalue, Shape.ofItems] at hitems
      cases hitems
      obtain ⟨blank, v, hblank, hv, rfl⟩ := h.only hvalue
      refine ⟨v, (lead ++ blank) ++ (v ++ trail), hv, .cons (hlead.blank hblank) (.nil htrail), ?_⟩
      simp only [List.append_assoc]

theorem ofObject_takes {a : α} {earlier later : List MemberText} {m : MemberText} {cs : List Char}
    (hothers : ∀ o ∈ earlier ++ later, o.IsOther name) (hnamed : m.IsNamed name)
    (hv : texts a m.value) (hlaid : IsLaid true ((earlier ++ m :: later).map MemberText.text) cs)
    (rest : List Char) : Shape.finish Shape.closeObject
      (shape.ofObject depth (cs ++ '\x7d' :: rest)) = .ok (a, rest) := by
  have hbrace : isSpace '\x7d' = false := by decide
  rw [List.forall_mem_append] at hothers
  have hleads : LeadsTo (IsOver name texts) ⟨shape.start, []⟩ (earlier ++ m :: later) ⟨a, [name]⟩ :=
    (leadsTo_of_others hothers.1 _).append
      (.cons hnamed (.own List.not_mem_nil hv) (leadsTo_of_others hothers.2 _))
  have hread := (readsOver_readField hfields h).readMembers_takes hleads Shape.Snag.placed hlaid
    (show cs.length < (cs ++ '\x7d' :: rest).length by simp) rest
  rw [finish_eq_ok]
  refine ⟨'\x7d' :: rest, (ofObject_eq_ok hfields).mpr ⟨_, List.mem_cons_self, rfl, hread⟩, ?_⟩
  simp only [Shape.closeObject, skipSpace_cons hbrace]

theorem ofObject_only {cs rest : List Char} {a : α} (hread : Shape.finish Shape.closeObject
      (shape.ofObject depth cs) = .ok (a, rest)) : ∃ inside,
      IsSoleText name texts a ('\x7b' :: (inside ++ ['\x7d'])) ∧ cs = inside ++ '\x7d' :: rest := by
  rw [finish_eq_ok] at hread
  obtain ⟨behind, hobject, hclose⟩ := hread
  obtain ⟨p, hseen, rfl, hmembers⟩ := (ofObject_eq_ok hfields).mp hobject
  obtain ⟨members, inside, tail, hleads, hlaid, rfl, rfl⟩ :=
    (readsOver_readField hfields h).readMembers_only hmembers
  obtain ⟨earlier, m, later, rfl, hothers, hnamed, hv⟩ := leadsTo_own hleads List.not_mem_nil hseen
  have hbrace : isSpace '\x7d' = false := by decide
  simp only [Shape.closeObject, skipSpace_cons hbrace, Prod.mk.injEq, true_and] at hclose
  exact ⟨inside, .member hothers hnamed hv hlaid, by rw [hclose]⟩

/-- A structure of one field is read from its texts alone. -/
theorem ReadsTexts.sole : ReadsTexts (shape.reader (depth + 1)) (IsSoleText name texts) where
  takes := by
    intro a v hv blank rest hblank
    have hbracket : isSpace '[' = false := by decide
    have hbrace : isSpace '\x7b' = false := by decide
    cases hv with
    | item hvalue hlaid =>
      rw [List.cons_append, List.append_assoc, List.singleton_append]
      simp only [Shape.reader, skipSpace_blank hblank, skipSpace_cons hbracket]
      exact ofItems_takes hfields h hvalue hlaid rest
    | member hothers hnamed hvalue hlaid =>
      rw [List.cons_append, List.append_assoc, List.singleton_append]
      simp only [Shape.reader, skipSpace_blank hblank, skipSpace_cons hbrace]
      exact ofObject_takes hfields h hothers hnamed hvalue hlaid rest
  only := by
    intro cs a rest hread
    obtain ⟨blank, hblank, hcs⟩ := exists_blank cs
    unfold Shape.reader at hread
    split at hread
    · rename_i hopen
      obtain ⟨v, inside, hvalue, hlaid, rfl⟩ := ofItems_only hfields h hread
      refine ⟨blank, _, hblank, .item hvalue hlaid, ?_⟩
      rw [hcs, hopen, List.cons_append, List.append_assoc, List.singleton_append]
    · rename_i hopen
      obtain ⟨inside, htext, rfl⟩ := ofObject_only hfields h hread
      refine ⟨blank, _, hblank, htext, ?_⟩
      rw [hcs, hopen, List.cons_append, List.append_assoc, List.singleton_append]
    · cases hread
  form := by
    intro a v hv
    cases hv with
    | item hvalue hlaid => exact .list (List.forall_mem_singleton.mpr (h.form hvalue)) hlaid
    | @member earlier later m cs hothers hnamed hvalue hlaid =>
      have hown : m.IsFormed := hnamed.isFormed (h.form hvalue)
      rw [List.forall_mem_append] at hothers
      refine hasForm_object (List.forall_mem_append.mpr ⟨fun o ho => ?_, ?_⟩) hlaid
      · exact (hothers.1 o ho).isFormed
      · exact List.forall_mem_cons.mpr ⟨hown, fun o ho => (hothers.2 o ho).isFormed⟩

end

end ResultGateway.Json
