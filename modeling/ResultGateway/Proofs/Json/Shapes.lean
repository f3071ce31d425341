-- Structures are read as they are spelled. A shape reads an object whose
-- members its fields read, each once, and passes over the others. So what
-- each field makes of a value tells what the shape makes of a whole text.
import Mathlib.Tactic.Tauto
import ResultGateway.Proofs.Json.Images
import ResultGateway.Proofs.Json.Skips

namespace ResultGateway.Json

/-! ## Single values -/

theorem readsAs_value {depth : Nat} {j : Json} (h : IsAdmitted depth j) (hreals : j.HasNoReals) :
    ReadsAs (Reader.value depth) j j := by
  have hread := readsBack_exact (hreals.within h.within)
  rw [sorted_of_canonical h.canonical] at hread
  exact hread

theorem readText_append {s : String} {cs blank : List Char} (h : SpellsText s cs)
    (hblank : IsBlank blank) (depth : Nat) (rest : List Char) :
    Reader.text depth (blank ++ (cs ++ rest)) = .ok (s, rest) := by
  obtain ⟨hchars⟩ := h
  have hquote : isSpace '"' = false := by decide
  simp only [Reader.text, List.cons_append, List.append_assoc, List.nil_append,
    skipSpace_blank hblank, skipSpace_cons hquote, text_append hchars]

theorem readsFrom_text (stands : Literal → Number → Prop) (s : String) (depth : Nat) :
    ReadsFrom stands (Reader.text depth) (.str s) s := by
  intro blank cs rest hblank hspelled _
  cases hspelled with
  | str htext => exact readText_append htext hblank depth rest

theorem readsAs_text (s : String) (depth : Nat) : ReadsAs (Reader.text depth) (.str s) s :=
  readsFrom_text Literal.Keeps s depth

theorem isExact_word {n : Nat} (h : n ≤ greatestWord) : (Number.integer n).IsExact := by
  refine ⟨n, rfl, ?_⟩
  unfold greatestWord at h
  unfold Number.Fits
  omega

theorem readsAs_word {n : Nat} (h : n ≤ greatestWord) (depth : Nat) :
    ReadsAs (Reader.word depth) (.nat n) n := by
  intro blank cs rest hblank hspelled hends
  cases hspelled with
  | num htext hkeeps =>
    have hread := number_append htext (hkeeps (isExact_word h)) hends
    obtain ⟨c, cs, rfl, hc⟩ := htext.head
    have hstart : (c = '-' || Text.isDigit c) = true := by simpa using hc
    rw [List.cons_append] at hread ⊢
    simp only [Reader.word, skipSpace_blank hblank, skipSpace_cons (isSpace_of_startsNumber hc),
      hstart, if_true, hread]

theorem ReadsAs.map {α β : Type} {read : Reader α} {depth : Nat} {j : Json} {a : α}
    (h : ReadsAs (read depth) j a) (f : α → β) : ReadsAs (read.map f depth) j (f a) := by
  intro blank cs rest hblank hspelled hends
  simp only [Reader.map, h blank cs rest hblank hspelled hends, bind, Except.bind, pure,
    Except.pure]

theorem readsFrom_null {α : Type} (stands : Literal → Number → Prop) (read : Reader α)
    (depth : Nat) : ReadsFrom stands (Reader.optional read depth) .null none := by
  intro blank cs rest hblank hspelled _
  cases hspelled
  have hspace : isSpace 'n' = false := by decide
  have hword := word_append ['u', 'l', 'l'] rest
  simp only [Reader.optional, List.cons_append, skipSpace_blank hblank, skipSpace_cons hspace]
  rw [show 'u' :: 'l' :: 'l' :: ([] ++ rest) = ['u', 'l', 'l'] ++ rest from rfl, hword]
  rfl

theorem readsAs_null {α : Type} (read : Reader α) (depth : Nat) :
    ReadsAs (Reader.optional read depth) .null none :=
  readsFrom_null Literal.Keeps read depth

/-- Only a null starts with this letter. -/
theorem Spells.head_ne {stands : Literal → Number → Prop} {j : Json} {c : Char} {cs : List Char}
    (h : Spells stands j (c :: cs)) (hj : j ≠ .null) : c ≠ 'n' := by
  generalize htext : c :: cs = text at h
  cases h with
  | null => exact absurd rfl hj
  | num hnumber =>
    obtain ⟨d, rest, rfl, hd⟩ := hnumber.head
    cases htext
    exact ne_of_startsNumber hd (by decide)
  | str hquoted =>
    obtain ⟨-⟩ := hquoted
    cases htext
    decide
  | _ =>
    cases htext
    decide

theorem ReadsAs.optional {α : Type} {read : Reader α} {depth : Nat} {j : Json} {a : α}
    (h : ReadsAs (read depth) j a) (hj : j ≠ .null) :
    ReadsAs (Reader.optional read depth) j (some a) := by
  intro blank cs rest hblank hspelled hends
  have hread := h [] cs rest isBlank_nil hspelled hends
  obtain ⟨c, cs, rfl, hc⟩ := hspelled.head
  have hne := hspelled.head_ne hj
  rw [List.nil_append, List.cons_append] at hread
  rw [List.cons_append]
  unfold Reader.optional
  rw [skipSpace_blank hblank, skipSpace_cons hc.no_space]
  split <;> rename_i heq
  · cases heq
    exact absurd rfl hne
  · rw [hread]
    rfl

theorem readsAs_list {α : Type} {read : Reader α} {depth : Nat} {items : List Json}
    {things : List α} (h : List.Forall₂ (ReadsAs (read depth)) items things) :
    ReadsAs (Reader.list read (depth + 1)) (.arr items) things := by
  intro blank cs rest hblank hspelled _
  cases hspelled with
  | @arr _ cs hitems =>
    have hbracket : isSpace '[' = false := by decide
    have hread := readItems_append h (show SpellsFrom Literal.Keeps true items cs from hitems)
      (show cs.length < (cs ++ ']' :: rest).length by simp) [] rest
    rw [List.cons_append, List.append_assoc, List.cons_append, List.nil_append]
    simp only [Reader.list, skipSpace_blank hblank, skipSpace_cons hbracket, hread, bind,
      Except.bind, pure, Except.pure, List.reverse_nil, List.nil_append, List.drop_one,
      List.tail_cons]

/-! ## Structures -/

/-- A member takes one progress of a structure to another, in each text that keeps its value. -/
abbrev Shape.CarriesOver {σ : Type} (shape : Shape σ) (depth : Nat) (progress : Progress σ)
    (name : String) (value : Json) (next : Progress σ) : Prop :=
  CarriesFrom Literal.Keeps (shape.readField depth) progress name value next

/-- So do members, one after the other. -/
abbrev Shape.Carries {σ : Type} (shape : Shape σ) (depth : Nat) (progress : Progress σ)
    (members : List (String × Json)) (next : Progress σ) : Prop :=
  Json.Carries Literal.Keeps (shape.readField depth) progress members next

section

variable {σ : Type} {shape : Shape σ} {depth : Nat} {name : String} {value : Json}
  {progress : Shape.Progress σ}

/-- A member is read by the field of its name, if that is not read yet. -/
theorem carriesOver_field {field : Field σ} {a : σ}
    (hfield : (shape.fields.find? fun f => f.name == name) = some field)
    (hnew : name ∉ progress.seen) (hread : ReadsAs (field.read progress.value depth) value a) :
    shape.CarriesOver depth progress name value ⟨a, name :: progress.seen⟩ := by
  intro before after v rest hbefore hafter hvalue hends
  have hcontains : progress.seen.contains name = false := by simpa using hnew
  simp only [Shape.readField, hfield, hcontains, Bool.false_eq_true, if_false,
    colon_append hbefore, hread after v rest hafter hvalue hends, bind, Except.bind]

/-- A member that no field has the name of is passed over. -/
theorem carriesOver_unknown (hfield : (shape.fields.find? fun f => f.name == name) = none) :
    shape.CarriesOver depth progress name value progress := by
  intro before after v rest hbefore hafter hvalue hends
  have hskip := skipValue_append hvalue after rest hafter hends
  simp only [Shape.readField, hfield, colon_append hbefore, hskip, bind, Except.bind]

/-- An object is read as the structure that its members carry to, if none that is needed is
missing. -/
theorem readsAs_object {members : List (String × Json)}
    (h : shape.Carries depth ⟨shape.start, []⟩ members progress)
    (hall : ∀ field ∈ shape.fields, field.required = true → field.name ∈ progress.seen) :
    ReadsAs (shape.reader (depth + 1)) (.obj members) progress.value := by
  intro blank cs rest hblank hspelled _
  cases hspelled with
  | @obj _ cs hmembers =>
    have hbrace : isSpace '\x7b' = false := by decide
    have hclose : isSpace '\x7d' = false := by decide
    have hread := readMembers_append h Shape.Snag.placed
      (show SpellsNamesFrom Literal.Keeps true members cs from hmembers)
      (show cs.length < (cs ++ '\x7d' :: rest).length by simp) rest
    have hmissing : (shape.fields.find? fun f =>
        f.required && !progress.seen.contains f.name) = none := by
      simpa using hall
    rw [List.cons_append, List.append_assoc, List.cons_append, List.nil_append]
    simp only [Shape.reader, skipSpace_blank hblank, skipSpace_cons hbrace, Shape.ofObject, hread,
      hmissing, Shape.finish, Shape.closeObject, skipSpace_cons hclose]

end

theorem readsAs_field {σ α : Type} {read : Reader α} {depth : Nat} {j : Json} {a : α}
    (h : ReadsAs (read depth) j a) {store : α → σ → σ} {s t : σ} (hstore : store a s = t)
    (name : String) (required : Bool) :
    ReadsAs ((Field.of name required read store).read s depth) j t := by
  rw [← hstore]
  exact h.map fun a => store a s

/-- A text is carried over by a field of texts that is not read yet. -/
theorem carries_text {σ : Type} {shape : Shape σ} {depth : Nat} {progress last : Shape.Progress σ}
    {name s : String} {store : String → σ → σ} {members : List (String × Json)}
    (hfield : (shape.fields.find? fun f => f.name == name) =
      some (.of name true Reader.text store)) (hnew : name ∉ progress.seen)
    (h : shape.Carries depth ⟨store s progress.value, name :: progress.seen⟩ members last) :
    shape.Carries depth progress ((name, .str s) :: members) last :=
  .cons (carriesOver_field hfield hnew (readsAs_field (readsAs_text s depth) rfl name true)) h

/-! ## Members in any order -/

/-- A value as it is, or with the members of its objects sorted. -/
def Arranged (j value : Json) : Prop := value = j ∨ value = j.sorted

theorem Arranged.eq_of_canonical {j value : Json} (h : Arranged j value) (hj : Canonical j) :
    value = j := by
  rcases h with h | h
  · exact h
  · rw [h, sorted_of_canonical hj]

theorem forall₂_arranged (items : List Json) :
    List.Forall₂ Arranged items items ∧ List.Forall₂ Arranged items (sortedItems items) := by
  induction items with
  | nil => exact ⟨.nil, .nil⟩
  | cons item items ih => exact ⟨.cons (.inl rfl) ih.1, .cons (.inr rfl) ih.2⟩

theorem Arranged.items {items : List Json} {value : Json} (h : Arranged (.arr items) value) :
    ∃ arranged, value = .arr arranged ∧ List.Forall₂ Arranged items arranged := by
  rcases h with rfl | rfl
  · exact ⟨items, rfl, (forall₂_arranged items).1⟩
  · exact ⟨sortedItems items, by rw [sorted], (forall₂_arranged items).2⟩

theorem mem_sortedValues {member : String × Json} {members : List (String × Json)}
    (h : member ∈ sortedValues members) :
    ∃ value, (member.1, value) ∈ members ∧ member.2 = value.sorted := by
  induction members with
  | nil => cases h
  | cons first members ih =>
    obtain ⟨name, value⟩ := first
    rcases List.mem_cons.mp h with rfl | h
    · exact ⟨value, List.mem_cons_self, rfl⟩
    · obtain ⟨value, hmember, hvalue⟩ := ih h
      exact ⟨value, List.mem_cons_of_mem _ hmember, hvalue⟩

theorem map_fst_sortedValues (members : List (String × Json)) :
    (sortedValues members).map Prod.fst = members.map Prod.fst := by
  induction members with
  | nil => rfl
  | cons first members ih => rw [sortedValues, List.map_cons, List.map_cons, ih]

/-- The members of an object keep their names when they are sorted. -/
theorem Arranged.members {members : List (String × Json)} {value : Json}
    (h : Arranged (.obj members) value) (hdistinct : (members.map Prod.fst).Nodup) :
    ∃ arranged, value = .obj arranged ∧ (arranged.map Prod.fst).Nodup ∧
      (∀ name, name ∈ arranged.map Prod.fst ↔ name ∈ members.map Prod.fst) ∧
      ∀ member ∈ arranged, ∃ value, (member.1, value) ∈ members ∧ Arranged value member.2 := by
  rcases h with rfl | rfl
  · exact ⟨members, rfl, hdistinct, fun _ => Iff.rfl,
      fun member hmember => ⟨member.2, hmember, .inl rfl⟩⟩
  · refine ⟨sortMembers (sortedValues members), by rw [sorted]; rfl, ?_, ?_, ?_⟩
    · have hascend := namesAscend_sortMembers (sortedValues members)
      rw [namesAscend_iff_pairwise] at hascend
      refine hascend.imp ?_
      rintro name _ hlt rfl
      exact String.lt_irrefl name hlt
    · intro name
      rw [mem_names_sortMembers, map_fst_sortedValues]
    · intro member hmember
      obtain ⟨value, hvalue, heq⟩ := mem_sortedValues (mem_sortMembers hmember)
      exact ⟨value, hvalue, .inr heq⟩

theorem sorted_of_namesAscend {members : List (String × Json)}
    (h : NamesAscend (members.map Prod.fst)) :
    (Json.obj members).sorted = .obj (sortedValues members) := by
  rw [← map_fst_sortedValues] at h
  rw [sorted, ofMembers, sortMembers_of_namesAscend h]

section

variable {σ : Type} {shape : Shape σ} {depth : Nat} {only : List String → σ}

/-- A member that is read by the field of its name, whatever is read before it. Here `only names`
is the structure with the parts of these names alone. -/
def IsPart (shape : Shape σ) (depth : Nat) (only : List String → σ) (member : String × Json) :
    Prop :=
  ∃ field, (shape.fields.find? fun f => f.name == member.1) = some field ∧
    ∀ seen, ReadsAs (field.read (only seen) depth) member.2 (only (member.1 :: seen))

theorem exists_carries {members : List (String × Json)}
    (hdistinct : (members.map Prod.fst).Nodup)
    (hparts : ∀ member ∈ members, IsPart shape depth only member) {seen : List String}
    (hnew : ∀ member ∈ members, member.1 ∉ seen) :
    ∃ names, (∀ name, name ∈ names ↔ name ∈ members.map Prod.fst ∨ name ∈ seen) ∧
      shape.Carries depth ⟨only seen, seen⟩ members ⟨only names, names⟩ := by
  induction members generalizing seen with
  | nil => exact ⟨seen, by simp, .nil⟩
  | cons member members ih =>
    obtain ⟨name, value⟩ := member
    rw [List.map_cons, List.nodup_cons] at hdistinct
    rw [List.forall_mem_cons] at hparts hnew
    obtain ⟨field, hfield, hvalue⟩ := hparts.1
    have hlater : ∀ member ∈ members, member.1 ∉ name :: seen := by
      intro member hmember hin
      rcases List.mem_cons.mp hin with heq | hin
      · exact hdistinct.1 (List.mem_map.mpr ⟨member, hmember, heq⟩)
      · exact hnew.2 member hmember hin
    -- The parts that were read before stay in `only`, so the rest goes on from there.
    obtain ⟨names, hnames, hcarries⟩ := ih hdistinct.2 hparts.2 hlater
    refine ⟨names, ?_, .cons (carriesOver_field hfield hnew.1 (hvalue seen)) hcarries⟩
    intro other
    rw [hnames, List.map_cons, List.mem_cons, List.mem_cons]
    tauto

/-- An object of distinct members is read as a structure, sorted or not, when each member is a
part of the structure, and the structure has no other parts. -/
theorem readsAs_arranged (only : List String → σ) {members : List (String × Json)} {j : Json}
    {a : σ} (h : Arranged (.obj members) j) (hdistinct : (members.map Prod.fst).Nodup)
    (hparts : ∀ member ∈ members, ∀ value, Arranged member.2 value →
      IsPart shape depth only (member.1, value))
    (hneeded : ∀ field ∈ shape.fields, field.required = true → field.name ∈ members.map Prod.fst)
    (hstart : only [] = shape.start)
    (hall : ∀ names, (∀ name, name ∈ names ↔ name ∈ members.map Prod.fst) → only names = a) :
    ReadsAs (shape.reader (depth + 1)) j a := by
  obtain ⟨arranged, rfl, hdistinct, hsame, harranged⟩ := h.members hdistinct
  have hparts : ∀ member ∈ arranged, IsPart shape depth only member := by
    intro member hmember
    obtain ⟨value, hvalue, hform⟩ := harranged member hmember
    exact hparts _ hvalue _ hform
  have hnew : ∀ member ∈ arranged, member.1 ∉ ([] : List String) :=
    fun _ _ => List.not_mem_nil
  obtain ⟨names, hnames, hcarries⟩ := exists_carries hdistinct hparts hnew
  simp only [List.not_mem_nil, or_false, hsame] at hnames
  rw [hstart] at hcarries
  have hread := readsAs_object hcarries fun field hfield hrequired =>
    (hnames _).mpr (hneeded field hfield hrequired)
  rw [hall names hnames] at hread
  exact hread

end

/-! ## Whole documents -/

section

variable {α : Type} {read : Reader α} {j : Json} {a : α}

/-- A thing is decoded from the compact text of the value that it is read from. -/
theorem ReadsAs.decode_compact (h : ReadsAs (read greatestDepth) j a) :
    read.decode j.compact = .ok a := by
  have hread := h.whole_eq (write_keeps j) isBlank_nil isBlank_nil
  rw [List.nil_append, List.append_nil] at hread
  rw [Reader.decode, compact, String.toList_ofList, hread]

end

end ResultGateway.Json
