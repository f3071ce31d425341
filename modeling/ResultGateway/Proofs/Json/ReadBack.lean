-- The reader reads what the grammar spells. A text that spells a value,
-- with numbers that its literals give, is read as the value with sorted
-- members, whatever follows it, when the depth suffices. So a value without
-- reals is read back from the texts that it is written as. What is said of
-- lists and objects holds of every reading of their parts.
import Mathlib.Data.List.Forall2
import ResultGateway.Json.Reader
import ResultGateway.Proofs.Json.Members
import ResultGateway.Proofs.Json.Parts
import ResultGateway.Proofs.Json.Written

namespace ResultGateway.Json

open Text (isDigit)

/-! ## The first character -/

theorem skipSpace_blank {blank : List Char} (h : IsBlank blank) (rest : List Char) :
    skipSpace (blank ++ rest) = skipSpace rest := by
  unfold skipSpace
  rw [List.dropWhile_append_of_pos h]

theorem skipSpace_cons {c : Char} (h : isSpace c = false) (rest : List Char) :
    skipSpace (c :: rest) = c :: rest :=
  List.dropWhile_cons_of_neg (by simp [h])

/-- A character that starts a value. -/
structure StartsValue (c : Char) : Prop where
  no_space : isSpace c = false
  no_end : c ≠ ']'

theorem startsValue_of_isDigit {c : Char} (h : isDigit c = true) : StartsValue c := by
  refine ⟨?_, ?_⟩
  · rw [Bool.eq_false_iff]
    intro hspace
    simp only [isSpace, Bool.or_eq_true, beq_iff_eq] at hspace
    rcases hspace with ((rfl | rfl) | rfl) | rfl <;> exact absurd h (by decide)
  · rintro rfl
    exact absurd h (by decide)

theorem IsWhole.head {whole : List Char} (h : IsWhole whole) :
    ∃ c cs, whole = c :: cs ∧ isDigit c = true := by
  cases h with
  | zero => exact ⟨'0', [], rfl, by decide⟩
  | digits _ hall => exact ⟨_, _, rfl, hall _ List.mem_cons_self⟩

theorem Literal.IsText.head {l : Literal} {cs : List Char} (h : l.IsText cs) :
    ∃ c rest, cs = c :: rest ∧ (c = '-' ∨ isDigit c = true) := by
  obtain ⟨hwhole, hfraction, hexponent⟩ := h
  rename_i negative _ _ _ _ _
  cases negative with
  | true => exact ⟨'-', _, rfl, .inl rfl⟩
  | false =>
    obtain ⟨c, cs, rfl, hc⟩ := hwhole.head
    exact ⟨c, _, rfl, .inr hc⟩

theorem Spells.head {stands : Literal → Number → Prop} {j : Json} {cs : List Char}
    (h : Spells stands j cs) : ∃ c rest, cs = c :: rest ∧ StartsValue c := by
  cases h with
  | null => exact ⟨_, _, rfl, by decide, by decide⟩
  | true => exact ⟨_, _, rfl, by decide, by decide⟩
  | false => exact ⟨_, _, rfl, by decide, by decide⟩
  | num htext =>
    obtain ⟨c, rest, rfl, hc⟩ := htext.head
    refine ⟨c, rest, rfl, ?_⟩
    rcases hc with rfl | hc
    · exact ⟨by decide, by decide⟩
    · exact startsValue_of_isDigit hc
  | str htext =>
    obtain ⟨-⟩ := htext
    exact ⟨_, _, rfl, by decide, by decide⟩
  | arr => exact ⟨_, _, rfl, by decide, by decide⟩
  | obj => exact ⟨_, _, rfl, by decide, by decide⟩

/-! ## What a reading does -/

section

variable (stands : Literal → Number → Prop)

/-- A reading gives a thing from each text that spells a value, whatever follows. -/
def ReadsFrom {α : Type} (read : Step α) (j : Json) (a : α) : Prop :=
  ∀ blank cs rest, IsBlank blank → Spells stands j cs → EndsNumber rest →
    read (blank ++ (cs ++ rest)) = .ok (a, rest)

/-- A reading gives a value back, with sorted members. -/
def ReadsBack (read : Step Json) (j : Json) : Prop := ReadsFrom stands read j j.sorted

/-- What stands in a list, from its start or from behind an item. -/
def SpellsFrom (first : Bool) (items : List Json) (cs : List Char) : Prop :=
  if first then SpellsItems stands items cs else SpellsMoreItems stands items cs

/-- What stands in an object, from its start or from behind a member. -/
def SpellsNamesFrom (first : Bool) (members : List (String × Json)) (cs : List Char) : Prop :=
  if first then SpellsMembers stands members cs else SpellsMoreMembers stands members cs

section

variable {ε σ : Type} (read : σ → String → List Char → Except ε (σ × List Char))

/-- The reading of a member takes one state to another, from behind each text of its name. -/
def CarriesFrom (s : σ) (name : String) (value : Json) (t : σ) : Prop :=
  ∀ before after v rest, IsBlank before → IsBlank after → Spells stands value v →
    EndsNumber rest → read s name (before ++ ':' :: (after ++ (v ++ rest))) = .ok (t, rest)

/-- The reading of members, one after the other, takes one state to another. -/
inductive Carries : σ → List (String × Json) → σ → Prop where
  | nil {s : σ} : Carries s [] s
  | cons {s t u : σ} {name : String} {value : Json} {members : List (String × Json)}
      (member : CarriesFrom stands read s name value t) (rest : Carries t members u) :
      Carries s ((name, value) :: members) u

end

end

variable {stands : Literal → Number → Prop}

/-! ## Lists -/

theorem nextItem_first {c : Char} {blank : List Char} (hblank : IsBlank blank) (hc : StartsValue c)
    (rest : List Char) : nextItem true (blank ++ c :: rest) = .ok (true, c :: rest) := by
  unfold nextItem
  rw [skipSpace_blank hblank, skipSpace_cons hc.no_space]
  split <;> rename_i heq <;> cases heq
  · exact absurd rfl hc.no_end
  · rfl

theorem nextItem_comma {c : Char} {before blank : List Char} (hbefore : IsBlank before)
    (hblank : IsBlank blank) (hc : StartsValue c) (rest : List Char) :
    nextItem false (before ++ ',' :: (blank ++ c :: rest)) = .ok (true, c :: rest) := by
  have hcomma : isSpace ',' = false := by decide
  simp [nextItem, skipSpace_blank hbefore, skipSpace_cons hcomma, skipSpace_blank hblank,
    skipSpace_cons hc.no_space, hc.no_end]

theorem nextItem_end {blank : List Char} (hblank : IsBlank blank) (first : Bool)
    (rest : List Char) : nextItem first (blank ++ ']' :: rest) = .ok (false, ']' :: rest) := by
  have hbracket : isSpace ']' = false := by decide
  simp [nextItem, skipSpace_blank hblank, skipSpace_cons hbracket]

/-- At an item, the reader finds its text, and what follows it. -/
theorem spellsFrom_cons {first : Bool} {item : Json} {rest : List Json} {cs : List Char}
    (h : SpellsFrom stands first (item :: rest) cs) :
    ∃ v more, Spells stands item v ∧ SpellsFrom stands false rest more ∧
      (∀ tail, nextItem first (cs ++ tail) = .ok (true, v ++ (more ++ tail))) ∧
      v.length + more.length ≤ cs.length ∧ more.length + 1 ≤ cs.length := by
  cases first with
  | true =>
    have h : SpellsItems stands (item :: rest) cs := h
    cases h with
    | cons hblank hvalue hmore =>
      obtain ⟨c, v, rfl, hc⟩ := hvalue.head
      refine ⟨_, _, hvalue, hmore, ?_, by simp; omega, by simp; omega⟩
      intro tail
      rw [List.append_assoc, List.append_assoc, List.cons_append, nextItem_first hblank hc]
  | false =>
    have h : SpellsMoreItems stands (item :: rest) cs := h
    cases h with
    | cons hbefore hitems =>
      cases hitems with
      | cons hblank hvalue hmore =>
        obtain ⟨c, v, rfl, hc⟩ := hvalue.head
        refine ⟨_, _, hvalue, hmore, ?_, by simp; omega, by simp; omega⟩
        intro tail
        rw [List.append_assoc, List.cons_append, List.append_assoc, List.append_assoc,
          List.cons_append, nextItem_comma hbefore hblank hc]

theorem spellsFrom_nil {first : Bool} {cs : List Char} (h : SpellsFrom stands first [] cs) :
    IsBlank cs := by
  cases first with
  | true =>
    have h : SpellsItems stands [] cs := h
    cases h with
    | nil hblank => exact hblank
  | false =>
    have h : SpellsMoreItems stands [] cs := h
    cases h with
    | nil hblank => exact hblank

theorem endsNumber_moreItems {items : List Json} {cs rest : List Char}
    (h : SpellsFrom stands false items cs) : EndsNumber (cs ++ ']' :: rest) := by
  have h : SpellsMoreItems stands items cs := h
  cases h with
  | nil hblank =>
    exact endsNumber_blank hblank (endsNumber_cons (by decide) (by decide) (by decide))
  | cons hblank =>
    rw [List.append_assoc]
    exact endsNumber_blank hblank (endsNumber_cons (by decide) (by decide) (by decide))

/-- A list is read as the things that its items are read as. -/
theorem readItems_append {α : Type} {read : Step α} {items : List Json} {things : List α}
    (hread : List.Forall₂ (ReadsFrom stands read) items things) {first : Bool} {cs : List Char}
    (h : SpellsFrom stands first items cs) {fuel : List Char} (hfuel : cs.length < fuel.length)
    (found : List α) (rest : List Char) :
    readItems read fuel first found (cs ++ ']' :: rest) =
      .ok (found.reverse ++ things, ']' :: rest) := by
  -- Each item takes a character off the text at least, so the fuel lasts to the end.
  induction hread generalizing first cs fuel found with
  | nil =>
    obtain ⟨f, fuel, rfl⟩ := List.exists_cons_of_length_pos (Nat.zero_lt_of_lt hfuel)
    rw [readItems, nextItem_end (spellsFrom_nil h)]
    simp
  | cons hitem _ ih =>
    obtain ⟨f, fuel, rfl⟩ := List.exists_cons_of_length_pos (Nat.zero_lt_of_lt hfuel)
    obtain ⟨v, more, hvalue, hmore, hnext, -, hshorter⟩ := spellsFrom_cons h
    have hitem := hitem [] v (more ++ ']' :: rest) isBlank_nil hvalue (endsNumber_moreItems hmore)
    rw [List.nil_append] at hitem
    rw [readItems, hnext]
    simp only [hitem]
    rw [ih hmore (by rw [List.length_cons] at hfuel; omega), List.reverse_cons, List.append_assoc]
    rfl

theorem forall₂_sortedItems {read : Step Json} {items : List Json}
    (hread : ∀ item ∈ items, ReadsBack stands read item) :
    List.Forall₂ (ReadsFrom stands read) items (sortedItems items) := by
  induction items with
  | nil => exact .nil
  | cons item rest ih =>
    rw [List.forall_mem_cons] at hread
    exact .cons hread.1 (ih hread.2)

/-! ## Objects -/

theorem nextName_first {blank : List Char} (hblank : IsBlank blank) (rest : List Char) :
    nextName true (blank ++ '"' :: rest) = .ok (true, rest) := by
  have hquote : isSpace '"' = false := by decide
  simp [nextName, skipSpace_blank hblank, skipSpace_cons hquote]

theorem nextName_comma {before blank : List Char} (hbefore : IsBlank before)
    (hblank : IsBlank blank) (rest : List Char) :
    nextName false (before ++ ',' :: (blank ++ '"' :: rest)) = .ok (true, rest) := by
  have hcomma : isSpace ',' = false := by decide
  have hquote : isSpace '"' = false := by decide
  simp [nextName, skipSpace_blank hbefore, skipSpace_cons hcomma, skipSpace_blank hblank,
    skipSpace_cons hquote]

theorem nextName_end {blank : List Char} (hblank : IsBlank blank) (first : Bool)
    (rest : List Char) :
    nextName first (blank ++ '\x7d' :: rest) = .ok (false, '\x7d' :: rest) := by
  have hbrace : isSpace '\x7d' = false := by decide
  simp [nextName, skipSpace_blank hblank, skipSpace_cons hbrace]

theorem colon_append {before : List Char} (hbefore : IsBlank before) (rest : List Char) :
    colon (before ++ ':' :: rest) = .ok rest := by
  have hcolon : isSpace ':' = false := by decide
  simp [colon, skipSpace_blank hbefore, skipSpace_cons hcolon]

/-- At a member, the reader finds its name, its value, and what follows them. -/
theorem spellsNamesFrom_cons {first : Bool} {name : String} {value : Json}
    {rest : List (String × Json)} {cs : List Char}
    (h : SpellsNamesFrom stands first ((name, value) :: rest) cs) :
    ∃ n before after v more, SpellsChars name.toList n ∧ IsBlank before ∧ IsBlank after ∧
      Spells stands value v ∧ SpellsNamesFrom stands false rest more ∧
      (∀ tail, nextName first (cs ++ tail) =
        .ok (true, n ++ '"' :: (before ++ ':' :: (after ++ (v ++ (more ++ tail)))))) ∧
      v.length + more.length ≤ cs.length ∧ more.length + 1 ≤ cs.length := by
  cases first with
  | true =>
    have h : SpellsMembers stands ((name, value) :: rest) cs := h
    cases h with
    | cons hblank hname hbefore hafter hvalue hmore =>
      obtain ⟨hchars⟩ := hname
      refine ⟨_, _, _, _, _, hchars, hbefore, hafter, hvalue, hmore, ?_, by simp; omega,
        by simp; omega⟩
      intro tail
      simp only [List.append_assoc, List.cons_append, List.nil_append, nextName_first hblank]
  | false =>
    have h : SpellsMoreMembers stands ((name, value) :: rest) cs := h
    cases h with
    | cons hcomma hmembers =>
      cases hmembers with
      | cons hblank hname hbefore hafter hvalue hmore =>
        obtain ⟨hchars⟩ := hname
        refine ⟨_, _, _, _, _, hchars, hbefore, hafter, hvalue, hmore, ?_, by simp; omega,
          by simp; omega⟩
        intro tail
        simp only [List.append_assoc, List.cons_append, List.nil_append,
          nextName_comma hcomma hblank]

theorem spellsNamesFrom_nil {first : Bool} {cs : List Char}
    (h : SpellsNamesFrom stands first [] cs) : IsBlank cs := by
  cases first with
  | true =>
    have h : SpellsMembers stands [] cs := h
    cases h with
    | nil hblank => exact hblank
  | false =>
    have h : SpellsMoreMembers stands [] cs := h
    cases h with
    | nil hblank => exact hblank

theorem endsNumber_moreMembers {members : List (String × Json)} {cs rest : List Char}
    (h : SpellsNamesFrom stands false members cs) : EndsNumber (cs ++ '\x7d' :: rest) := by
  have h : SpellsMoreMembers stands members cs := h
  cases h with
  | nil hblank =>
    exact endsNumber_blank hblank (endsNumber_cons (by decide) (by decide) (by decide))
  | cons hblank =>
    rw [List.append_assoc]
    exact endsNumber_blank hblank (endsNumber_cons (by decide) (by decide) (by decide))

section

variable {ε σ : Type} {read : σ → String → List Char → Except ε (σ × List Char)}

/-- An object is read as far as the readings of its members carry. -/
theorem readMembers_append {s t : σ} {members : List (String × Json)}
    (h : Carries stands read s members t) (fault : Fault → ε) {first : Bool} {cs : List Char}
    (hmembers : SpellsNamesFrom stands first members cs)
    {fuel : List Char} (hfuel : cs.length < fuel.length) (rest : List Char) :
    readMembers fault read fuel first s (cs ++ '\x7d' :: rest) = .ok (t, '\x7d' :: rest) := by
  induction h generalizing first cs fuel with
  | nil =>
    obtain ⟨f, fuel, rfl⟩ := List.exists_cons_of_length_pos (Nat.zero_lt_of_lt hfuel)
    rw [readMembers, nextName_end (spellsNamesFrom_nil hmembers)]
  | cons member _ ih =>
    obtain ⟨f, fuel, rfl⟩ := List.exists_cons_of_length_pos (Nat.zero_lt_of_lt hfuel)
    obtain ⟨n, before, after, v, more, hname, hbefore, hafter, hvalue, hmore, hnext, -, hshorter⟩ :=
      spellsNamesFrom_cons hmembers
    have hmember := member before after v (more ++ '\x7d' :: rest) hbefore hafter hvalue
      (endsNumber_moreMembers hmore)
    rw [readMembers, hnext]
    simp only [text_append hname, hmember]
    exact ih hmore (by rw [List.length_cons] at hfuel; omega)

end

/-- Each member of an object is put into its place. -/
theorem carries_readMember {read : Step Json} {members : List (String × Json)}
    (hread : ∀ member ∈ members, ReadsBack stands read member.2) (found : List (String × Json)) :
    Carries stands (readMember read) found members ((sortedValues members).foldl
      (fun sorted member => insertMember member.1 member.2 sorted) found) := by
  induction members generalizing found with
  | nil => exact .nil
  | cons member members ih =>
    obtain ⟨name, value⟩ := member
    rw [List.forall_mem_cons] at hread
    refine .cons ?_ (ih hread.2 _)
    intro before after v rest hbefore hafter hvalue hends
    have hmember := hread.1 after v rest hafter hvalue hends
    simp only [readMember, colon_append hbefore, hmember, bind, Except.bind, pure, Except.pure]

/-! ## Values -/

theorem readValue_scalar {c : Char} {blank rest : List Char} (hblank : IsBlank blank)
    (hspace : isSpace c = false) (hlist : c ≠ '[') (hobject : c ≠ '\x7b') (depth : Nat) :
    readValue depth (blank ++ c :: rest) = scalar (c :: rest) := by
  cases depth <;>
    simp [readValue, skipSpace_blank hblank, skipSpace_cons hspace, hlist, hobject]

theorem word_append (letters rest : List Char) : word letters (letters ++ rest) = .ok rest := by
  induction letters with
  | nil => rfl
  | cons letter letters ih =>
    rw [List.cons_append, word, if_pos rfl]
    exact ih

/-- A character that starts a number starts no other value. -/
theorem ne_of_startsNumber {c d : Char} (hc : c = '-' ∨ isDigit c = true)
    (hd : ¬ (d = '-' ∨ isDigit d = true)) : c ≠ d := by
  rintro rfl
  exact hd hc

theorem scalar_of_number {c : Char} (hc : c = '-' ∨ isDigit c = true) (cs : List Char) :
    scalar (c :: cs) = (Step.number (c :: cs)).map fun part => (.num part.1, part.2) := by
  have hn : c ≠ 'n' := ne_of_startsNumber hc (by decide)
  have ht : c ≠ 't' := ne_of_startsNumber hc (by decide)
  have hf : c ≠ 'f' := ne_of_startsNumber hc (by decide)
  have hquote : c ≠ '"' := ne_of_startsNumber hc (by decide)
  have hstart : (c = '-' || isDigit c) = true := by simpa using hc
  simp only [scalar, hstart, if_true, bind, Except.bind, pure, Except.pure]
  cases Step.number (c :: cs) <;> rfl

theorem scalar_number {c : Char} {cs rest : List Char} {n : Number}
    (hc : c = '-' ∨ isDigit c = true) (h : Step.number (c :: cs) = .ok (n, rest)) :
    scalar (c :: cs) = .ok (.num n, rest) := by
  rw [scalar_of_number hc, h]
  rfl

theorem isSpace_of_startsNumber {c : Char} (hc : c = '-' ∨ isDigit c = true) :
    isSpace c = false := by
  rcases hc with rfl | hc
  · decide
  · exact (startsValue_of_isDigit hc).no_space

theorem readValue_list {depth : Nat} {items : List Json}
    (hread : ∀ item ∈ items, ReadsBack stands (readValue depth) item) {blank cs : List Char}
    (hblank : IsBlank blank) (hitems : SpellsFrom stands true items cs) (rest : List Char) :
    readValue (depth + 1) (blank ++ '[' :: (cs ++ ']' :: rest)) =
      .ok ((Json.arr items).sorted, rest) := by
  have hbracket : isSpace '[' = false := by decide
  have hlist := readItems_append (forall₂_sortedItems hread) hitems
    (show cs.length < (cs ++ ']' :: rest).length by simp) [] rest
  simp only [readValue, skipSpace_blank hblank, skipSpace_cons hbracket, hlist, List.reverse_nil,
    List.nil_append, List.drop_one, List.tail_cons, sorted]

theorem readValue_object {depth : Nat} {members : List (String × Json)}
    (hread : ∀ member ∈ members, ReadsBack stands (readValue depth) member.2) {blank cs : List Char}
    (hblank : IsBlank blank) (hmembers : SpellsNamesFrom stands true members cs)
    (rest : List Char) :
    readValue (depth + 1) (blank ++ '\x7b' :: (cs ++ '\x7d' :: rest)) =
      .ok ((Json.obj members).sorted, rest) := by
  have hbrace : isSpace '\x7b' = false := by decide
  have hobject := readMembers_append (carries_readMember hread []) id hmembers
    (show cs.length < (cs ++ '\x7d' :: rest).length by simp) rest
  simp only [readValue, skipSpace_blank hblank, skipSpace_cons hbrace, hobject, List.drop_one,
    List.tail_cons, sorted]
  rfl

/-- A value is read back from each text that spells it, when the depth suffices and the literals
give its numbers. -/
theorem readsBack_readValue {allowed : Number → Prop}
    (hgives : ∀ l n, allowed n → stands l n → l.Gives n) {depth : Nat} {j : Json}
    (h : Within allowed depth j) : ReadsBack stands (readValue depth) j := by
  induction h with
  | null =>
    intro blank cs rest hblank hspelled hends
    cases hspelled
    rw [List.cons_append, readValue_scalar hblank (by decide) (by decide) (by decide)]
    simp only [scalar, word_append, bind, Except.bind, pure, Except.pure, sorted]
  | bool b =>
    intro blank cs rest hblank hspelled hends
    cases hspelled <;>
      rw [List.cons_append, readValue_scalar hblank (by decide) (by decide) (by decide)] <;>
      simp only [scalar, word_append, bind, Except.bind, pure, Except.pure, sorted]
  | num h =>
    intro blank cs rest hblank hspelled hends
    cases hspelled with
    | num htext hstands =>
      have hread := number_append htext (hgives _ _ h hstands) hends
      obtain ⟨c, cs, rfl, hc⟩ := htext.head
      have hspace := isSpace_of_startsNumber hc
      rw [List.cons_append] at hread ⊢
      rw [readValue_scalar hblank hspace (ne_of_startsNumber hc (by decide))
        (ne_of_startsNumber hc (by decide)), scalar_number hc hread, sorted]
  | str s =>
    intro blank cs rest hblank hspelled hends
    cases hspelled with
    | str htext =>
      obtain ⟨hchars⟩ := htext
      rw [List.cons_append, List.append_assoc, List.cons_append, List.nil_append,
        readValue_scalar hblank (by decide) (by decide) (by decide)]
      simp only [scalar, text_append hchars, bind, Except.bind, pure, Except.pure, sorted]
  | arr _ ih =>
    intro blank cs rest hblank hspelled hends
    cases hspelled with
    | arr hitems =>
      rw [List.cons_append, List.append_assoc, List.cons_append, List.nil_append,
        readValue_list ih hblank hitems]
  | obj _ ih =>
    intro blank cs rest hblank hspelled hends
    cases hspelled with
    | obj hmembers =>
      rw [List.cons_append, List.append_assoc, List.cons_append, List.nil_append,
        readValue_object ih hblank hmembers]

theorem IsBlank.endsNumber {blank : List Char} (h : IsBlank blank) : EndsNumber blank := by
  have hblank := endsNumber_blank h endsNumber_nil
  rwa [List.append_nil] at hblank

theorem IsBlank.skipSpace_eq {blank : List Char} (h : IsBlank blank) : skipSpace blank = [] := by
  have hblank := skipSpace_blank h []
  rwa [List.append_nil] at hblank

/-- A text that spells a value, with blanks around it, is read whole. -/
theorem ReadsFrom.whole_eq {α : Type} {read : Step α} {j : Json} {a : α}
    (h : ReadsFrom stands read j a) {cs lead trail : List Char} (hspelled : Spells stands j cs)
    (hlead : IsBlank lead) (htrail : IsBlank trail) :
    whole read (lead ++ (cs ++ trail)) = .ok a := by
  unfold whole
  rw [h lead cs trail hlead hspelled htrail.endsNumber]
  simp only [htrail.skipSpace_eq]

/-- A text that spells a value, with blanks around it, is read as the sorted value by a reader
that goes as deep as the value nests. -/
theorem whole_of_spells {depth : Nat} {j : Json} {cs lead trail : List Char}
    (hdepth : Within (fun _ => True) depth j) (h : Spells Literal.Gives j cs)
    (hlead : IsBlank lead) (htrail : IsBlank trail) :
    whole (readValue depth) (lead ++ (cs ++ trail)) = .ok j.sorted :=
  (readsBack_readValue (fun _ _ _ hgives => hgives) hdepth).whole_eq h hlead htrail

/-! ## What is written -/

theorem Number.IsExact.exists_literal {n : Number} (h : n.IsExact) :
    ∃ l : Literal, l.IsText n.text ∧ l.Gives n := by
  obtain ⟨i, rfl, hfits⟩ := h
  refine ⟨.ofInt i, Literal.isText_decimalInt i, ?_⟩
  apply Literal.gives_integer (Literal.integer?_ofInt i) hfits
  rintro rfl
  rfl

/-- A literal that keeps a number: it gives the number, if a document can hold that exactly. -/
def Literal.Keeps (l : Literal) (n : Number) : Prop := n.IsExact → l.Gives n

theorem Number.exists_keeping (n : Number) : ∃ l : Literal, l.IsText n.text ∧ l.Keeps n := by
  by_cases h : n.IsExact
  · obtain ⟨l, htext, hgives⟩ := h.exists_literal
    exact ⟨l, htext, fun _ => hgives⟩
  · obtain ⟨l, htext, -⟩ := n.exists_literal
    exact ⟨l, htext, fun hexact => absurd hexact h⟩

/-- Both texts of a value keep its exact numbers. -/
theorem write_keeps (j : Json) : Spells Literal.Keeps j j.write := by
  obtain ⟨depth, h⟩ := exists_within j
  exact spells_write (fun n _ => n.exists_keeping) h

theorem writeIndented_keeps (j : Json) (level : Nat) :
    Spells Literal.Keeps j (j.writeIndented level) := by
  obtain ⟨depth, h⟩ := exists_within j
  exact spells_writeIndented (fun n _ => n.exists_keeping) h level

/-- A reading gives a thing from each text that keeps the exact numbers of a value. -/
abbrev ReadsAs {α : Type} (read : Step α) (j : Json) (a : α) : Prop :=
  ReadsFrom Literal.Keeps read j a

/-- A value of exact numbers is read back, by a reader that goes as deep as the value nests. -/
theorem readsBack_exact {depth : Nat} {j : Json} (h : Within Number.IsExact depth j) :
    ReadsAs (readValue depth) j j.sorted :=
  readsBack_readValue (fun _ _ hexact hkeeps => hkeeps hexact) h

theorem whole_write {depth : Nat} {j : Json} (h : Within Number.IsExact depth j) :
    whole (readValue depth) j.write = .ok j.sorted := by
  have hread := (readsBack_exact h).whole_eq (write_keeps j) isBlank_nil isBlank_nil
  rw [List.nil_append, List.append_nil] at hread
  exact hread

theorem parse_compact {j : Json} (h : Within Number.IsExact greatestDepth j) :
    parse j.compact = .ok j.sorted := by
  rw [parse, compact, String.toList_ofList, whole_write h]

/-! ## Values of any depth -/

/-- A value that its text keeps exactly: it is one that a document may denote, and has no reals. -/
def IsExact (j : Json) : Prop := Canonical j ∧ ∃ depth, Within Number.IsExact depth j

theorem length_write_of_mem {item : Json} {items : List Json} (h : item ∈ items) :
    item.write.length ≤ (writeItems items).length := by
  induction items with
  | nil => cases h
  | cons first rest ih =>
    cases rest with
    | nil => simp only [List.mem_singleton.mp h, writeItems, Nat.le_refl]
    | cons next rest =>
      rw [writeItems, List.length_append, List.length_cons]
      rcases List.mem_cons.mp h with rfl | h
      · omega
      · have := ih h
        omega

theorem length_write_of_mem_members {member : String × Json} {members : List (String × Json)}
    (h : member ∈ members) : member.2.write.length ≤ (writeMembers members).length := by
  induction members with
  | nil => cases h
  | cons first rest ih =>
    obtain ⟨name, value⟩ := first
    cases rest with
    | nil =>
      rw [List.mem_singleton.mp h]
      simp only [writeMembers, List.length_append, List.length_cons]
      omega
    | cons next rest =>
      simp only [writeMembers, List.length_append, List.length_cons]
      rcases List.mem_cons.mp h with rfl | h
      · dsimp only
        omega
      · have := ih h
        omega

/-- A value nests no deeper than its text is long. -/
theorem Within.length_write {allowed : Number → Prop} {depth : Nat} {j : Json}
    (h : Within allowed depth j) : Within allowed j.write.length j := by
  induction h with
  | null => exact .null
  | bool b => exact .bool b
  | num h => exact .num h
  | str s => exact .str s
  | arr _ ih =>
    rw [write, List.length_append, List.length_cons]
    refine .arr fun item hitem => (ih item hitem).mono ?_
    have := length_write_of_mem hitem
    omega
  | obj _ ih =>
    rw [write, List.length_append, List.length_cons]
    refine .obj fun member hmember => (ih member hmember).mono ?_
    have := length_write_of_mem_members hmember
    omega

/-- An exact value is read back from its compact text by a reader that goes deep enough for every
text of that length. -/
theorem IsExact.read_compact {j : Json} (h : j.IsExact) {depth : Nat}
    (hdepth : j.compact.toList.length ≤ depth) :
    whole (readValue depth) j.compact.toList = .ok j := by
  obtain ⟨hcanonical, _, hwithin⟩ := h
  rw [compact, String.toList_ofList] at hdepth ⊢
  rw [whole_write (hwithin.length_write.mono hdepth), sorted_of_canonical hcanonical]

end ResultGateway.Json
