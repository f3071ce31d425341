-- Which texts a reader takes, and no others. A reader that takes exactly the
-- texts of its things takes exactly the lists of such texts as a list, and
-- whole texts with nothing but blanks around one of them.
import ResultGateway.Proofs.Json.Shapes
import ResultGateway.Proofs.Json.SkippedForms

namespace ResultGateway.Json

/-! ## Exact readings -/

/-- A reading takes off the front of a text some blanks and a text of a thing, and gives that
thing, and every text of a thing is taken so. -/
structure ReadsTexts {α : Type} (read : Step α) (texts : α → List Char → Prop) : Prop where
  takes : ∀ {a v}, texts a v → ∀ blank rest, IsBlank blank →
    read (blank ++ (v ++ rest)) = .ok (a, rest)
  only : ∀ {cs a rest}, read cs = .ok (a, rest) →
    ∃ blank v, IsBlank blank ∧ texts a v ∧ cs = blank ++ (v ++ rest)
  form : ∀ {a v}, texts a v → HasForm v

theorem readsTexts_text (depth : Nat) : ReadsTexts (Reader.text depth) SpellsText where
  takes htext _ rest hblank := readText_append htext hblank depth rest
  only := by
    intro cs s rest h
    obtain ⟨blank, hblank, hcs⟩ := exists_blank cs
    unfold Reader.text at h
    split at h
    · rename_i hquote
      obtain ⟨chars, hchars, rfl⟩ := text_spelled h
      refine ⟨blank, _, hblank, .quoted hchars, ?_⟩
      rw [hcs, hquote, List.cons_append, List.append_assoc, List.singleton_append]
    · cases h
  form := hasForm_text

/-! ## Lists -/

/-- The texts of a list, from the texts of its things. -/
inductive IsListText {α : Type} (texts : α → List Char → Prop) : List α → List Char → Prop where
  | items {things : List α} {parts : List (List Char)} {cs : List Char}
      (h : List.Forall₂ texts things parts) (laid : IsLaid true parts cs) :
      IsListText texts things ('[' :: (cs ++ [']']))

theorem nextItem_lead {first : Bool} {lead v : List Char} (h : IsLead first lead) (hv : HasForm v)
    (rest : List Char) : nextItem first (lead ++ (v ++ rest)) = .ok (true, v ++ rest) := by
  obtain ⟨c, v, rfl, hc⟩ := hv.head
  rw [List.cons_append]
  cases h with
  | first hblank => exact nextItem_first hblank hc _
  | later hbefore hblank =>
    rw [List.append_assoc, List.cons_append]
    exact nextItem_comma hbefore hblank hc _

section

variable {α : Type} {read : Step α} {texts : α → List Char → Prop} (h : ReadsTexts read texts)

include h

theorem ReadsTexts.takes_front {a : α} {v : List Char} (hv : texts a v) (rest : List Char) :
    read (v ++ rest) = .ok (a, rest) := h.takes hv [] rest isBlank_nil

theorem ReadsTexts.readItems_takes {things : List α} {parts : List (List Char)}
    (hparts : List.Forall₂ texts things parts) {first : Bool} {cs : List Char}
    (hlaid : IsLaid first parts cs) {fuel : List Char} (hfuel : cs.length < fuel.length)
    (found : List α) (rest : List Char) : readItems read fuel first found (cs ++ ']' :: rest) =
      .ok (found.reverse ++ things, ']' :: rest) := by
  -- On the things: each part has a character at least, so the fuel lasts.
  induction hparts generalizing first cs fuel found with
  | nil =>
    obtain ⟨f, fuel, rfl⟩ := List.exists_cons_of_length_pos (Nat.zero_lt_of_lt hfuel)
    rw [readItems, nextItem_end (isBlank_of_isLaid hlaid)]
    simp
  | cons hitem _ ih =>
    obtain ⟨f, fuel, rfl⟩ := List.exists_cons_of_length_pos (Nat.zero_lt_of_lt hfuel)
    cases hlaid with
    | cons hlead hmore =>
      have hform := h.form hitem
      have hlength := hform.length_pos
      simp only [List.length_append, List.length_cons] at hfuel
      rw [List.append_assoc, List.append_assoc, readItems, nextItem_lead hlead hform]
      simp only [h.takes_front hitem]
      rw [ih hmore (by omega), List.reverse_cons, List.append_assoc]
      rfl

theorem ReadsTexts.readItems_only {fuel : List Char} {first : Bool} {found things : List α}
    {cs rest : List Char} (hread : readItems read fuel first found cs = .ok (things, rest)) :
    ∃ later parts inside tail, List.Forall₂ texts later parts ∧ IsLaid first parts inside ∧
      cs = inside ++ rest ∧ rest = ']' :: tail ∧ things = found.reverse ++ later := by
  -- On the fuel: each round finds what stands before a part, and then the part.
  induction fuel generalizing first found cs with
  | nil => cases hread
  | cons f fuel ih =>
    rw [readItems] at hread
    split at hread
    · cases hread
    · rename_i hnext
      cases hread
      obtain ⟨blank, tail, hblank, hcs, hrest⟩ := nextItem_end_spelled hnext
      exact ⟨[], [], blank, tail, .nil, .nil hblank, hcs, hrest, (List.append_nil _).symm⟩
    · rename_i more hnext
      obtain ⟨lead, hlead, hcs⟩ := nextItem_spelled hnext
      split at hread
      · cases hread
      · rename_i thing behind hitem
        obtain ⟨blank, v, hblank, hv, hmore⟩ := h.only hitem
        obtain ⟨later, parts, inside, tail, hlater, hlaid, hinside, hrest, hthings⟩ := ih hread
        refine ⟨thing :: later, v :: parts, (lead ++ blank) ++ (v ++ inside), tail,
          .cons hv hlater, .cons (hlead.blank hblank) hlaid, ?_, hrest, ?_⟩
        · rw [hcs, hmore, hinside]
          simp only [List.append_assoc]
        · rw [hthings, List.reverse_cons, List.append_assoc, List.singleton_append]

end

theorem exists_of_forall₂ {α β : Type} {R : α → β → Prop} {as : List α} {bs : List β}
    (h : List.Forall₂ R as bs) {b : β} (hb : b ∈ bs) : ∃ a ∈ as, R a b := by
  induction h with
  | nil => cases hb
  | cons hfirst _ ih =>
    rcases List.mem_cons.mp hb with rfl | hb
    · exact ⟨_, List.mem_cons_self, hfirst⟩
    · obtain ⟨a, ha, hab⟩ := ih hb
      exact ⟨a, List.mem_cons_of_mem _ ha, hab⟩

theorem ReadsTexts.list {α : Type} {read : Reader α} {depth : Nat} {texts : α → List Char → Prop}
    (h : ReadsTexts (read depth) texts) :
    ReadsTexts (Reader.list read (depth + 1)) (IsListText texts) where
  takes := by
    rintro things _ ⟨hparts, hlaid⟩ blank rest hblank
    rename_i parts cs
    have hbracket : isSpace '[' = false := by decide
    have hread := h.readItems_takes hparts hlaid
      (show cs.length < (cs ++ ']' :: rest).length by simp) [] rest
    rw [List.cons_append, List.append_assoc, List.cons_append, List.nil_append]
    simp only [Reader.list, skipSpace_blank hblank, skipSpace_cons hbracket, hread, bind,
      Except.bind, pure, Except.pure, List.reverse_nil, List.nil_append, List.drop_one,
      List.tail_cons]
  only := by
    intro cs things rest hread
    obtain ⟨blank, hblank, hcs⟩ := exists_blank cs
    unfold Reader.list at hread
    split at hread
    · rename_i hbracket
      simp only [bind, Except.bind, pure, Except.pure] at hread
      split at hread
      · cases hread
      · rename_i part hitems
        obtain ⟨found, behind⟩ := part
        cases hread
        obtain ⟨later, parts, inside, tail, hparts, hlaid, rfl, rfl, rfl⟩ :=
          h.readItems_only hitems
        refine ⟨blank, _, hblank, .items hparts hlaid, ?_⟩
        rw [hcs, hbracket]
        simp
    · cases hread
  form := by
    rintro things _ ⟨hparts, hlaid⟩
    refine .list (fun part hpart => ?_) hlaid
    obtain ⟨thing, -, htext⟩ := exists_of_forall₂ hparts hpart
    exact h.form htext

/-! ## Whole texts -/

/-- A text of a thing, with blanks around it. -/
def IsAlone {α : Type} (texts : α → List Char → Prop) (a : α) (text : String) : Prop :=
  ∃ lead v trail, IsBlank lead ∧ IsBlank trail ∧ texts a v ∧ text.toList = lead ++ (v ++ trail)

/-- A reader takes a whole text if and only if this is a text of what it reads. -/
theorem ReadsTexts.decode_eq_ok {α : Type} {read : Reader α} {texts : α → List Char → Prop}
    (h : ReadsTexts (read greatestDepth) texts) {text : String} {a : α} :
    read.decode text = .ok a ↔ IsAlone texts a text := by
  unfold Reader.decode IsAlone
  rw [whole_eq_ok]
  constructor
  · rintro ⟨trail, hread, hend⟩
    obtain ⟨lead, v, hlead, hv, htext⟩ := h.only hread
    obtain ⟨blank, hblank, htrail⟩ := exists_blank trail
    rw [hend, List.append_nil] at htrail
    exact ⟨lead, v, trail, hlead, htrail ▸ hblank, hv, htext⟩
  · rintro ⟨lead, v, trail, hlead, htrail, hv, htext⟩
    rw [htext]
    exact ⟨trail, h.takes hv lead trail hlead, htrail.skipSpace_eq⟩

end ResultGateway.Json
