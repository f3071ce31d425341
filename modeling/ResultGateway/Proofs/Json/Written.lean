-- The writer keeps to the grammar. Both texts of a value, the compact one
-- and the indented one, spell it: integers exactly, and any other number
-- by some literal. The compact text stays on one line.
import ResultGateway.Json.Writer
import ResultGateway.Proofs.Json.NumberText

namespace ResultGateway.Json

/-! ## Texts in quotes -/

theorem char_of_hexDigits {c : Char} (h : c.toNat < 0x20) :
    hexWord? '0' '0' (Text.lowerHexDigit (c.toNat / 16)) (Text.lowerHexDigit c.toNat) =
      some c.toNat := by
  have hzero : Text.hexValue? '0' = some 0 := by decide
  unfold hexWord?
  simp only [hzero, Text.hexValue?_lowerHexDigit, Option.bind_eq_bind, Option.bind_some,
    Option.pure_def, Option.some.injEq]
  omega

/-- Each character is spelled by what it is written as. -/
theorem spellsChars_escapeChar {c : Char} {s cs : List Char} (h : SpellsChars s cs) :
    SpellsChars (c :: s) (escapeChar c ++ cs) := by
  unfold escapeChar
  split
  · exact .short rfl h
  · exact .short rfl h
  · exact .short rfl h
  · exact .short rfl h
  · exact .short rfl h
  · exact .short rfl h
  · exact .short rfl h
  · rename_i hquote hbackslash _ _ _ _ _
    split
    · rename_i hcontrol
      have hword := char_of_hexDigits hcontrol
      have hspelled := SpellsChars.word hword (by simp [isLowSurrogate]; omega)
        (by simp [isHighSurrogate]; omega) h
      rw [Char.ofNat_toNat] at hspelled
      exact hspelled
    · rename_i hcontrol
      exact .plain (Nat.le_of_not_lt hcontrol) hquote hbackslash h

theorem spellsText_writeText (s : String) : SpellsText s (writeText s) := by
  apply SpellsText.quoted
  generalize s.toList = cs
  induction cs with
  | nil => exact .nil
  | cons c cs ih => exact spellsChars_escapeChar ih

/-! ## Lists and objects -/

theorem isBlank_space : IsBlank [' '] := by
  intro c hc
  rw [List.mem_singleton.mp hc]
  rfl

theorem isBlank_newLine (depth : Nat) : IsBlank (newLine depth) := by
  intro c hc
  rcases List.mem_cons.mp hc with rfl | hc
  · rfl
  · rw [List.eq_of_mem_replicate hc]
    rfl

section

variable {stands : Literal → Number → Prop} {gap : List Char}

/-- Items that are laid out one after the other, with a comma and the same blanks between any two,
spell a list. -/
theorem spellsItems_laidOut (w : Json → List Char) (lay : List Json → List Char)
    (hgap : IsBlank gap) (hone : ∀ item, lay [item] = w item)
    (hmore : ∀ item next rest, lay (item :: next :: rest) =
      w item ++ ',' :: (gap ++ lay (next :: rest)))
    {lead trail : List Char} (hlead : IsBlank lead) (htrail : IsBlank trail) (item : Json)
    (rest : List Json) (h : ∀ other ∈ item :: rest, Spells stands other (w other)) :
    SpellsItems stands (item :: rest) (lead ++ (lay (item :: rest) ++ trail)) := by
  induction rest generalizing item lead with
  | nil =>
    rw [hone]
    exact .cons hlead (h item List.mem_cons_self) (.nil htrail)
  | cons next rest ih =>
    have hitems := ih hgap next fun other hother => h other (List.mem_cons_of_mem _ hother)
    rw [hmore, List.append_assoc, List.cons_append, List.append_assoc]
    refine .cons hlead (h item List.mem_cons_self) ?_
    exact SpellsMoreItems.cons isBlank_nil hitems

/-- The same for the members of an object, with blanks behind each colon. -/
theorem spellsMembers_laidOut (w : Json → List Char) (lay : List (String × Json) → List Char)
    {after : List Char} (hafter : IsBlank after) (hgap : IsBlank gap)
    (hone : ∀ name value, lay [(name, value)] = writeText name ++ ':' :: (after ++ w value))
    (hmore : ∀ name value next rest, lay ((name, value) :: next :: rest) =
      writeText name ++ ':' :: (after ++ (w value ++ ',' :: (gap ++ lay (next :: rest)))))
    {lead trail : List Char} (hlead : IsBlank lead) (htrail : IsBlank trail)
    (member : String × Json) (rest : List (String × Json))
    (h : ∀ other ∈ member :: rest, Spells stands other.2 (w other.2)) :
    SpellsMembers stands (member :: rest) (lead ++ (lay (member :: rest) ++ trail)) := by
  induction rest generalizing member lead with
  | nil =>
    obtain ⟨name, value⟩ := member
    rw [hone, List.append_assoc, List.cons_append, List.append_assoc]
    exact SpellsMembers.cons hlead (spellsText_writeText name) isBlank_nil hafter
      (h _ List.mem_cons_self) (.nil htrail)
  | cons next rest ih =>
    obtain ⟨name, value⟩ := member
    have hmembers := ih hgap next fun other hother => h other (List.mem_cons_of_mem _ hother)
    rw [hmore, List.append_assoc, List.cons_append, List.append_assoc, List.append_assoc,
      List.cons_append, List.append_assoc]
    exact SpellsMembers.cons hlead (spellsText_writeText name) isBlank_nil hafter
      (h _ List.mem_cons_self) (SpellsMoreMembers.cons isBlank_nil hmembers)

end

/-! ## Values -/

section

variable {allowed : Number → Prop} {stands : Literal → Number → Prop}

/-- The compact text of a value spells it, as far as the texts of its numbers do. -/
theorem spells_write (hnumber : ∀ n, allowed n → ∃ l : Literal, l.IsText n.text ∧ stands l n)
    {depth : Nat} {j : Json} (h : Within allowed depth j) : Spells stands j j.write := by
  induction h with
  | null => exact .null
  | bool b => cases b with
    | true => exact .true
    | false => exact .false
  | num h =>
    obtain ⟨l, htext, hstands⟩ := hnumber _ h
    exact .num htext hstands
  | str s => exact .str (spellsText_writeText s)
  | @arr _ items _ ih =>
    cases items with
    | nil => exact .arr (.nil isBlank_nil)
    | cons item rest =>
      have hitems := spellsItems_laidOut write writeItems isBlank_nil (fun _ => rfl)
        (fun _ _ _ => rfl) isBlank_nil isBlank_nil item rest ih
      rw [List.append_nil] at hitems
      exact .arr hitems
  | @obj _ members _ ih =>
    cases members with
    | nil => exact .obj (.nil isBlank_nil)
    | cons member rest =>
      have hmembers := spellsMembers_laidOut write writeMembers isBlank_nil isBlank_nil
        (fun _ _ => rfl) (fun _ _ _ _ => by simp [writeMembers]) isBlank_nil isBlank_nil member rest ih
      rw [List.append_nil] at hmembers
      exact .obj hmembers

/-- So does its indented text, wherever it stands. -/
theorem spells_writeIndented
    (hnumber : ∀ n, allowed n → ∃ l : Literal, l.IsText n.text ∧ stands l n)
    {depth : Nat} {j : Json} (h : Within allowed depth j) (level : Nat) :
    Spells stands j (j.writeIndented level) := by
  induction h generalizing level with
  | null => exact .null
  | bool b => cases b with
    | true => exact .true
    | false => exact .false
  | num h =>
    obtain ⟨l, htext, hstands⟩ := hnumber _ h
    exact .num htext hstands
  | str s => exact .str (spellsText_writeText s)
  | @arr _ items _ ih =>
    cases items with
    | nil => exact .arr (.nil isBlank_nil)
    | cons item rest =>
      have hitems := spellsItems_laidOut (writeIndented (level + 1))
        (writeIndentedItems (level + 1)) (isBlank_newLine (level + 1))
        (fun _ => rfl) (fun _ _ _ => by simp [writeIndentedItems]) (isBlank_newLine (level + 1))
        (isBlank_newLine level) item rest fun other hother => ih other hother (level + 1)
      rw [← List.append_assoc] at hitems
      exact .arr hitems
  | @obj _ members _ ih =>
    cases members with
    | nil => exact .obj (.nil isBlank_nil)
    | cons member rest =>
      have hmembers := spellsMembers_laidOut (writeIndented (level + 1))
        (writeIndentedMembers (level + 1)) isBlank_space
        (isBlank_newLine (level + 1)) (fun _ _ => rfl)
        (fun _ _ _ _ => by simp [writeIndentedMembers]) (isBlank_newLine (level + 1))
        (isBlank_newLine level) member rest
        fun other hother => ih other hother (level + 1)
      rw [← List.append_assoc] at hmembers
      exact .obj hmembers

end

/-! ## One line -/

/-- The characters of a number: digits, signs, a point and the mark of an exponent. -/
theorem Literal.IsText.forall_mem {P : Char → Prop} (hdigit : ∀ c, Text.isDigit c = true → P c)
    (hmark : ∀ c, isExponentMark c = true → P c) (hpoint : P '.') (hminus : P '-') (hplus : P '+')
    {l : Literal} {cs : List Char} (h : l.IsText cs) : ∀ c ∈ cs, P c := by
  have hdigits : ∀ ds : List Char, (∀ d ∈ ds, Text.isDigit d = true) → ∀ c ∈ ds, P c :=
    fun ds hall c hc => hdigit c (hall c hc)
  obtain ⟨hwhole, hfraction, hexponent⟩ := h
  rename_i negative whole fraction f e exponent
  have hsign : ∀ c ∈ minusText negative, P c := by
    cases negative with
    | false => exact List.forall_mem_nil P
    | true => exact List.forall_mem_singleton.mpr hminus
  have hwhole : ∀ c ∈ whole, P c := by
    cases hwhole with
    | zero => exact List.forall_mem_singleton.mpr (hdigit '0' (by decide))
    | digits _ hall => exact hdigits _ hall
  have hfraction : ∀ c ∈ f, P c := by
    cases hfraction with
    | none => exact List.forall_mem_nil P
    | digits _ hall => exact List.forall_mem_cons.mpr ⟨hpoint, hdigits _ hall⟩
  have hexponent : ∀ c ∈ e, P c := by
    cases hexponent with
    | none => exact List.forall_mem_nil P
    | digits marked signed _ hall =>
      refine List.forall_mem_cons.mpr
        ⟨hmark _ marked, List.forall_mem_append.mpr ⟨?_, hdigits _ hall⟩⟩
      cases signed with
      | none => exact List.forall_mem_nil P
      | plus => exact List.forall_mem_singleton.mpr hplus
      | minus => exact List.forall_mem_singleton.mpr hminus
  simp only [List.forall_mem_append]
  exact ⟨hsign, hwhole, hfraction, hexponent⟩

theorem Literal.IsText.no_newline {l : Literal} {cs : List Char} (h : l.IsText cs) :
    '\n' ∉ cs := by
  intro hmem
  refine h.forall_mem (P := (· ≠ '\n')) ?_ ?_ (by decide) (by decide) (by decide) '\n' hmem rfl
  · rintro c hc rfl
    exact absurd hc (by decide)
  · rintro c hc rfl
    exact absurd hc (by decide)

theorem newline_not_mem_escapeChar (c : Char) : '\n' ∉ escapeChar c := by
  have hhex : ∀ d, '\n' ≠ Text.lowerHexDigit d := by
    intro d heq
    have hvalue := Text.hexValue?_lowerHexDigit d
    rw [← heq] at hvalue
    revert hvalue
    have hnone : Text.hexValue? '\n' = none := by decide
    rw [hnone]
    exact fun h => nomatch h
  unfold escapeChar
  split
  · decide
  · decide
  · decide
  · decide
  · decide
  · decide
  · decide
  · rename_i hnewline _ _
    split
    · simp [hhex]
    · exact fun hmem => hnewline (List.mem_singleton.mp hmem).symm

theorem newline_not_mem_writeText (s : String) : '\n' ∉ writeText s := by
  simp [writeText, newline_not_mem_escapeChar]

theorem newline_not_mem_writeItems {items : List Json} (h : ∀ item ∈ items, '\n' ∉ item.write) :
    '\n' ∉ writeItems items := by
  induction items with
  | nil => exact List.not_mem_nil
  | cons item rest ih =>
    have hitem := h item List.mem_cons_self
    have hrest := ih fun other hother => h other (List.mem_cons_of_mem _ hother)
    cases rest with
    | nil => exact hitem
    | cons next rest => simp [writeItems, hitem, hrest]

theorem newline_not_mem_writeMembers {members : List (String × Json)}
    (h : ∀ member ∈ members, '\n' ∉ member.2.write) : '\n' ∉ writeMembers members := by
  induction members with
  | nil => exact List.not_mem_nil
  | cons member rest ih =>
    obtain ⟨name, value⟩ := member
    have hname := newline_not_mem_writeText name
    have hvalue : '\n' ∉ value.write := h (name, value) List.mem_cons_self
    have hrest := ih fun other hother => h other (List.mem_cons_of_mem _ hother)
    cases rest with
    | nil => simp [writeMembers, hname, hvalue]
    | cons next rest => simp [writeMembers, hname, hvalue, hrest]

/-- The compact text of a value is one line, whatever its texts hold. -/
theorem newline_not_mem_write (j : Json) : '\n' ∉ j.write := by
  obtain ⟨depth, h⟩ := exists_within j
  induction h with
  | null => decide
  | bool b => cases b <;> decide
  | @num _ n _ =>
    obtain ⟨l, htext, -⟩ := n.exists_literal
    exact htext.no_newline
  | str s => exact newline_not_mem_writeText s
  | arr _ ih => simp [write, newline_not_mem_writeItems ih]
  | obj _ ih => simp [write, newline_not_mem_writeMembers ih]

end ResultGateway.Json
