-- The form of JSON texts, whatever they mean. A text has the form of a value
-- at any depth, with numbers of any size, and with texts in quotes that need
-- not be texts: surrogates in them need not pair. Each text that spells a
-- value has the form of one.
import ResultGateway.Proofs.Json.ReadBack

namespace ResultGateway.Json

/-! ## Parts with commas -/

/-- What stands before a part: blanks, and a comma between them unless the part is the first. -/
inductive IsLead : Bool → List Char → Prop where
  | first {blank : List Char} (h : IsBlank blank) : IsLead true blank
  | later {before blank : List Char} (hbefore : IsBlank before) (h : IsBlank blank) :
      IsLead false (before ++ ',' :: blank)

/-- Parts with a comma between any two and blanks around each, from the first part on or from
behind a part on. -/
inductive IsLaid : Bool → List (List Char) → List Char → Prop where
  | nil {first : Bool} {blank : List Char} (h : IsBlank blank) : IsLaid first [] blank
  | cons {first : Bool} {part lead cs : List Char} {parts : List (List Char)}
      (h : IsLead first lead) (more : IsLaid false parts cs) :
      IsLaid first (part :: parts) (lead ++ (part ++ cs))

theorem isBlank_of_isLaid {first : Bool} {cs : List Char} (h : IsLaid first [] cs) :
    IsBlank cs := by
  cases h with
  | nil hblank => exact hblank

/-- What follows a part ends a number. -/
theorem IsLaid.endsNumber {parts : List (List Char)} {cs : List Char}
    (h : IsLaid false parts cs) {close : Char} (hclose : close = ']' ∨ close = '\x7d')
    (rest : List Char) : EndsNumber (cs ++ close :: rest) := by
  cases h with
  | nil hblank =>
    refine endsNumber_blank hblank ?_
    rcases hclose with rfl | rfl <;> exact endsNumber_cons (by decide) (by decide) (by decide)
  | cons hlead =>
    cases hlead with
    | later hbefore =>
      rw [List.append_assoc, List.append_assoc]
      exact endsNumber_blank hbefore (endsNumber_cons (by decide) (by decide) (by decide))

/-! ## Members -/

/-- The parts of the text of a member: what stands between the quotes of its name, the blanks
around its colon, and its value. -/
structure MemberText where
  name : List Char
  before : List Char
  after : List Char
  value : List Char

def MemberText.text (m : MemberText) : List Char :=
  '"' :: (m.name ++ '"' :: (m.before ++ ':' :: (m.after ++ m.value)))

/-- Nothing but blanks stands around the colon. -/
structure MemberText.IsSpaced (m : MemberText) : Prop where
  before : IsBlank m.before
  after : IsBlank m.after

/-! ## Values -/

/-- What stands between quotes, with surrogates that need not pair. -/
inductive IsChars : List Char → Prop where
  | nil : IsChars []
  | plain {c : Char} {cs : List Char} (no_control : 0x20 ≤ c.toNat) (no_quote : c ≠ '"')
      (no_backslash : c ≠ '\\') (rest : IsChars cs) : IsChars (c :: cs)
  | short {c e : Char} {cs : List Char} (escape : shortEscape? c = some e) (rest : IsChars cs) :
      IsChars ('\\' :: c :: cs)
  | word {a b c d : Char} {n : Nat} {cs : List Char} (escape : hexWord? a b c d = some n)
      (rest : IsChars cs) : IsChars ('\\' :: 'u' :: a :: b :: c :: d :: cs)

/-- A text with the form of a value. -/
inductive HasForm : List Char → Prop where
  | null : HasForm ['n', 'u', 'l', 'l']
  | true : HasForm ['t', 'r', 'u', 'e']
  | false : HasForm ['f', 'a', 'l', 's', 'e']
  | number {l : Literal} {cs : List Char} (text : l.IsText cs) : HasForm cs
  | text {cs : List Char} (h : IsChars cs) : HasForm ('"' :: (cs ++ ['"']))
  | list {parts : List (List Char)} {cs : List Char} (h : ∀ part ∈ parts, HasForm part)
      (laid : IsLaid true parts cs) : HasForm ('[' :: (cs ++ [']']))
  | object {members : List MemberText} {cs : List Char}
      (named : ∀ m ∈ members, IsChars m.name) (spaced : ∀ m ∈ members, m.IsSpaced)
      (h : ∀ m ∈ members, HasForm m.value)
      (laid : IsLaid true (members.map MemberText.text) cs) : HasForm ('\x7b' :: (cs ++ ['\x7d']))

/-- A member with quotes around its name, and with a value of some form. -/
structure MemberText.IsFormed (m : MemberText) : Prop where
  name : IsChars m.name
  spaced : m.IsSpaced
  value : HasForm m.value

theorem hasForm_object {members : List MemberText} {cs : List Char}
    (h : ∀ m ∈ members, m.IsFormed) (laid : IsLaid true (members.map MemberText.text) cs) :
    HasForm ('\x7b' :: (cs ++ ['\x7d'])) :=
  .object (fun m hm => (h m hm).name) (fun m hm => (h m hm).spaced) (fun m hm => (h m hm).value)
    laid

theorem HasForm.head {v : List Char} (h : HasForm v) :
    ∃ c cs, v = c :: cs ∧ StartsValue c := by
  cases h with
  | number text =>
    obtain ⟨c, cs, rfl, hc⟩ := text.head
    exact ⟨c, cs, rfl, isSpace_of_startsNumber hc, ne_of_startsNumber hc (by decide)⟩
  | _ => exact ⟨_, _, rfl, by decide, by decide⟩

theorem HasForm.length_pos {v : List Char} (h : HasForm v) : 0 < v.length := by
  obtain ⟨c, cs, rfl, -⟩ := h.head
  exact Nat.succ_pos _

/-! ## Texts that spell values -/

theorem isChars_of_spells {s cs : List Char} (h : SpellsChars s cs) : IsChars cs := by
  induction h with
  | nil => exact .nil
  | plain hcontrol hquote hbackslash _ ih => exact .plain hcontrol hquote hbackslash ih
  | short hescape _ ih => exact .short hescape ih
  | word hescape _ _ _ ih => exact .word hescape ih
  | pair hfirst _ hsecond _ _ ih => exact .word hfirst (.word hsecond ih)

theorem hasForm_text {s : String} {cs : List Char} (h : SpellsText s cs) : HasForm cs := by
  obtain ⟨hchars⟩ := h
  exact .text (isChars_of_spells hchars)

/-- A member that is spelled has its parts in its text. -/
theorem exists_memberText {name : String} {n before after v : List Char}
    (hnamed : SpellsText name n) (hbefore : IsBlank before) (hafter : IsBlank after) :
    ∃ m : MemberText, SpellsChars name.toList m.name ∧ m.IsSpaced ∧ m.value = v ∧
      ∀ cs, n ++ (before ++ ':' :: (after ++ (v ++ cs))) = m.text ++ cs := by
  obtain ⟨hchars⟩ := hnamed
  refine ⟨⟨_, before, after, v⟩, hchars, ⟨hbefore, hafter⟩, rfl, fun cs => ?_⟩
  simp only [MemberText.text, List.cons_append, List.append_assoc, List.nil_append]

section

variable {stands : Literal → Number → Prop}

mutual

/-- A text that spells a value has the form of one. -/
theorem hasForm_of_spells {j : Json} {cs : List Char} : Spells stands j cs → HasForm cs
  | .null => .null
  | .true => .true
  | .false => .false
  | .num text _ => .number text
  | .str h => hasForm_text h
  | .arr h =>
    have ⟨_, hforms, laid⟩ := isLaid_of_spellsItems h
    .list hforms laid
  | .obj h =>
    have ⟨_, hformed, laid⟩ := isLaid_of_spellsMembers h
    hasForm_object hformed laid

theorem isLaid_of_spellsItems {items : List Json} {cs : List Char} :
    SpellsItems stands items cs → ∃ parts, (∀ part ∈ parts, HasForm part) ∧ IsLaid true parts cs
  | .nil h => ⟨[], List.forall_mem_nil _, .nil h⟩
  | .cons h value more =>
    have ⟨_, hforms, laid⟩ := isLaid_of_spellsMoreItems more
    ⟨_ :: _, List.forall_mem_cons.mpr ⟨hasForm_of_spells value, hforms⟩, .cons (.first h) laid⟩

theorem isLaid_of_spellsMoreItems {items : List Json} {cs : List Char} :
    SpellsMoreItems stands items cs →
      ∃ parts, (∀ part ∈ parts, HasForm part) ∧ IsLaid false parts cs
  | .nil h => ⟨[], List.forall_mem_nil _, .nil h⟩
  | .cons h (.cons hblank value more) =>
    have ⟨_, hforms, laid⟩ := isLaid_of_spellsMoreItems more
    ⟨_ :: _, List.forall_mem_cons.mpr ⟨hasForm_of_spells value, hforms⟩,
      by simpa using IsLaid.cons (.later h hblank) laid⟩

theorem isLaid_of_spellsMembers {members : List (String × Json)} {cs : List Char} :
    SpellsMembers stands members cs → ∃ parts : List MemberText,
      (∀ m ∈ parts, m.IsFormed) ∧ IsLaid true (parts.map MemberText.text) cs
  | .nil h => ⟨[], List.forall_mem_nil _, .nil h⟩
  | .cons h named hbefore hafter value more =>
    have ⟨parts, hformed, laid⟩ := isLaid_of_spellsMoreMembers more
    have ⟨m, hname, hspaced, hvalue, htext⟩ := exists_memberText named hbefore hafter
    ⟨m :: parts, List.forall_mem_cons.mpr
      ⟨⟨isChars_of_spells hname, hspaced, hvalue ▸ hasForm_of_spells value⟩, hformed⟩,
      htext _ ▸ .cons (.first h) laid⟩

theorem isLaid_of_spellsMoreMembers {members : List (String × Json)} {cs : List Char} :
    SpellsMoreMembers stands members cs → ∃ parts : List MemberText,
      (∀ m ∈ parts, m.IsFormed) ∧ IsLaid false (parts.map MemberText.text) cs
  | .nil h => ⟨[], List.forall_mem_nil _, .nil h⟩
  | .cons h (.cons hblank named hbefore hafter value more) =>
    have ⟨parts, hformed, laid⟩ := isLaid_of_spellsMoreMembers more
    have ⟨m, hname, hspaced, hvalue, htext⟩ := exists_memberText named hbefore hafter
    ⟨m :: parts, List.forall_mem_cons.mpr
      ⟨⟨isChars_of_spells hname, hspaced, hvalue ▸ hasForm_of_spells value⟩, hformed⟩,
      by simpa [htext] using IsLaid.cons (.later h hblank) laid⟩

end

end

end ResultGateway.Json
