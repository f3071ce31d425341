-- The number that stands for a port. The trimmed value of the variable is
-- a numeral: digits with at most one plus sign before them. Its number is
-- the sum of its digits by their places, however many there are. Read digit
-- by digit in sixteen bits, the number never wraps: a prefix has its own
-- number, or the reading has stopped.
import Mathlib.Data.List.Induction
import Mathlib.Data.Nat.Digits.Defs
import ResultGateway.Proofs.Settings
import ResultGateway.Proofs.Text.Decimal

namespace ResultGateway.Settings

open Text (digitValue isDigit ofDigits trim)

/-! ## Numerals -/

/-- The sum of digits, each times the weight of its place. -/
def placeValue (digits : List Char) : Nat := Nat.ofDigits 10 (digits.reverse.map digitValue)

/-- Digits with at most one plus sign before them. -/
structure IsNumeral (digits cs : List Char) : Prop where
  sign : cs = digits ∨ cs = '+' :: digits
  some_digit : digits ≠ []
  all_digits : ∀ c ∈ digits, isDigit c = true

/-- A numeral of a number from 1 to 65535. -/
def SpellsPort (port : Nat) (cs : List Char) : Prop :=
  ∃ digits, IsNumeral digits cs ∧ placeValue digits = port ∧ 1 ≤ port ∧ port ≤ 65535

theorem placeValue_eq (digits : List Char) : placeValue digits = ofDigits digits := by
  induction digits using List.reverseRecOn with
  | nil => rfl
  | append_singleton digits c ih =>
    rw [Text.ofDigits_append, ← ih]
    unfold placeValue
    rw [List.reverse_concat, List.map_cons, Nat.ofDigits_cons]
    exact Nat.add_comm _ _

theorem spellsPort_iff {port : Nat} {cs : List Char} : SpellsPort port cs ↔ IsPort port cs := by
  constructor
  · rintro ⟨digits, ⟨hsign, hsome, hall⟩, hvalue, hlow, hhigh⟩
    rw [placeValue_eq] at hvalue
    rcases hsign with rfl | rfl
    · exact .digits _ hsome hall hvalue hlow hhigh
    · exact .signed _ hsome hall hvalue hlow hhigh
  · intro h
    cases h with
    | digits _ hsome hall hvalue hlow hhigh =>
      exact ⟨_, ⟨.inl rfl, hsome, hall⟩, (placeValue_eq _).trans hvalue, hlow, hhigh⟩
    | signed digits hsome hall hvalue hlow hhigh =>
      exact ⟨digits, ⟨.inr rfl, hsome, hall⟩, (placeValue_eq _).trans hvalue, hlow, hhigh⟩

/-- A text is a numeral of one run of digits only, since a plus sign is no digit. -/
theorem IsNumeral.portNumber? {digits cs : List Char} (h : IsNumeral digits cs) :
    portNumber? cs = if greatestPort < ofDigits digits then none else some (ofDigits digits) := by
  obtain ⟨hsign, hsome, hall⟩ := h
  have hempty : digits.isEmpty = false := by simpa using hsome
  have hdigits : digits.all isDigit = true := List.all_eq_true.mpr hall
  rcases hsign with rfl | rfl
  · obtain ⟨c, rest, rfl⟩ := List.exists_cons_of_ne_nil hsome
    have hplus : c ≠ '+' := by
      rintro rfl
      exact absurd (hall '+' List.mem_cons_self) (by decide)
    unfold Settings.portNumber?
    split
    · rename_i heq
      exact absurd (List.cons.inj heq).1 hplus
    · simp [hempty, hdigits]
  · simp [Settings.portNumber?, hempty, hdigits]

/-! ## Reading in sixteen bits -/

/-- A number with one more digit behind it, when neither the product nor the sum leaves sixteen
bits. -/
def pushDigit (n : UInt16) (c : Char) : Option UInt16 :=
  if isDigit c && 10 * n.toNat < 65536 && (10 * n).toNat + digitValue c < 65536 then
    some (10 * n + UInt16.ofNat (digitValue c))
  else none

/-- The number of a run of digits, which are read one by one. -/
def word? (digits : List Char) : Option UInt16 := digits.foldlM pushDigit 0

theorem pushDigit_eq_some {n m : UInt16} {c : Char} : pushDigit n c = some m ↔
    isDigit c = true ∧ 10 * n.toNat + digitValue c = m.toNat := by
  have hm : m.toNat < 65536 := m.toNat_lt
  unfold pushDigit
  by_cases hproduct : 10 * n.toNat < 65536
  · have hten : (10 * n).toNat = 10 * n.toNat := by
      rw [UInt16.toNat_mul]
      exact Nat.mod_eq_of_lt hproduct
    by_cases hsum : 10 * n.toNat + digitValue c < 65536
    · have hstep : (10 * n + UInt16.ofNat (digitValue c)).toNat =
          10 * n.toNat + digitValue c := by
        rw [UInt16.toNat_add, hten, UInt16.toNat_ofNat', Nat.add_mod_mod]
        exact Nat.mod_eq_of_lt hsum
      simp only [hten, hproduct, hsum, decide_true, Bool.and_true]
      split
      · rename_i hdigit
        rw [Option.some.injEq, ← UInt16.toNat_inj, hstep]
        simp [hdigit]
      · rename_i hdigit
        simp [hdigit]
    · simp only [hten, hsum, decide_false, Bool.and_false, Bool.false_eq_true, if_false,
        reduceCtorEq, false_iff, not_and]
      omega
  · simp only [hproduct, decide_false, Bool.and_false, Bool.false_and, Bool.false_eq_true, if_false,
      reduceCtorEq, false_iff, not_and]
    omega

theorem le_foldl (n : Nat) (digits : List Char) :
    n ≤ digits.foldl (fun n c => 10 * n + digitValue c) n := by
  induction digits generalizing n with
  | nil => exact Nat.le_refl n
  | cons c digits ih =>
    have hstep : n ≤ 10 * n + digitValue c := by omega
    exact Nat.le_trans hstep (ih _)

theorem foldlM_pushDigit {digits : List Char} {n m : UInt16} :
    digits.foldlM pushDigit n = some m ↔ (∀ c ∈ digits, isDigit c = true) ∧
      digits.foldl (fun n c => 10 * n + digitValue c) n.toNat = m.toNat := by
  induction digits generalizing n with
  | nil => simp [UInt16.toNat_inj]
  | cons c digits ih =>
    rw [List.foldlM_cons, Option.bind_eq_bind, Option.bind_eq_some_iff, List.forall_mem_cons,
      List.foldl_cons]
    constructor
    · rintro ⟨next, hnext, hrest⟩
      obtain ⟨hdigit, hvalue⟩ := pushDigit_eq_some.mp hnext
      obtain ⟨hall, hnumber⟩ := ih.mp hrest
      exact ⟨⟨hdigit, hall⟩, hvalue ▸ hnumber⟩
    · rintro ⟨⟨hdigit, hall⟩, hnumber⟩
      -- What is read later only makes the number larger, so it fits already here.
      have hfits : 10 * n.toNat + digitValue c < 65536 :=
        Nat.lt_of_le_of_lt (hnumber ▸ le_foldl _ digits) m.toNat_lt
      have hvalue : (UInt16.ofNat (10 * n.toNat + digitValue c)).toNat =
          10 * n.toNat + digitValue c := by
        rw [UInt16.toNat_ofNat']
        exact Nat.mod_eq_of_lt hfits
      refine ⟨_, pushDigit_eq_some.mpr ⟨hdigit, hvalue.symm⟩, ih.mpr ⟨hall, ?_⟩⟩
      rw [hvalue]
      exact hnumber

/-- A number that is read in sixteen bits is that of all digits, and any that fits is read. -/
theorem word?_eq_some {digits : List Char} {n : UInt16} : word? digits = some n ↔
    (∀ c ∈ digits, isDigit c = true) ∧ placeValue digits = n.toNat := by
  rw [placeValue_eq]
  exact foldlM_pushDigit

/-- The number of a port is the one that is read in sixteen bits. -/
theorem IsNumeral.portNumber?_eq_word? {digits cs : List Char} (h : IsNumeral digits cs) :
    Settings.portNumber? cs = (word? digits).map UInt16.toNat := by
  rw [h.portNumber?, ← placeValue_eq]
  split
  · rename_i hlarge
    cases hword : word? digits with
    | none => rfl
    | some n =>
      have hlt : n.toNat < 65536 := n.toNat_lt
      rw [(word?_eq_some.mp hword).2] at hlarge
      unfold greatestPort at hlarge
      omega
  · rename_i hfits
    have hvalue : (UInt16.ofNat (placeValue digits)).toNat = placeValue digits := by
      rw [UInt16.toNat_ofNat']
      unfold greatestPort at hfits
      exact Nat.mod_eq_of_lt (by omega)
    rw [word?_eq_some.mpr ⟨h.all_digits, hvalue.symm⟩, Option.map_some, hvalue]

/-! ## The law -/

/-- A value of the variable stands for a port if it is blank, which is the default, or if its
trimmed text is a numeral from 1 to 65535, and then for the port of that number. Every other value
is refused with its trimmed text. Each number on the way to that of a numeral is that of the digits
so far. -/
theorem the_variable_stands_for_the_port_of_its_numeral (value : String) :
    (∀ port, chooseLocalPort none (some value) = .ok port ↔
      (trim value = "" ∧ port = defaultLocalPort) ∨ SpellsPort port (trim value).toList) ∧
    (∀ e, chooseLocalPort none (some value) = .error e ↔
      e.text = trim value ∧ trim value ≠ "" ∧ ∀ port, ¬ SpellsPort port (trim value).toList) ∧
    ∀ digits, IsNumeral digits (trim value).toList →
      portNumber? (trim value).toList = (word? digits).map UInt16.toNat ∧
      ∀ front, front <+: digits → ∀ n, word? front = some n → n.toNat = placeValue front := by
  have hok : ∀ port, chooseLocalPort none (some value) = .ok port ↔
      (trim value = "" ∧ port = defaultLocalPort) ∨ SpellsPort port (trim value).toList := by
    intro port
    rw [chooseLocalPort_eq_ok, spellsPort_iff]
    by_cases hblank : trim value = ""
    · rw [names_of_blank hblank, hblank]
      simp [not_isPort_nil]
    · rw [names_of_text hblank]
      simp [hblank]
  refine ⟨hok, ?_, ?_⟩
  · intro e
    constructor
    · intro he
      obtain ⟨_, ⟨⟩, htext⟩ := text_of_invalidPort he
      have hnone : ∀ port, chooseLocalPort none (some value) ≠ .ok port := by
        intro port hport
        rw [he] at hport
        cases hport
      simp only [ne_eq, hok, not_or, not_and] at hnone
      exact ⟨htext, fun hblank => (hnone _).1 hblank rfl, fun port => (hnone port).2⟩
    · rintro ⟨htext, hsome, hnone⟩
      cases hchosen : chooseLocalPort none (some value) with
      | ok port =>
        rcases (hok port).mp hchosen with ⟨hblank, -⟩ | hport
        · exact absurd hblank hsome
        · exact absurd hport (hnone port)
      | error e' =>
        obtain ⟨_, ⟨⟩, htext'⟩ := text_of_invalidPort hchosen
        obtain ⟨text⟩ := e
        obtain ⟨text'⟩ := e'
        rw [← htext'] at htext
        cases htext
        rfl
  · intro digits hdigits
    exact ⟨hdigits.portNumber?_eq_word?, fun front _ n hn => (word?_eq_some.mp hn).2.symm⟩

/-- Leading zeros and a sign are no part of the number, and blanks no part of the text. The number
of six digits that would wrap to 80 is refused. -/
theorem a_padded_numeral_stands_for_its_port :
    chooseLocalPort none (some "\t+00080 ") = .ok 80 ∧
    SpellsPort 80 "+00080".toList ∧
    chooseLocalPort none (some "065616") = .error ⟨"065616"⟩ ∧
    portNumber? "+00080".toList = (word? "00080".toList).map UInt16.toNat := by
  have htrim : trim "\t+00080 " = "+00080" := by decide
  have hwrap : trim "065616" = "065616" := by decide
  have hnumeral : IsNumeral "00080".toList "+00080".toList :=
    ⟨.inr rfl, by decide, List.all_eq_true.mp (by decide)⟩
  have hspells : SpellsPort 80 "+00080".toList :=
    ⟨"00080".toList, hnumeral, by decide, by decide, by decide⟩
  have hlaw := the_variable_stands_for_the_port_of_its_numeral "\t+00080 "
  rw [htrim] at hlaw
  refine ⟨(hlaw.1 80).mpr (.inr hspells), hspells, ?_, ?_⟩
  · refine ((the_variable_stands_for_the_port_of_its_numeral "065616").2.1 ⟨"065616"⟩).mpr ?_
    rw [hwrap]
    refine ⟨rfl, by decide, fun port hport => ?_⟩
    have hnumber := (isPort_iff.mp (spellsPort_iff.mp hport)).1
    rw [show portNumber? "065616".toList = none by decide] at hnumber
    cases hnumber
  · exact (hlaw.2.2 "00080".toList hnumeral).1

end ResultGateway.Settings
