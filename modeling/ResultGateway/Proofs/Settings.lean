-- The port that a variable names. A variable that is not set or that is
-- blank stands for the default port; the text of a port between blanks
-- stands for that port. Any other value is refused, with its trimmed text.
import ResultGateway.Settings

namespace ResultGateway.Settings

/-! ## Texts of ports -/

theorem not_isPort_nil (port : Nat) : ¬ IsPort port [] := by
  intro h
  cases h with
  | digits _ some_digit => exact some_digit rfl

/-- A plus sign is no digit, so that a text is the text of a port in one way only. -/
theorem isPort_signed {port : Nat} {cs : List Char} : IsPort port ('+' :: cs) ↔
    cs ≠ [] ∧ (∀ c ∈ cs, Text.isDigit c = true) ∧ Text.ofDigits cs = port ∧ 1 ≤ port ∧
      port ≤ greatestPort := by
  constructor
  · intro h
    cases h with
    | digits _ _ all_digits => exact absurd (all_digits '+' List.mem_cons_self) (by decide)
    | signed _ some_digit all_digits value low high =>
      exact ⟨some_digit, all_digits, value, low, high⟩
  · rintro ⟨some_digit, all_digits, value, low, high⟩
    exact .signed cs some_digit all_digits value low high

theorem isPort_digits {port : Nat} {c : Char} {cs : List Char} (hc : c ≠ '+') :
    IsPort port (c :: cs) ↔ (∀ d ∈ c :: cs, Text.isDigit d = true) ∧
      Text.ofDigits (c :: cs) = port ∧ 1 ≤ port ∧ port ≤ greatestPort := by
  constructor
  · intro h
    cases h with
    | digits _ _ all_digits value low high => exact ⟨all_digits, value, low, high⟩
    | signed => exact absurd rfl hc
  · rintro ⟨all_digits, value, low, high⟩
    exact .digits _ (by simp) all_digits value low high

/-- The number of a run of digits, when it is not above the greatest port. -/
theorem digits_eq_some {digits : List Char} {n : Nat} :
    (if digits.isEmpty || !digits.all Text.isDigit || greatestPort < Text.ofDigits digits then none
      else some (Text.ofDigits digits)) = some n ↔
    digits ≠ [] ∧ (∀ c ∈ digits, Text.isDigit c = true) ∧ Text.ofDigits digits = n ∧
      n ≤ greatestPort := by
  split
  · rename_i h
    simp only [Bool.or_eq_true, List.isEmpty_iff, Bool.not_eq_true', decide_eq_true_eq,
      List.all_eq_false] at h
    grind
  · rename_i h
    simp only [Bool.or_eq_true, List.isEmpty_iff, Bool.not_eq_true', decide_eq_true_eq,
      List.all_eq_false] at h
    grind

/-- A text that is read as a number above zero is the text of that port. -/
theorem isPort_iff {port : Nat} {cs : List Char} :
    IsPort port cs ↔ portNumber? cs = some port ∧ 1 ≤ port := by
  cases cs with
  | nil => simp [not_isPort_nil, portNumber?]
  | cons c cs =>
    by_cases hc : c = '+'
    · subst hc
      rw [isPort_signed]
      show _ ↔ (if _ then none else _) = some port ∧ _
      rw [digits_eq_some]
      grind
    · rw [isPort_digits hc]
      unfold portNumber?
      split
      · rename_i heq
        exact absurd (List.cons.inj heq).1 hc
      · rw [digits_eq_some]
        grind

/-! ## Values of the variable -/

/-- What a value of the variable stands for. -/
inductive Names (port : Nat) : Option String → Prop where
  | unset (default : port = defaultLocalPort) : Names port none
  | blank (value : String) (blank : Text.trim value = "") (default : port = defaultLocalPort) :
      Names port (some value)
  | text (value : String) (isPort : IsPort port (Text.trim value).toList) :
      Names port (some value)

/-- A value that stands for no port. -/
def IsUnusable (value : Option String) : Prop := ∀ port, ¬ Names port value

theorem names_of_blank {port : Nat} {value : String} (hblank : Text.trim value = "") :
    Names port (some value) ↔ port = defaultLocalPort := by
  constructor
  · intro h
    cases h with
    | blank _ _ default => exact default
    | text _ isPort =>
      rw [hblank] at isPort
      exact absurd isPort (not_isPort_nil port)
  · exact .blank value hblank

theorem names_of_text {port : Nat} {value : String} (htext : Text.trim value ≠ "") :
    Names port (some value) ↔ IsPort port (Text.trim value).toList := by
  constructor
  · intro h
    cases h with
    | blank _ blank => exact absurd blank htext
    | text _ isPort => exact isPort
  · exact .text value

/-- The port that is chosen is the one that the value stands for. -/
theorem chooseLocalPort_eq_ok {value : Option String} {port : Nat} :
    chooseLocalPort none value = .ok port ↔ Names port value := by
  cases value with
  | none =>
    constructor
    · intro h
      exact .unset (Except.ok.inj h).symm
    · rintro ⟨rfl⟩
      rfl
  | some value =>
    unfold chooseLocalPort
    simp only [Option.map_some]
    split
    · rename_i hblank
      rw [names_of_blank hblank, Except.ok.injEq, eq_comm]
    · rename_i htext
      rw [names_of_text htext, isPort_iff]
      split
      · rename_i read hread
        rw [hread, Except.ok.injEq, Option.some.injEq]
        omega
      · rename_i hread
        constructor
        · nofun
        · rintro ⟨hport, low⟩
          exact absurd hport (by
            obtain ⟨n, rfl⟩ := Nat.exists_eq_add_of_le' low
            exact hread n)

theorem isUnusable_of_eq_error {value : Option String} {e : InvalidPort}
    (h : chooseLocalPort none value = .error e) : IsUnusable value := by
  intro port hport
  rw [chooseLocalPort_eq_ok.mpr hport] at h
  cases h

theorem text_of_invalidPort {value : Option String} {e : InvalidPort}
    (h : chooseLocalPort none value = .error e) :
    ∃ text, value = some text ∧ e.text = Text.trim text := by
  cases value with
  | none => cases h
  | some text =>
    refine ⟨text, rfl, ?_⟩
    unfold chooseLocalPort at h
    simp only [Option.map_some] at h
    split at h
    · cases h
    · split at h
      · cases h
      · cases h
        rfl

/-- A value that stands for no port is refused, and the failure shows it without blanks. -/
theorem chooseLocalPort_unusable {value : Option String} (h : IsUnusable value) :
    ∃ text, value = some text ∧ chooseLocalPort none value = .error ⟨Text.trim text⟩ := by
  cases hchosen : chooseLocalPort none value with
  | ok port => exact absurd (chooseLocalPort_eq_ok.mp hchosen) (h port)
  | error e =>
    obtain ⟨text, hvalue, htext⟩ := text_of_invalidPort hchosen
    exact ⟨text, hvalue, by rw [← htext]⟩

end ResultGateway.Settings
