-- Digits and numbers. The decimal of a number consists of digits, does not
-- start with a zero unless it is that of zero, and denotes the number. A
-- hexadecimal digit that is written has the value it was written for.
import ResultGateway.Text.Decimal

namespace ResultGateway.Text

/-! ## Digits -/

theorem digitChar_mod (d : Nat) : digitChar (d % 10) = digitChar d := by
  unfold digitChar
  rw [Nat.mod_mod]

theorem digits_of_digitChar : ∀ d < 10, isDigit (digitChar d) = true ∧
    digitValue (digitChar d) = d ∧ (digitChar d = '0' → d = 0) := by
  decide

theorem isDigit_digitChar (d : Nat) : isDigit (digitChar d) = true := by
  rw [← digitChar_mod]
  exact (digits_of_digitChar (d % 10) (Nat.mod_lt d (by decide))).1

theorem digitValue_digitChar (d : Nat) : digitValue (digitChar d) = d % 10 := by
  rw [← digitChar_mod]
  exact (digits_of_digitChar (d % 10) (Nat.mod_lt d (by decide))).2.1

/-! ## Decimals -/

theorem decimal_isDigit (n : Nat) : ∀ c ∈ decimal n, isDigit c = true := by
  fun_induction decimal n with
  | case1 n h => simp [isDigit_digitChar]
  | case2 n h ih =>
    intro c hc
    rcases List.mem_append.mp hc with hc | hc
    · exact ih c hc
    · rw [List.mem_singleton.mp hc]
      exact isDigit_digitChar n

theorem ofDigits_append (cs : List Char) (c : Char) :
    ofDigits (cs ++ [c]) = 10 * ofDigits cs + digitValue c := by
  unfold ofDigits
  rw [List.foldl_append]
  rfl

theorem ofDigits_decimal (n : Nat) : ofDigits (decimal n) = n := by
  fun_induction decimal n with
  | case1 n h =>
    show 10 * 0 + digitValue (digitChar n) = n
    rw [digitValue_digitChar]
    omega
  | case2 n h ih =>
    rw [ofDigits_append, ih, digitValue_digitChar]
    omega

theorem decimal_head {n : Nat} (hn : n ≠ 0) : ∃ c cs, decimal n = c :: cs ∧ c ≠ '0' := by
  fun_induction decimal n with
  | case1 n h =>
    refine ⟨_, [], rfl, ?_⟩
    intro hzero
    exact hn ((digits_of_digitChar n h).2.2 hzero)
  | case2 n h ih =>
    obtain ⟨c, cs, heq, hc⟩ := ih (by omega)
    exact ⟨c, cs ++ [digitChar n], by rw [heq]; rfl, hc⟩

theorem decimal_ne_nil (n : Nat) : decimal n ≠ [] := by
  unfold decimal
  split <;> simp

/-! ## Hexadecimal digits -/

theorem hexValue?_lowerHexDigit (d : Nat) : hexValue? (lowerHexDigit d) = some (d % 16) := by
  have hbelow : ∀ d < 16, hexValue? (lowerHexDigit d) = some d := by decide
  have hmod : lowerHexDigit (d % 16) = lowerHexDigit d := by
    unfold lowerHexDigit
    rw [Nat.mod_mod]
  rw [← hmod]
  exact hbelow (d % 16) (Nat.mod_lt d (by decide))

theorem hexValue?_upperHexDigit (d : Nat) : hexValue? (upperHexDigit d) = some (d % 16) := by
  have hbelow : ∀ d < 16, hexValue? (upperHexDigit d) = some d := by decide
  have hmod : upperHexDigit (d % 16) = upperHexDigit d := by
    unfold upperHexDigit
    rw [Nat.mod_mod]
  rw [← hmod]
  exact hbelow (d % 16) (Nat.mod_lt d (by decide))

end ResultGateway.Text
