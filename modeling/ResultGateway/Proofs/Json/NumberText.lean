-- The texts of numbers keep to the grammar. An integer is written as the
-- literal that shows it. A real is written as its shortest decimal, in one
-- of three forms, each of which is a literal.
import ResultGateway.Proofs.Json.Grammar
import ResultGateway.Proofs.Text.Decimal

namespace ResultGateway.Json

open Text (decimal isDigit)

/-! ## Integers -/

theorem isWhole_decimal (n : Nat) : IsWhole (decimal n) := by
  by_cases hn : n = 0
  · subst hn
    have hzero : decimal 0 = ['0'] := by decide +kernel
    rw [hzero]
    exact .zero
  · obtain ⟨c, cs, heq, hc⟩ := Text.decimal_head hn
    have hall := Text.decimal_isDigit n
    rw [heq] at hall ⊢
    exact .digits hc hall

theorem decimalInt_eq (i : Int) :
    Text.decimalInt i = minusText (decide (i < 0)) ++ decimal i.natAbs := by
  unfold Text.decimalInt minusText
  by_cases hneg : i < 0 <;> simp [hneg]

/-- The digits of a text are those that its number is gathered from. -/
theorem foldl_digitValues (cs : List Char) :
    (digitValues cs).foldl (fun n d => 10 * n + d) 0 = Text.ofDigits cs := by
  unfold digitValues Text.ofDigits
  rw [List.foldl_map]

/-- The literal of an integer. -/
def Literal.ofInt (i : Int) : Literal := ⟨decide (i < 0), digitValues (decimal i.natAbs), [], none⟩

theorem Literal.isText_decimalInt (i : Int) : (Literal.ofInt i).IsText (Text.decimalInt i) := by
  have h : (Literal.ofInt i).IsText
      (minusText (decide (i < 0)) ++ (decimal i.natAbs ++ ([] ++ []))) :=
    .parts (isWhole_decimal i.natAbs) .none .none
  rw [List.append_nil, List.append_nil, ← decimalInt_eq] at h
  exact h

theorem Literal.integer?_ofInt (i : Int) : (Literal.ofInt i).integer? = some i := by
  unfold Literal.ofInt Literal.integer?
  simp only [and_self, ↓reduceIte, foldl_digitValues, Text.ofDigits_decimal, decide_eq_true_eq,
    Option.some.injEq]
  split <;> omega

/-! ## Reals -/

/-- The texts of numbers without a sign. -/
def IsMagnitude (cs : List Char) : Prop :=
  ∃ whole fraction f exponent e, IsWhole whole ∧ IsFraction fraction f ∧ IsExponent exponent e ∧
    cs = whole ++ (f ++ e)

theorem isDigit_of_mem_zeros {k : Nat} : ∀ d ∈ List.replicate k '0', isDigit d = true := by
  intro d hd
  rw [List.eq_of_mem_replicate hd]
  decide

theorem isWhole_singleton {c : Char} (hc : isDigit c = true) : IsWhole [c] := by
  by_cases hzero : c = '0'
  · rw [hzero]
    exact .zero
  · apply IsWhole.digits hzero
    intro d hd
    rw [List.mem_singleton.mp hd]
    exact hc

theorem isMagnitude_padded {n k : Nat} (h : n = 0 → k = 0) :
    IsMagnitude (decimal n ++ List.replicate k '0' ++ ['.', '0']) := by
  refine ⟨_, ['0'], ['.', '0'], none, [], ?_,
    .digits (List.cons_ne_nil _ _) (@isDigit_of_mem_zeros 1), .none, rfl⟩
  by_cases hzero : n = 0
  · rw [h hzero, List.replicate_zero, List.append_nil]
    exact isWhole_decimal n
  · have hall := Text.decimal_isDigit n
    obtain ⟨c, cs, heq, hc⟩ := Text.decimal_head hzero
    rw [heq] at hall ⊢
    apply IsWhole.digits hc
    intro d hd
    rcases List.mem_append.mp (List.cons_append ▸ hd) with hd | hd
    · exact hall d hd
    · exact isDigit_of_mem_zeros d hd

theorem isMagnitude_pointed {n k : Nat} (hn : n ≠ 0) (hk : k + 1 < (decimal n).length) :
    IsMagnitude ((decimal n).take (k + 1) ++ '.' :: (decimal n).drop (k + 1)) := by
  have hall := Text.decimal_isDigit n
  refine ⟨_, (decimal n).drop (k + 1), _, none, [], ?_, .digits ?_ ?_, .none,
    by rw [List.append_nil]⟩
  · obtain ⟨c, cs, heq, hc⟩ := Text.decimal_head hn
    rw [heq] at hall ⊢
    exact .digits hc fun d hd => hall d (List.mem_of_mem_take (i := k + 1) hd)
  · rw [Ne, List.drop_eq_nil_iff]
    omega
  · exact fun d hd => hall d (List.mem_of_mem_drop hd)

theorem isMagnitude_small (n k : Nat) :
    IsMagnitude (['0', '.'] ++ List.replicate k '0' ++ decimal n) := by
  refine ⟨['0'], List.replicate k '0' ++ decimal n, _, none, [], .zero, .digits ?_ ?_, .none,
    by rw [List.append_nil]; rfl⟩
  · exact fun hnil => Text.decimal_ne_nil n (List.append_eq_nil_iff.mp hnil).2
  · intro d hd
    rcases List.mem_append.mp hd with hd | hd
    · exact isDigit_of_mem_zeros d hd
    · exact Text.decimal_isDigit n d hd

theorem isExponent_signed (first : Int) : ∃ exponent, IsExponent exponent
    ('e' :: (if first < 0 then '-' else '+') :: decimal first.natAbs) := by
  have hne := Text.decimal_ne_nil first.natAbs
  have hall := Text.decimal_isDigit first.natAbs
  split
  · exact ⟨_, .digits (by decide) .minus hne hall⟩
  · exact ⟨_, .digits (by decide) .plus hne hall⟩

/-- A decimal is written as a number of the grammar; one of no value has to have no exponent. -/
theorem Decimal.isMagnitude_text {d : Decimal} (h : d.digits = 0 → d.exponent = 0) :
    IsMagnitude d.text := by
  unfold Decimal.text
  dsimp only
  split
  · split
    · apply isMagnitude_padded
      intro hzero
      rw [h hzero]
      rfl
    · rename_i hexponent
      split
      · have hn : d.digits ≠ 0 := fun hzero => hexponent (Int.le_of_eq (h hzero).symm)
        exact isMagnitude_pointed hn (by omega)
      · exact isMagnitude_small _ _
  · obtain ⟨exponent, hexponent⟩ :=
      isExponent_signed (d.exponent + ((decimal d.digits).length : Int) - 1)
    have hall := Text.decimal_isDigit d.digits
    obtain ⟨c, cs, heq⟩ := List.exists_cons_of_ne_nil (Text.decimal_ne_nil d.digits)
    have hwhole := isWhole_singleton (hall c (by rw [heq]; exact List.mem_cons_self))
    rw [heq] at hall hexponent ⊢
    cases cs with
    | nil => exact ⟨[c], [], [], exponent, _, hwhole, .none, hexponent, rfl⟩
    | cons next rest =>
      refine ⟨[c], next :: rest, _, exponent, _, hwhole, .digits (List.cons_ne_nil _ _) ?_,
        hexponent, rfl⟩
      exact fun d hd => hall d (List.mem_cons_of_mem _ hd)

/-! ## Shortest decimals -/

/-- No number but zero is rounded from zero. -/
theorem Binary64.not_admits_zero {x : Binary64} (h : x.significand ≠ 0) (k : Int) :
    x.admits 0 k = false := by
  have hlow : 0 < (4 * x.significand - if x.isLowEdge then 1 else 2) * Nat.pow 2 x.exponent.toNat *
      Nat.pow 10 (-k).toNat := by
    refine Nat.mul_pos (Nat.mul_pos ?_ (Nat.pow_pos (by decide))) (Nat.pow_pos (by decide))
    split <;> omega
  unfold Binary64.admits
  simp only [Nat.mul_zero, Nat.zero_mul]
  split
  · simp only [Bool.and_eq_false_iff, decide_eq_false_iff_not]
    omega
  · simp

theorem Binary64.digits_of_onGrid {x : Binary64} {k : Int} {d : Decimal}
    (h : x.significand ≠ 0) (hd : x.onGrid k = some d) : d.digits ≠ 0 := by
  have hchoice : ∀ n, (if x.admits n k then some (⟨n, k⟩ : Decimal) else none) = some d →
      d.digits ≠ 0 := by
    intro n hn hzero
    split at hn
    · rename_i hadmits
      cases hn
      subst hzero
      rw [x.not_admits_zero h] at hadmits
      cases hadmits
    · cases hn
  unfold Binary64.onGrid at hd
  dsimp only at hd
  simp only [Option.orElse_eq_orElse, Option.orElse_eq_or] at hd
  split at hd <;> rcases Option.or_eq_some_iff.mp hd with hd | ⟨-, hd⟩ <;> exact hchoice _ hd

theorem Decimal.digits_dropZeros (fuel : Nat) {d : Decimal} (h : d.digits ≠ 0) :
    (d.dropZeros fuel).digits ≠ 0 := by
  induction fuel generalizing d with
  | zero => exact h
  | succ fuel ih =>
    unfold Decimal.dropZeros
    split
    · rename_i hzero
      simp only [Bool.and_eq_true, decide_eq_true_eq] at hzero
      exact ih (by dsimp only; omega)
    · exact h

theorem Binary64.shortest_zero (x : Binary64) (h : x.shortest.digits = 0) :
    x.shortest.exponent = 0 := by
  unfold Binary64.shortest at h ⊢
  split
  · rfl
  · rename_i hnonzero
    have hsig : x.significand ≠ 0 := by simpa [Binary64.isZero] using hnonzero
    rw [if_neg hnonzero] at h
    dsimp only at h ⊢
    split at h
    · rename_i d hd
      obtain ⟨k, -, hk⟩ := List.exists_of_findSome?_eq_some hd
      exact absurd h (Decimal.digits_dropZeros 17 (x.digits_of_onGrid hsig hk))
    · exact absurd h hsig

/-- Every number is written as one of the grammar, and integers as what they are. -/
theorem Number.exists_literal (n : Number) : ∃ l : Literal, l.IsText n.text ∧ l.Shows n := by
  cases n with
  | integer i =>
    refine ⟨.ofInt i, Literal.isText_decimalInt i, ?_⟩
    intro j hj
    cases hj
    exact Literal.integer?_ofInt i
  | real x =>
    obtain ⟨whole, fraction, f, exponent, e, hwhole, hfraction, hexponent, heq⟩ :=
      Decimal.isMagnitude_text x.shortest_zero
    have h := @Literal.IsText.parts x.negative _ _ _ _ _ hwhole hfraction hexponent
    rw [← heq] at h
    refine ⟨_, h, ?_⟩
    intro j hj
    cases hj

end ResultGateway.Json
