-- The small parts of a JSON text are read as they are spelled: a number as
-- its literal gives it, if nothing behind it carries it on, and a text in
-- quotes with its escapes undone.
import ResultGateway.Proofs.Json.Grammar

namespace ResultGateway.Json

open Text (isDigit)

/-! ## What may follow a number -/

/-- A text that does not carry on a number before it. -/
def EndsNumber (rest : List Char) : Prop :=
  ∀ c, rest.head? = some c → isDigit c = false ∧ c ≠ '.' ∧ isExponentMark c = false

theorem endsNumber_nil : EndsNumber [] := fun _ h => nomatch h

theorem endsNumber_cons {c : Char} {rest : List Char} (hdigit : isDigit c = false)
    (hpoint : c ≠ '.') (hmark : isExponentMark c = false) : EndsNumber (c :: rest) := by
  intro d hd
  cases hd
  exact ⟨hdigit, hpoint, hmark⟩

theorem endsNumber_blank {blank rest : List Char} (h : IsBlank blank) (hrest : EndsNumber rest) :
    EndsNumber (blank ++ rest) := by
  cases blank with
  | nil => exact hrest
  | cons c blank =>
    have hc := h c List.mem_cons_self
    simp only [isSpace, Bool.or_eq_true, beq_iff_eq] at hc
    rcases hc with ((rfl | rfl) | rfl) | rfl <;>
      exact endsNumber_cons (by decide) (by decide) (by decide)

/-! ## Numbers -/

theorem digits_append {ds rest : List Char} (hall : ∀ d ∈ ds, isDigit d = true)
    (hrest : ∀ c, rest.head? = some c → isDigit c = false) :
    digits (ds ++ rest) = (digitValues ds, rest) := by
  have htake : rest.takeWhile isDigit = [] := by
    cases rest with
    | nil => rfl
    | cons c rest => exact List.takeWhile_cons_of_neg (by simp [hrest c rfl])
  have hdrop : rest.dropWhile isDigit = rest := by
    cases rest with
    | nil => rfl
    | cons c rest => exact List.dropWhile_cons_of_neg (by simp [hrest c rfl])
  unfold digits
  rw [List.takeWhile_append_of_pos hall, List.dropWhile_append_of_pos hall, htake, hdrop,
    List.append_nil]
  rfl

theorem wholeDigits_append {whole rest : List Char} (h : IsWhole whole)
    (hrest : ∀ c, rest.head? = some c → isDigit c = false) :
    wholeDigits (whole ++ rest) = .ok (digitValues whole, rest) := by
  cases h with
  | zero =>
    have hdigits : digits ([] ++ rest) = ([], rest) := digits_append (by simp) hrest
    rw [List.nil_append] at hdigits
    simp only [List.cons_append, List.nil_append, wholeDigits, hdigits]
    rfl
  | @digits c cs hc hall =>
    have hdigits := digits_append hall hrest
    have hcdigit := hall c List.mem_cons_self
    rw [List.cons_append] at hdigits ⊢
    unfold wholeDigits
    split
    · rename_i heq
      cases heq
    · rename_i heq
      cases heq
      exact absurd rfl hc
    · rename_i heq
      cases heq
      rw [if_pos hcdigit, hdigits]

theorem fractionDigits_append {fraction f rest : List Char} (h : IsFraction fraction f)
    (hdigit : ∀ c, rest.head? = some c → isDigit c = false)
    (hpoint : ∀ c, rest.head? = some c → c ≠ '.') :
    fractionDigits (f ++ rest) = .ok (digitValues fraction, rest) := by
  cases h with
  | none =>
    rw [List.nil_append]
    unfold fractionDigits
    split
    · exact absurd rfl (hpoint '.' rfl)
    · rfl
  | digits hsome hall =>
    rw [List.cons_append]
    simp only [fractionDigits, digits_append hall hdigit]
    obtain ⟨d, ds, rfl⟩ := List.exists_cons_of_ne_nil hsome
    rfl

theorem takeSign_append {negative : Bool} {sign ds : List Char} (h : IsSign negative sign)
    (hsome : ds ≠ []) (hall : ∀ d ∈ ds, isDigit d = true) (rest : List Char) :
    takeSign (sign ++ (ds ++ rest)) = (negative, ds ++ rest) := by
  obtain ⟨d, ds, rfl⟩ := List.exists_cons_of_ne_nil hsome
  cases h with
  | none =>
    have hd := hall d List.mem_cons_self
    rw [List.nil_append, List.cons_append]
    unfold takeSign
    split
    · rename_i heq
      cases heq
      exact absurd hd (by decide)
    · rename_i heq
      cases heq
      exact absurd hd (by decide)
    · rfl
  | plus => rfl
  | minus => rfl

theorem exponentDigits_append {exponent : Option (Bool × List Char)} {e rest : List Char}
    (h : IsExponent exponent e) (hrest : EndsNumber rest) :
    ∃ found, exponentDigits (e ++ rest) = .ok (found, rest) ∧
      found.map (fun e => (e.1, e.2.1)) = exponent.map fun e => (e.1, digitValues e.2) := by
  cases h with
  | none =>
    refine ⟨none, ?_, rfl⟩
    cases rest with
    | nil => rfl
    | cons c rest =>
      simp only [List.nil_append, exponentDigits, (hrest c rfl).2.2, Bool.false_eq_true, if_false]
  | @digits mark negative sign ds hmark hsign hsome hall =>
    refine ⟨some (negative, digitValues ds, ds ++ rest), ?_, rfl⟩
    have hd : ∃ d more, ds ++ rest = d :: more ∧ isDigit d = true := by
      obtain ⟨d, ds, rfl⟩ := List.exists_cons_of_ne_nil hsome
      exact ⟨d, ds ++ rest, rfl, hall d List.mem_cons_self⟩
    obtain ⟨d, more, heq, hd⟩ := hd
    have hdigits := digits_append hall fun c hc => (hrest c hc).1
    rw [List.cons_append, List.append_assoc]
    simp only [exponentDigits, hmark, if_true, takeSign_append hsign hsome hall]
    rw [heq] at hdigits ⊢
    simp only [hd, if_true, hdigits]

/-- What follows a fraction carries on neither its digits nor a fraction. -/
theorem head_exponent {exponent : Option (Bool × List Char)} {e rest : List Char}
    (h : IsExponent exponent e) (hrest : EndsNumber rest) :
    ∀ c, (e ++ rest).head? = some c → isDigit c = false ∧ c ≠ '.' := by
  cases h with
  | none => exact fun c hc => ⟨(hrest c hc).1, (hrest c hc).2.1⟩
  | digits hmark =>
    intro c hc
    cases hc
    simp only [isExponentMark, Bool.or_eq_true, beq_iff_eq] at hmark
    rcases hmark with rfl | rfl <;> decide

theorem head_fraction {fraction f rest : List Char} (h : IsFraction fraction f)
    (hrest : ∀ c, rest.head? = some c → isDigit c = false) :
    ∀ c, (f ++ rest).head? = some c → isDigit c = false := by
  cases h with
  | none => exact hrest
  | digits =>
    intro c hc
    cases hc
    rfl

theorem takeMinus_append {whole : List Char} (h : IsWhole whole) (negative : Bool)
    (rest : List Char) :
    takeMinus (minusText negative ++ (whole ++ rest)) = (negative, whole ++ rest) := by
  cases negative with
  | true => rfl
  | false =>
    cases h with
    | zero => rfl
    | digits _ hall =>
      unfold takeMinus
      split
      · rename_i heq
        cases heq
        exact absurd (hall '-' List.mem_cons_self) (by decide)
      · rfl

theorem toOption_eq_some {ε α : Type} {x : Except ε α} {a : α} :
    x.toOption = some a ↔ x = .ok a := by
  cases x <;> simp [Except.toOption]

/-- A number is read as its literal gives it, and refused when its literal gives none. -/
theorem toOption_number_append {l : Literal} {cs rest : List Char} (h : l.IsText cs)
    (hrest : EndsNumber rest) :
    (Step.number (cs ++ rest)).toOption = l.value.toOption.map (·, rest) := by
  obtain ⟨hwhole, hfraction, hexponent⟩ := h
  rename_i negative whole fraction f e exponent
  have hafter := head_exponent hexponent hrest
  have hbehind := head_fraction hfraction fun c hc => (hafter c hc).1
  obtain ⟨found, hfound, hmap⟩ := exponentDigits_append hexponent hrest
  unfold Step.number
  simp only [List.append_assoc, takeMinus_append hwhole, wholeDigits_append hwhole hbehind,
    fractionDigits_append hfraction (fun c hc => (hafter c hc).1) (fun c hc => (hafter c hc).2),
    hfound, hmap, bind, Except.bind]
  generalize Literal.value _ = value
  match value, found with
  | .ok n, _ => rfl
  | .error .magnitude, _ => rfl
  | .error (.exponent _), none => rfl
  | .error (.exponent _), some _ => rfl

theorem number_append {l : Literal} {n : Number} {cs rest : List Char} (h : l.IsText cs)
    (hn : l.Gives n) (hrest : EndsNumber rest) : Step.number (cs ++ rest) = .ok (n, rest) := by
  rw [← toOption_eq_some, toOption_number_append h hrest, hn]
  rfl

/-! ## Integers -/

theorem gather_all {limit n : Nat} {ds : List Nat}
    (h : ds.foldl (fun n d => 10 * n + d) n ≤ limit) :
    gather limit n ds = (ds.foldl (fun n d => 10 * n + d) n, []) := by
  induction ds generalizing n with
  | nil => rfl
  | cons d ds ih =>
    -- The number never shrinks, so it is within the limit all along.
    have hgrows : ∀ (ds : List Nat) (n : Nat), n ≤ ds.foldl (fun n d => 10 * n + d) n := by
      intro ds
      induction ds with
      | nil => exact fun n => Nat.le_refl n
      | cons d ds ih => exact fun n => Nat.le_trans (by omega) (ih (10 * n + d))
    have hfits : 10 * n + d ≤ limit := Nat.le_trans (hgrows ds (10 * n + d)) h
    rw [List.foldl_cons] at h ⊢
    rw [gather, if_neg (Nat.not_lt.mpr hfits), ih h]

/-- A literal that shows an integer of 64 bits gives it. A zero must not have a sign. -/
theorem Literal.gives_integer {l : Literal} {i : Int} (h : l.integer? = some i)
    (hfits : Number.Fits i) (hzero : i = 0 → l.negative = false) : l.Gives (.integer i) := by
  obtain ⟨negative, whole, fraction, exponent⟩ := l
  unfold Literal.integer? at h
  split at h
  · rename_i hplain
    obtain ⟨rfl, rfl⟩ := hplain
    obtain ⟨hleast, hgreatest⟩ := hfits
    simp only [Option.some.injEq] at h
    dsimp only at hzero
    have hgather : gather greatestWord 0 whole = (whole.foldl (fun n d => 10 * n + d) 0, []) := by
      apply gather_all
      unfold greatestWord
      cases negative <;> simp at h <;> omega
    generalize whole.foldl (fun n d => 10 * n + d) 0 = n at h hgather
    unfold Literal.Gives Literal.value Literal.significand
    rw [hgather]
    simp only [gather, List.isEmpty_nil, List.length_nil, Bool.true_and]
    unfold integerValue
    cases negative with
    | false =>
      simp only [Bool.false_eq_true, if_false] at h
      subst h
      rfl
    | true =>
      simp only [if_true] at h
      have hn : n ≠ 0 := by
        rintro rfl
        cases hzero (by omega)
      have hsmall : ¬ 0x8000000000000000 < n := by omega
      simp [hn, hsmall, h]
  · cases h

/-! ## Texts in quotes -/

/-- A text is read as it is spelled, up to its closing quote. -/
theorem textRest_append {s cs : List Char} (h : SpellsChars s cs) (found rest : List Char) :
    textRest found (cs ++ '"' :: rest) = .ok (String.ofList (found.reverse ++ s), rest) := by
  induction h generalizing found with
  | nil => simp [textRest]
  | @plain c s cs hcontrol hquote hbackslash _ ih =>
    rw [List.cons_append, textRest.eq_def]
    simp only [Nat.not_lt.mpr hcontrol, if_false, ih, List.reverse_cons,
      List.append_assoc, List.cons_append, List.nil_append]
  | @short c e s cs hescape _ ih =>
    have hletter : c ≠ 'u' := by
      rintro rfl
      cases hescape
    have hread : ∀ more, textRest found ('\\' :: c :: more) = textRest (e :: found) more := by
      intro more
      rw [textRest.eq_def]
      simp only []
      split <;> rename_i heq <;> cases heq
      · exact absurd rfl hletter
      · exact absurd rfl hletter
      · simp only [hescape]
    rw [List.cons_append, List.cons_append, hread, ih, List.reverse_cons, List.append_assoc]
    rfl
  | @word a b c d n s cs hescape hlow hhigh _ ih =>
    have hread : textRest found ('\\' :: 'u' :: a :: b :: c :: d :: (cs ++ '"' :: rest)) =
        textRest (Char.ofNat n :: found) (cs ++ '"' :: rest) := by
      rw [textRest.eq_def]
      simp only [hescape, hlow, hhigh, Bool.false_eq_true, if_false]
    simp only [List.cons_append, hread, ih, List.reverse_cons, List.append_assoc, List.nil_append]
  | @pair a b c d e f g h high low s cs hfirst hhigh hsecond hlow _ ih =>
    have hread : textRest found ('\\' :: 'u' :: a :: b :: c :: d :: '\\' :: 'u' :: e :: f :: g ::
        h :: (cs ++ '"' :: rest)) =
        textRest (joinSurrogates high low :: found) (cs ++ '"' :: rest) := by
      have hnotlow : isLowSurrogate high = false := by
        simp only [isHighSurrogate, Bool.and_eq_true, decide_eq_true_eq] at hhigh
        simp only [isLowSurrogate, Bool.and_eq_false_iff, decide_eq_false_iff_not]
        omega
      rw [textRest.eq_def]
      simp only [hfirst, hnotlow, hhigh, hsecond, hlow, Bool.false_eq_true, if_false, if_true]
    simp only [List.cons_append, hread, ih, List.reverse_cons, List.append_assoc, List.nil_append]

theorem text_append {s : String} {cs : List Char} (h : SpellsChars s.toList cs)
    (rest : List Char) : Step.text (cs ++ '"' :: rest) = .ok (s, rest) := by
  rw [Step.text, textRest_append h, List.reverse_nil, List.nil_append, String.ofList_toList]

end ResultGateway.Json
