-- What is skipped. A text with the form of a value is passed over to its
-- end, whatever follows it, at any depth.
import ResultGateway.Proofs.Json.Forms

namespace ResultGateway.Json

open Text (isDigit)

/-! ## Texts in quotes -/

theorem skipText_append {cs : List Char} (h : IsChars cs) (rest : List Char) :
    skipText (cs ++ '"' :: rest) = .ok rest := by
  induction h with
  | nil => simp [skipText]
  | plain hcontrol hquote hbackslash _ ih =>
    rw [List.cons_append, skipText.eq_def]
    simp only [Nat.not_lt.mpr hcontrol, if_false, ih]
  | @short c e cs hescape _ ih =>
    have hletter : c ≠ 'u' := by
      rintro rfl
      cases hescape
    have hread : ∀ more, skipText ('\\' :: c :: more) = skipText more := by
      intro more
      rw [skipText.eq_def]
      simp only []
      split <;> rename_i heq <;> cases heq
      · exact absurd rfl hletter
      · exact absurd rfl hletter
      · simp only [hescape]
    rw [List.cons_append, List.cons_append, hread, ih]
  | word hescape _ ih =>
    simp only [List.cons_append]
    rw [skipText.eq_def]
    simp only [hescape, ih]

/-! ## Numbers -/

theorem skipExponent_append {exponent : Option (Bool × List Char)} {e rest : List Char}
    (h : IsExponent exponent e) (hrest : EndsNumber rest) :
    skipExponent (e ++ rest) = .ok rest := by
  cases h with
  | none =>
    cases rest with
    | nil => rfl
    | cons c rest =>
      simp only [List.nil_append, skipExponent, (hrest c rfl).2.2, Bool.false_eq_true, if_false]
  | @digits mark negative sign ds hmark hsign hsome hall =>
    obtain ⟨d, ds, rfl⟩ := List.exists_cons_of_ne_nil hsome
    have hd := hall d List.mem_cons_self
    have hdigits := digits_append (fun c hc => hall c (List.mem_cons_of_mem d hc))
      fun c hc => (hrest c hc).1
    have hsigned := takeSign_append hsign hsome hall rest
    rw [List.cons_append] at hsigned
    rw [List.cons_append, List.append_assoc, List.cons_append]
    simp only [skipExponent, hmark, if_true, hsigned, hd, hdigits]

theorem skipFraction_append {fraction f e rest : List Char} {exponent : Option (Bool × List Char)}
    (h : IsFraction fraction f) (hexponent : IsExponent exponent e) (hrest : EndsNumber rest) :
    skipFraction (f ++ (e ++ rest)) = .ok rest := by
  have hexp := skipExponent_append hexponent hrest
  have hafter := head_exponent hexponent hrest
  cases h with
  | none =>
    rw [List.nil_append]
    unfold skipFraction
    split
    · rename_i heq
      exact absurd rfl ((hafter '.' (by rw [heq]; rfl)).2)
    · exact hexp
  | digits hsome hall =>
    obtain ⟨d, ds, rfl⟩ := List.exists_cons_of_ne_nil hsome
    have hdigits := digits_append hall fun c hc => (hafter c hc).1
    rw [List.cons_append]
    simp only [skipFraction, hdigits, digitValues, List.map_cons, hexp]

theorem skipNumber_append {l : Literal} {cs rest : List Char} (h : l.IsText cs)
    (hrest : EndsNumber rest) : skipNumber (cs ++ rest) = .ok rest := by
  obtain ⟨hwhole, hfraction, hexponent⟩ := h
  rename_i negative whole fraction f e exponent
  have hskip := skipFraction_append hfraction hexponent hrest
  have hafter := head_fraction hfraction fun c hc => (head_exponent hexponent hrest c hc).1
  unfold skipNumber
  simp only [List.append_assoc, takeMinus_append hwhole]
  cases hwhole with
  | zero =>
    have hdigits : digits ([] ++ (f ++ (e ++ rest))) = ([], f ++ (e ++ rest)) :=
      digits_append (by simp) hafter
    rw [List.nil_append] at hdigits
    simp only [List.cons_append, List.nil_append, hdigits, hskip]
  | @digits c cs hc hall =>
    have hdigits := digits_append (fun d hd => hall d (List.mem_cons_of_mem c hd)) hafter
    have hcdigit := hall c List.mem_cons_self
    rw [List.cons_append]
    split
    · rename_i heq
      cases heq
    · rename_i heq
      cases heq
      exact absurd rfl hc
    · rename_i heq
      cases heq
      rw [if_pos hcdigit, hdigits, hskip]

/-! ## Lists and objects -/

/-- A text is passed over, with any blanks before it. -/
def Skips (skip : List Char → Except Fault (List Char)) (v : List Char) : Prop :=
  ∀ blank rest, IsBlank blank → EndsNumber rest → skip (blank ++ (v ++ rest)) = .ok rest

theorem IsLaid.length_le {first : Bool} {parts : List (List Char)} {part cs : List Char}
    (h : IsLaid first parts cs) (hpart : part ∈ parts) : part.length ≤ cs.length := by
  induction h with
  | nil => cases hpart
  | cons _ _ ih =>
    simp only [List.length_append]
    rcases List.mem_cons.mp hpart with rfl | hpart
    · omega
    · have hle := ih hpart
      omega

section

variable {skip : List Char → Except Fault (List Char)}

theorem skipItems_round {first : Bool} {c : Char} {blank cs : List Char} (hblank : IsBlank blank)
    (hspace : isSpace c = false) (hend : c ≠ ']') (hnext : (first || decide (c = ',')) = true)
    (f : Char) (fuel : List Char) :
    skipItems skip (f :: fuel) first (blank ++ c :: cs) =
      skip (if first then c :: cs else cs) >>= skipItems skip fuel false := by
  simp only [skipItems, skipSpace_blank hblank, skipSpace_cons hspace, hnext, if_true]
  cases skip (if first then c :: cs else cs) <;> rfl

/-- At an item, what is skipped is its text, and then what follows it. -/
theorem skipItems_cons {first : Bool} {lead v : List Char} (hlead : IsLead first lead)
    (hv : HasForm v) (hskip : Skips skip v) {tail : List Char} (hends : EndsNumber tail)
    (f : Char) (fuel : List Char) :
    skipItems skip (f :: fuel) first (lead ++ (v ++ tail)) = skipItems skip fuel false tail := by
  cases hlead with
  | first hblank =>
    have hitem := hskip [] tail isBlank_nil hends
    obtain ⟨c, v, rfl, hc⟩ := hv.head
    rw [List.nil_append, List.cons_append] at hitem
    rw [List.cons_append, skipItems_round hblank hc.no_space hc.no_end rfl, if_pos rfl, hitem]
    rfl
  | later hbefore hblank =>
    rw [List.append_assoc, List.cons_append, skipItems_round hbefore (by decide) (by decide) rfl,
      if_neg (by decide), hskip _ tail hblank hends]
    rfl

/-- A list is passed over when the texts of its items are. -/
theorem skipItems_append {parts : List (List Char)} {first : Bool} {cs : List Char}
    (hforms : ∀ part ∈ parts, HasForm part) (hskip : ∀ part ∈ parts, Skips skip part)
    (h : IsLaid first parts cs) {fuel : List Char} (hfuel : cs.length < fuel.length)
    (rest : List Char) : skipItems skip fuel first (cs ++ ']' :: rest) = .ok rest := by
  induction h generalizing fuel with
  | nil hblank =>
    obtain ⟨f, fuel, rfl⟩ := List.exists_cons_of_length_pos (Nat.zero_lt_of_lt hfuel)
    have hbracket : isSpace ']' = false := by decide
    simp only [skipItems, skipSpace_blank hblank, skipSpace_cons hbracket]
  | cons hlead hmore ih =>
    obtain ⟨f, fuel, rfl⟩ := List.exists_cons_of_length_pos (Nat.zero_lt_of_lt hfuel)
    rw [List.forall_mem_cons] at hforms hskip
    have hlength := hforms.1.length_pos
    simp only [List.length_append, List.length_cons] at hfuel
    rw [List.append_assoc, List.append_assoc,
      skipItems_cons hlead hforms.1 hskip.1 (hmore.endsNumber (.inl rfl) rest)]
    exact ih hforms.2 hskip.2 (by omega)

theorem skipMembers_round {first : Bool} {c : Char} {blank cs : List Char} (hblank : IsBlank blank)
    (hspace : isSpace c = false) (hend : c ≠ '\x7d') (hnext : (first || decide (c = ',')) = true)
    (f : Char) (fuel : List Char) :
    skipMembers skip (f :: fuel) first (blank ++ c :: cs) =
      skipMember skip (if first then c :: cs else cs) >>= skipMembers skip fuel false := by
  simp only [skipMembers, skipSpace_blank hblank, skipSpace_cons hspace, hnext, if_true]
  cases skipMember skip (if first then c :: cs else cs) <;> rfl

theorem skipMember_append {m : MemberText} (hname : IsChars m.name) (hspaced : m.IsSpaced)
    {blank : List Char} (hblank : IsBlank blank) (rest : List Char) :
    skipMember skip (blank ++ (m.text ++ rest)) = skip (m.after ++ (m.value ++ rest)) := by
  have hquote : isSpace '"' = false := by decide
  simp only [MemberText.text, List.cons_append, List.append_assoc, skipMember,
    skipSpace_blank hblank, skipSpace_cons hquote, skipName, skipText_append hname, bind,
    Except.bind, colon_append hspaced.before]

/-- At a member, what is skipped is its name and its value, and then what follows them. -/
theorem skipMembers_cons {first : Bool} {lead : List Char} {m : MemberText}
    (hlead : IsLead first lead) (hname : IsChars m.name) (hspaced : m.IsSpaced)
    (hskip : Skips skip m.value) {tail : List Char} (hends : EndsNumber tail) (f : Char)
    (fuel : List Char) : skipMembers skip (f :: fuel) first (lead ++ (m.text ++ tail)) =
      skipMembers skip fuel false tail := by
  have hvalue := hskip m.after tail hspaced.after hends
  cases hlead with
  | first hblank =>
    have hmember : skipMember skip (m.text ++ tail) = .ok tail :=
      (skipMember_append hname hspaced isBlank_nil tail).trans hvalue
    rw [MemberText.text, List.cons_append] at hmember ⊢
    rw [skipMembers_round hblank (by decide) (by decide) rfl, if_pos rfl, hmember]
    rfl
  | later hbefore hblank =>
    rw [List.append_assoc, List.cons_append, skipMembers_round hbefore (by decide) (by decide) rfl,
      if_neg (by decide), skipMember_append hname hspaced hblank, hvalue]
    rfl

/-- An object is passed over when the texts of its values are. -/
theorem skipMembers_append {members : List MemberText} {first : Bool} {cs : List Char}
    (hnamed : ∀ m ∈ members, IsChars m.name) (hspaced : ∀ m ∈ members, m.IsSpaced)
    (hskip : ∀ m ∈ members, Skips skip m.value)
    (h : IsLaid first (members.map MemberText.text) cs) {fuel : List Char}
    (hfuel : cs.length < fuel.length) (rest : List Char) :
    skipMembers skip fuel first (cs ++ '\x7d' :: rest) = .ok rest := by
  induction members generalizing first cs fuel with
  | nil =>
    obtain ⟨f, fuel, rfl⟩ := List.exists_cons_of_length_pos (Nat.zero_lt_of_lt hfuel)
    have hbrace : isSpace '\x7d' = false := by decide
    simp only [skipMembers, skipSpace_blank (isBlank_of_isLaid h), skipSpace_cons hbrace]
  | cons m members ih =>
    obtain ⟨f, fuel, rfl⟩ := List.exists_cons_of_length_pos (Nat.zero_lt_of_lt hfuel)
    rw [List.forall_mem_cons] at hnamed hspaced hskip
    cases h with
    | cons hlead hmore =>
      have hlength : 0 < m.text.length := Nat.succ_pos _
      simp only [List.length_append, List.length_cons] at hfuel
      rw [List.append_assoc, List.append_assoc, skipMembers_cons hlead hnamed.1 hspaced.1 hskip.1
        (hmore.endsNumber (.inr rfl) rest)]
      exact ih hnamed.2 hspaced.2 hskip.2 hmore (by omega)

end

/-! ## Values -/

theorem skipNested_scalar {c : Char} {blank rest : List Char} (hblank : IsBlank blank)
    (hspace : isSpace c = false) (hlist : c ≠ '[') (hobject : c ≠ '\x7b') (fuel : List Char) :
    skipNested fuel (blank ++ c :: rest) = skipScalar (c :: rest) := by
  cases fuel <;>
    simp [skipNested, skipSpace_blank hblank, skipSpace_cons hspace, hlist, hobject]

theorem skipScalar_number {c : Char} {cs rest : List Char} (hc : c = '-' ∨ isDigit c = true)
    (h : skipNumber (c :: cs) = .ok rest) : skipScalar (c :: cs) = .ok rest := by
  have hn : c ≠ 'n' := ne_of_startsNumber hc (by decide)
  have ht : c ≠ 't' := ne_of_startsNumber hc (by decide)
  have hf : c ≠ 'f' := ne_of_startsNumber hc (by decide)
  have hquote : c ≠ '"' := ne_of_startsNumber hc (by decide)
  have hstart : (c = '-' || isDigit c) = true := by simpa using hc
  simp only [skipScalar, hstart, if_true, h]

theorem MemberText.length_value_le (m : MemberText) : m.value.length ≤ m.text.length := by
  simp only [MemberText.text, List.length_cons, List.length_append]
  omega

/-- A text with the form of a value is passed over, at least when it is no longer than the bound
on the depth. -/
theorem skips_skipNested {v : List Char} (h : HasForm v) {fuel : List Char}
    (hfuel : v.length ≤ fuel.length) : Skips (skipNested fuel) v := by
  -- On the form: the text of a part lacks the brackets of the whole, so a smaller bound does.
  induction h generalizing fuel with
  | null =>
    intro blank rest hblank hends
    rw [List.cons_append, skipNested_scalar hblank (by decide) (by decide) (by decide)]
    exact word_append _ rest
  | true =>
    intro blank rest hblank hends
    rw [List.cons_append, skipNested_scalar hblank (by decide) (by decide) (by decide)]
    exact word_append _ rest
  | false =>
    intro blank rest hblank hends
    rw [List.cons_append, skipNested_scalar hblank (by decide) (by decide) (by decide)]
    exact word_append _ rest
  | number htext =>
    intro blank rest hblank hends
    have hskip := skipNumber_append htext hends
    obtain ⟨c, cs, rfl, hc⟩ := htext.head
    rw [List.cons_append] at hskip ⊢
    rw [skipNested_scalar hblank (isSpace_of_startsNumber hc)
      (ne_of_startsNumber hc (by decide)) (ne_of_startsNumber hc (by decide)),
      skipScalar_number hc hskip]
  | text hchars =>
    intro blank rest hblank hends
    rw [List.cons_append, List.append_assoc, List.cons_append, List.nil_append,
      skipNested_scalar hblank (by decide) (by decide) (by decide)]
    exact skipText_append hchars rest
  | @list parts cs hforms hlaid ih =>
    intro blank rest hblank hends
    obtain ⟨f, fuel, rfl⟩ := List.exists_cons_of_length_pos (Nat.zero_lt_of_lt hfuel)
    have hbracket : isSpace '[' = false := by decide
    simp only [List.length_cons, List.length_append, List.length_nil] at hfuel
    have hparts : ∀ part ∈ parts, Skips (skipNested fuel) part := by
      intro part hpart
      have hle := hlaid.length_le hpart
      exact ih part hpart (by omega)
    have hskip : skipItems (skipNested fuel) (cs ++ ']' :: rest) true (cs ++ ']' :: rest) =
        .ok rest := skipItems_append hforms hparts hlaid (by simp) rest
    rw [List.cons_append, List.append_assoc, List.cons_append, List.nil_append]
    simp only [skipNested, skipSpace_blank hblank, skipSpace_cons hbracket, hskip]
  | @object members cs hnamed hspaced hforms hlaid ih =>
    intro blank rest hblank hends
    obtain ⟨f, fuel, rfl⟩ := List.exists_cons_of_length_pos (Nat.zero_lt_of_lt hfuel)
    have hbrace : isSpace '\x7b' = false := by decide
    simp only [List.length_cons, List.length_append, List.length_nil] at hfuel
    have hvalues : ∀ m ∈ members, Skips (skipNested fuel) m.value := by
      intro m hm
      have hle := hlaid.length_le (List.mem_map_of_mem hm)
      have hvalue := m.length_value_le
      exact ih m hm (by omega)
    have hskip : skipMembers (skipNested fuel) (cs ++ '\x7d' :: rest) true
        (cs ++ '\x7d' :: rest) = .ok rest :=
      skipMembers_append hnamed hspaced hvalues hlaid (by simp) rest
    rw [List.cons_append, List.append_assoc, List.cons_append, List.nil_append]
    simp only [skipNested, skipSpace_blank hblank, skipSpace_cons hbrace, hskip]

theorem skips_skipValue {v : List Char} (h : HasForm v) : Skips skipValue v := by
  intro blank rest hblank hends
  exact skips_skipNested h (by simp; omega) blank rest hblank hends

/-- A value is passed over as it is spelled. -/
theorem skipValue_append {stands : Literal → Number → Prop} {j : Json} {v : List Char}
    (h : Spells stands j v) : Skips skipValue v := skips_skipValue (hasForm_of_spells h)

end ResultGateway.Json
