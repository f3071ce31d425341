-- What the reader reads is spelled. The characters that a reading takes off
-- a text are blanks and a text of the grammar, and the value is the one
-- that this spells, with sorted members. So a text is read if and only if
-- it is a document, and of the members under one name the last is found.
import ResultGateway.Proofs.Json.Forms
import ResultGateway.Proofs.Json.Lists

namespace ResultGateway.Json

open Text (isDigit)

/-! ## Blanks and words -/

theorem isBlank_append {first later : List Char} (h : IsBlank first) (hlater : IsBlank later) :
    IsBlank (first ++ later) := List.forall_mem_append.mpr ⟨h, hlater⟩

theorem exists_blank (cs : List Char) : ∃ blank, IsBlank blank ∧ cs = blank ++ skipSpace cs :=
  ⟨cs.takeWhile isSpace, List.all_eq_true.mp List.all_takeWhile,
    List.takeWhile_append_dropWhile.symm⟩

theorem word_eq_ok {letters cs rest : List Char} (h : word letters cs = .ok rest) :
    cs = letters ++ rest := by
  fun_induction word letters cs with
  | case1 cs =>
    cases h
    rfl
  | case2 => cases h
  | case3 letters c cs ih => rw [ih h, List.cons_append]
  | case4 => cases h

/-! ## Numbers -/

/-- The digits at the front of a text, and what is behind them. -/
theorem digits_spelled (cs : List Char) : ∃ ds, (∀ d ∈ ds, isDigit d = true) ∧
    cs = ds ++ (digits cs).2 ∧ (digits cs).1 = digitValues ds :=
  ⟨cs.takeWhile isDigit, List.all_eq_true.mp List.all_takeWhile,
    List.takeWhile_append_dropWhile.symm, rfl⟩

theorem digits_cons {c : Char} (hc : isDigit c = true) (cs : List Char) :
    digits (c :: cs) = (Text.digitValue c :: (digits cs).1, (digits cs).2) := by
  unfold digits
  rw [List.takeWhile_cons_of_pos hc, List.dropWhile_cons_of_pos hc]
  rfl

theorem wholeDigits_spelled {cs rest : List Char} {found : List Nat}
    (h : wholeDigits cs = .ok (found, rest)) :
    ∃ whole, IsWhole whole ∧ cs = whole ++ rest ∧ found = digitValues whole := by
  unfold wholeDigits at h
  split at h
  · cases h
  · rename_i cs
    obtain ⟨ds, -, hcs, hfound⟩ := digits_spelled cs
    split at h
    · rename_i hdigits
      cases h
      rw [hdigits] at hcs hfound
      obtain rfl : ds = [] := List.map_eq_nil_iff.mp hfound.symm
      exact ⟨['0'], .zero, congrArg ('0' :: ·) hcs, rfl⟩
    · cases h
  · rename_i c cs hzero
    split at h
    · rename_i hdigit
      obtain ⟨ds, hall, hcs, hfound⟩ := digits_spelled cs
      rw [digits_cons hdigit] at h
      cases h
      refine ⟨c :: ds, .digits hzero (List.forall_mem_cons.mpr ⟨hdigit, hall⟩), ?_, ?_⟩
      · rw [List.cons_append, ← hcs]
      · rw [hfound]
        rfl
    · cases h

theorem fractionDigits_spelled {cs rest : List Char} {found : List Nat}
    (h : fractionDigits cs = .ok (found, rest)) :
    ∃ ds f, IsFraction ds f ∧ cs = f ++ rest ∧ found = digitValues ds := by
  unfold fractionDigits at h
  split at h
  · rename_i cs
    obtain ⟨ds, hall, hcs, hfound⟩ := digits_spelled cs
    split at h
    · cases h
    · cases h
    · rename_i hsome
      rw [Except.ok.inj h] at hcs hfound hsome
      refine ⟨ds, '.' :: ds, .digits ?_ hall, congrArg ('.' :: ·) hcs, hfound⟩
      rintro rfl
      exact hsome rest (congrArg (·, rest) hfound)
  · cases h
    exact ⟨[], [], .none, rfl, rfl⟩

theorem takeSign_spelled (cs : List Char) :
    ∃ sign, IsSign (takeSign cs).1 sign ∧ cs = sign ++ (takeSign cs).2 := by
  unfold takeSign
  split
  · exact ⟨['+'], .plus, rfl⟩
  · exact ⟨['-'], .minus, rfl⟩
  · exact ⟨[], .none, rfl⟩

theorem exponentDigits_spelled {cs rest : List Char} {found : Option (Bool × List Nat × List Char)}
    (h : exponentDigits cs = .ok (found, rest)) :
    ∃ exponent e, IsExponent exponent e ∧ cs = e ++ rest ∧
      found.map (fun e => (e.1, e.2.1)) = exponent.map fun e => (e.1, digitValues e.2) := by
  unfold exponentDigits at h
  split at h
  · cases h
    exact ⟨none, [], .none, rfl, rfl⟩
  · rename_i c cs
    split at h
    · rename_i hmark
      obtain ⟨sign, hsign, hcs⟩ := takeSign_spelled cs
      dsimp only at h
      split at h
      · cases h
      · rename_i d ds hds
        split at h
        · rename_i hdigit
          obtain ⟨more, hall, hmore, hfound⟩ := digits_spelled ds
          rw [hds, digits_cons hdigit] at h
          cases h
          refine ⟨some ((takeSign cs).1, d :: more), c :: (sign ++ (d :: more)),
            .digits hmark hsign (List.cons_ne_nil d more)
              (List.forall_mem_cons.mpr ⟨hdigit, hall⟩), ?_, ?_⟩
          · rw [List.cons_append, List.append_assoc, List.cons_append, ← hmore, ← hds, ← hcs]
          · rw [hfound]
            rfl
        · cases h
    · cases h
      exact ⟨none, [], .none, rfl, rfl⟩

theorem takeMinus_spelled (cs : List Char) :
    cs = minusText (takeMinus cs).1 ++ (takeMinus cs).2 := by
  unfold takeMinus
  split <;> rfl

/-- A number that is read is given by a literal, whose text was there. -/
theorem number_spelled {cs rest : List Char} {n : Number} (h : Step.number cs = .ok (n, rest)) :
    ∃ (l : Literal) (text : List Char), l.IsText text ∧ l.Gives n ∧ cs = text ++ rest := by
  unfold Step.number at h
  simp only [bind, Except.bind] at h
  have hminus := takeMinus_spelled cs
  split at h
  · cases h
  · rename_i hwhole
    obtain ⟨whole, hiswhole, hcs, hfound⟩ := wholeDigits_spelled hwhole
    split at h
    · cases h
    · rename_i hfraction
      obtain ⟨ds, f, hisfraction, hcs', hfound'⟩ := fractionDigits_spelled hfraction
      split at h
      · cases h
      · rename_i hexponent
        obtain ⟨exponent, e, hisexponent, hcs'', hfound''⟩ := exponentDigits_spelled hexponent
        split at h
        · rename_i hvalue
          cases h
          rw [hfound, hfound', hfound''] at hvalue
          refine ⟨_, _, .parts hiswhole hisfraction hisexponent, hvalue, ?_⟩
          rw [List.append_assoc, List.append_assoc, List.append_assoc, ← hcs'', ← hcs', ← hcs,
            ← hminus]
        · cases h
        · split at h <;> cases h

/-! ## Texts in quotes -/

/-- A text that is read is spelled by the characters up to its closing quote. -/
theorem textRest_spelled {found cs rest : List Char} {s : String}
    (h : textRest found cs = .ok (s, rest)) :
    ∃ t chars, SpellsChars t chars ∧ cs = chars ++ '"' :: rest ∧
      s = String.ofList (found.reverse ++ t) := by
  -- The cases are the branches of the reading; all but five of them refuse.
  fun_induction textRest found cs with
  | case2 found cs =>
    cases h
    exact ⟨[], [], .nil, rfl, by rw [List.append_nil]⟩
  | case9 found a b c d high hfirst _ hhigh e f g h' cs low hsecond hlow ih =>
    obtain ⟨t, chars, ht, rfl, rfl⟩ := ih h
    refine ⟨_, _, .pair hfirst hhigh hsecond hlow ht, rfl, ?_⟩
    rw [List.reverse_cons, List.append_assoc, List.singleton_append]
  | case14 found a b c d cs n hword hlow hhigh ih =>
    obtain ⟨t, chars, ht, rfl, rfl⟩ := ih h
    refine ⟨_, _, .word hword (Bool.eq_false_iff.mpr hlow) (Bool.eq_false_iff.mpr hhigh) ht,
      rfl, ?_⟩
    rw [List.reverse_cons, List.append_assoc, List.singleton_append]
  | case16 found c cs _ _ e hescape ih =>
    obtain ⟨t, chars, ht, rfl, rfl⟩ := ih h
    refine ⟨_, _, .short hescape ht, rfl, ?_⟩
    rw [List.reverse_cons, List.append_assoc, List.singleton_append]
  | case19 found c cs hquote hbackslash hcontrol ih =>
    obtain ⟨t, chars, ht, rfl, rfl⟩ := ih h
    refine ⟨_, _, .plain (Nat.le_of_not_lt hcontrol) hquote hbackslash ht, rfl, ?_⟩
    rw [List.reverse_cons, List.append_assoc, List.singleton_append]
  | _ => cases h

theorem text_spelled {cs rest : List Char} {s : String} (h : Step.text cs = .ok (s, rest)) :
    ∃ chars, SpellsChars s.toList chars ∧ cs = chars ++ '"' :: rest := by
  obtain ⟨t, chars, ht, hcs, rfl⟩ := textRest_spelled h
  rw [List.reverse_nil, List.nil_append, String.toList_ofList]
  exact ⟨chars, ht, hcs⟩

/-! ## Readings of values -/

/-- A reading that takes off the front of a text some blanks and a text that spells a value, and
gives that value with sorted members. The value nests at most so deep. -/
def ReadsSpelled (depth : Nat) (read : Step Json) : Prop :=
  ∀ {cs value rest}, read cs = .ok (value, rest) → ∃ written blank text,
    cs = blank ++ (text ++ rest) ∧ IsBlank blank ∧ Spells Literal.Gives written text ∧
    Within (fun _ => True) depth written ∧ value = written.sorted

theorem scalar_spelled {cs rest : List Char} {value : Json} (h : scalar cs = .ok (value, rest)) :
    ∃ text, cs = text ++ rest ∧ Spells Literal.Gives value text ∧
      Within (fun _ => True) 0 value ∧ value = value.sorted := by
  unfold scalar at h
  simp only [bind, Except.bind, pure, Except.pure] at h
  split at h
  · cases h
  · split at h <;> cases h
    rename_i hword
    exact ⟨_, congrArg ('n' :: ·) (word_eq_ok hword), .null, .null, by rw [sorted]⟩
  · split at h <;> cases h
    rename_i hword
    exact ⟨_, congrArg ('t' :: ·) (word_eq_ok hword), .true, .bool true, by rw [sorted]⟩
  · split at h <;> cases h
    rename_i hword
    exact ⟨_, congrArg ('f' :: ·) (word_eq_ok hword), .false, .bool false, by rw [sorted]⟩
  · split at h <;> cases h
    rename_i part htext
    obtain ⟨chars, hchars, rfl⟩ := text_spelled htext
    refine ⟨_, ?_, .str (.quoted hchars), .str _, by rw [sorted]⟩
    rw [List.cons_append, List.append_assoc, List.singleton_append]
  · split at h
    · split at h <;> cases h
      rename_i part hnumber
      obtain ⟨l, text, htext, hgives, hcs⟩ := number_spelled hnumber
      exact ⟨text, hcs, .num htext hgives, .num trivial, by rw [sorted]⟩
    · cases h

theorem readsSpelled_scalar {depth : Nat} {cs rest : List Char} {value : Json}
    (h : scalar (skipSpace cs) = .ok (value, rest)) : ∃ written blank text,
    cs = blank ++ (text ++ rest) ∧ IsBlank blank ∧ Spells Literal.Gives written text ∧
    Within (fun _ => True) depth written ∧ value = written.sorted := by
  obtain ⟨blank, hblank, hcs⟩ := exists_blank cs
  obtain ⟨text, htext, hspelled, hwithin, hsorted⟩ := scalar_spelled h
  exact ⟨value, blank, text, by rw [← htext, ← hcs], hblank, hspelled,
    hwithin.mono (Nat.zero_le depth), hsorted⟩

/-! ## Lists -/

section

variable {stands : Literal → Number → Prop} {blank cs : List Char} (h : IsBlank blank)

include h

theorem SpellsItems.after_blank {items : List Json} (hitems : SpellsItems stands items cs) :
    SpellsItems stands items (blank ++ cs) := by
  cases hitems with
  | nil hblank => exact .nil (isBlank_append h hblank)
  | cons hblank value more =>
    rw [← List.append_assoc]
    exact .cons (isBlank_append h hblank) value more

theorem SpellsMembers.after_blank {members : List (String × Json)}
    (hmembers : SpellsMembers stands members cs) : SpellsMembers stands members (blank ++ cs) := by
  cases hmembers with
  | nil hblank => exact .nil (isBlank_append h hblank)
  | cons hblank named hbefore hafter value more =>
    rw [← List.append_assoc]
    exact .cons (isBlank_append h hblank) named hbefore hafter value more

end

/-- Before an item stand blanks, and a comma unless the item is the first. -/
theorem nextItem_spelled {first : Bool} {cs more : List Char}
    (h : nextItem first cs = .ok (true, more)) :
    ∃ lead, IsLead first lead ∧ cs = lead ++ more := by
  obtain ⟨before, hbefore, hcs⟩ := exists_blank cs
  unfold nextItem at h
  split at h
  · cases h
  · cases h
  · rename_i c cs' _ hskip
    rw [hskip] at hcs
    split at h
    · rename_i hfirst
      cases h
      cases hfirst
      exact ⟨before, .first hbefore, hcs⟩
    · rename_i hfirst
      cases Bool.eq_false_iff.mpr hfirst
      split at h
      · rename_i hcomma
        cases hcomma
        obtain ⟨blank, hblank, hcs'⟩ := exists_blank cs'
        split at h
        · cases h
        · cases h
        · cases h
          refine ⟨before ++ ',' :: blank, .later hbefore hblank, ?_⟩
          rw [List.append_assoc, List.cons_append, ← hcs', ← hcs]
      · cases h

theorem IsLead.items {stands : Literal → Number → Prop} {first : Bool} {lead inside : List Char}
    {item : Json} {later : List Json} (h : IsLead first lead)
    (hitems : SpellsItems stands (item :: later) inside) :
    SpellsFrom stands first (item :: later) (lead ++ inside) := by
  cases h with
  | first hblank => exact hitems.after_blank hblank
  | later hbefore hblank =>
    rw [List.append_assoc, List.cons_append]
    exact .cons hbefore (hitems.after_blank hblank)

theorem nextItem_end_spelled {first : Bool} {cs more : List Char}
    (h : nextItem first cs = .ok (false, more)) : ∃ blank tail, IsBlank blank ∧
      cs = blank ++ more ∧ more = ']' :: tail := by
  obtain ⟨blank, hblank, hcs⟩ := exists_blank cs
  unfold nextItem at h
  split at h
  · cases h
  · rename_i tail hskip
    cases h
    exact ⟨blank, tail, hblank, hskip ▸ hcs, rfl⟩
  · split at h
    · cases h
    · split at h
      · split at h <;> cases h
      · cases h

theorem spellsFrom_blank {stands : Literal → Number → Prop} (first : Bool) {blank : List Char}
    (h : IsBlank blank) : SpellsFrom stands first [] blank := by
  cases first with
  | true => exact SpellsItems.nil h
  | false => exact SpellsMoreItems.nil h

theorem sortedItems_eq (items : List Json) : sortedItems items = items.map sorted := by
  induction items with
  | nil => rfl
  | cons item rest ih => rw [sortedItems, ih, List.map_cons]

/-- Items that are read are spelled, from the start of a list or from behind an item on. -/
theorem readItems_spelled {depth : Nat} {read : Step Json} (hread : ReadsSpelled depth read)
    {fuel : List Char} {first : Bool} {found items : List Json} {cs rest : List Char}
    (h : readItems read fuel first found cs = .ok (items, rest)) :
    ∃ written inside tail, cs = inside ++ rest ∧ rest = ']' :: tail ∧
      SpellsFrom Literal.Gives first written inside ∧
      (∀ item ∈ written, Within (fun _ => True) depth item) ∧
      items = found.reverse ++ sortedItems written := by
  induction fuel generalizing first found cs with
  | nil => cases h
  | cons c fuel ih =>
    rw [readItems] at h
    split at h
    · cases h
    · rename_i hnext
      cases h
      obtain ⟨blank, tail, hblank, hcs, hrest⟩ := nextItem_end_spelled hnext
      exact ⟨[], blank, tail, hcs, hrest, spellsFrom_blank first hblank, List.forall_mem_nil _,
        (List.append_nil _).symm⟩
    · rename_i more hnext
      obtain ⟨lead, hlead, hcs⟩ := nextItem_spelled hnext
      split at h
      · cases h
      · rename_i hitem
        obtain ⟨item, blank, text, hmore, hblank, hvalue, hdepth, rfl⟩ := hread hitem
        obtain ⟨later, inside, tail, hinside, hrest, hlater, hdepths, hitems⟩ := ih h
        refine ⟨item :: later, lead ++ (blank ++ (text ++ inside)), tail, ?_, hrest,
          hlead.items (.cons hblank hvalue hlater), List.forall_mem_cons.mpr ⟨hdepth, hdepths⟩, ?_⟩
        · rw [hcs, hmore, hinside]
          simp only [List.append_assoc]
        · rw [hitems, List.reverse_cons, List.append_assoc, List.singleton_append, sortedItems]

/-! ## Objects -/

/-- Before a name stand blanks, and a comma unless the member is the first. -/
theorem nextName_spelled {first : Bool} {cs more : List Char}
    (h : nextName first cs = .ok (true, more)) :
    ∃ lead, IsLead first lead ∧ cs = lead ++ '"' :: more := by
  obtain ⟨before, hbefore, hcs⟩ := exists_blank cs
  unfold nextName at h
  split at h
  · cases h
  · cases h
  · rename_i c cs' _ hskip
    rw [hskip] at hcs
    split at h
    · rename_i hfirst
      cases hfirst
      split at h
      · rename_i hquote
        cases hquote
        cases h
        exact ⟨before, .first hbefore, hcs⟩
      · cases h
    · rename_i hfirst
      cases Bool.eq_false_iff.mpr hfirst
      split at h
      · rename_i hcomma
        cases hcomma
        obtain ⟨blank, hblank, hcs'⟩ := exists_blank cs'
        split at h
        · cases h
        · rename_i hquote
          cases h
          rw [hquote] at hcs'
          refine ⟨before ++ ',' :: blank, .later hbefore hblank, ?_⟩
          rw [List.append_assoc, List.cons_append, ← hcs', ← hcs]
        · cases h
        · cases h
      · cases h

theorem IsLead.members {stands : Literal → Number → Prop} {first : Bool}
    {lead inside : List Char} {member : String × Json} {later : List (String × Json)}
    (h : IsLead first lead) (hmembers : SpellsMembers stands (member :: later) inside) :
    SpellsNamesFrom stands first (member :: later) (lead ++ inside) := by
  cases h with
  | first hblank => exact hmembers.after_blank hblank
  | later hbefore hblank =>
    rw [List.append_assoc, List.cons_append]
    exact .cons hbefore (hmembers.after_blank hblank)

theorem nextName_end_spelled {first : Bool} {cs more : List Char}
    (h : nextName first cs = .ok (false, more)) : ∃ blank tail, IsBlank blank ∧
      cs = blank ++ more ∧ more = '\x7d' :: tail := by
  obtain ⟨blank, hblank, hcs⟩ := exists_blank cs
  unfold nextName at h
  split at h
  · cases h
  · rename_i tail hskip
    cases h
    exact ⟨blank, tail, hblank, hskip ▸ hcs, rfl⟩
  · split at h
    · split at h <;> cases h
    · split at h
      · split at h <;> cases h
      · cases h

theorem spellsNamesFrom_blank {stands : Literal → Number → Prop} (first : Bool)
    {blank : List Char} (h : IsBlank blank) : SpellsNamesFrom stands first [] blank := by
  cases first with
  | true => exact SpellsMembers.nil h
  | false => exact SpellsMoreMembers.nil h

theorem colon_spelled {cs rest : List Char} (h : colon cs = .ok rest) :
    ∃ before, IsBlank before ∧ cs = before ++ ':' :: rest := by
  obtain ⟨before, hbefore, hcs⟩ := exists_blank cs
  unfold colon at h
  split at h
  · cases h
  · rename_i hskip
    cases h
    exact ⟨before, hbefore, hskip ▸ hcs⟩
  · cases h

/-- A member that is read is spelled from behind its name on, and put into its place. -/
theorem readMember_spelled {depth : Nat} {read : Step Json} (hread : ReadsSpelled depth read)
    {found next : List (String × Json)} {name : String} {cs rest : List Char}
    (h : readMember read found name cs = .ok (next, rest)) : ∃ value before after text,
      cs = before ++ ':' :: (after ++ (text ++ rest)) ∧ IsBlank before ∧ IsBlank after ∧
      Spells Literal.Gives value text ∧ Within (fun _ => True) depth value ∧
      next = insertMember name value.sorted found := by
  simp only [readMember, bind, Except.bind, pure, Except.pure] at h
  split at h
  · cases h
  · rename_i hcolon
    obtain ⟨before, hbefore, rfl⟩ := colon_spelled hcolon
    split at h
    · cases h
    · rename_i hvalue
      cases h
      obtain ⟨value, after, text, rfl, hafter, hspelled, hdepth, hsorted⟩ := hread hvalue
      exact ⟨value, before, after, text, rfl, hbefore, hafter, hspelled, hdepth,
        congrArg (insertMember name · found) hsorted⟩

/-- Members that are read are spelled, from the start of an object or from behind a member on. -/
theorem readMembers_spelled {depth : Nat} {read : Step Json} (hread : ReadsSpelled depth read)
    {fuel : List Char} {first : Bool} {found members : List (String × Json)} {cs rest : List Char}
    (h : readMembers id (readMember read) fuel first found cs = .ok (members, rest)) :
    ∃ written inside tail, cs = inside ++ rest ∧ rest = '\x7d' :: tail ∧
      SpellsNamesFrom Literal.Gives first written inside ∧
      (∀ member ∈ written, Within (fun _ => True) depth member.2) ∧
      members = (sortedValues written).foldl
        (fun sorted member => insertMember member.1 member.2 sorted) found := by
  induction fuel generalizing first found cs with
  | nil => cases h
  | cons c fuel ih =>
    rw [readMembers] at h
    split at h
    · cases h
    · rename_i hnext
      cases h
      obtain ⟨blank, tail, hblank, hcs, hrest⟩ := nextName_end_spelled hnext
      exact ⟨[], blank, tail, hcs, hrest, spellsNamesFrom_blank first hblank,
        List.forall_mem_nil _, rfl⟩
    · rename_i more hnext
      obtain ⟨lead, hlead, hcs⟩ := nextName_spelled hnext
      split at h
      · cases h
      · rename_i name behind hname
        obtain ⟨chars, hchars, rfl⟩ := text_spelled hname
        split at h
        · cases h
        · rename_i hmember
          obtain ⟨value, before, after, text, rfl, hbefore, hafter, hvalue, hdepth, rfl⟩ :=
            readMember_spelled hread hmember
          obtain ⟨later, inside, tail, rfl, hrest, hlater, hdepths, hmembers⟩ := ih h
          have hinside := hlead.members
            (.cons isBlank_nil (.quoted hchars) hbefore hafter hvalue hlater)
          refine ⟨(name, value) :: later, _, tail, ?_, hrest, hinside,
            List.forall_mem_cons.mpr ⟨hdepth, hdepths⟩, ?_⟩
          · rw [hcs]
            simp only [List.append_assoc, List.cons_append, List.nil_append]
          · rw [hmembers, sortedValues, List.foldl_cons]

/-! ## Values -/

theorem readsSpelled_readValue (depth : Nat) : ReadsSpelled depth (readValue depth) := by
  -- The depth counts down as the reader goes in, so parts are spelled one level lower.
  induction depth with
  | zero =>
    intro cs value rest h
    rw [readValue] at h
    split at h
    · cases h
    · cases h
    · exact readsSpelled_scalar h
  | succ depth ih =>
    intro cs value rest h
    obtain ⟨blank, hblank, hcs⟩ := exists_blank cs
    rw [readValue] at h
    split at h
    · rename_i hskip
      split at h
      · cases h
      · rename_i hitems
        cases h
        obtain ⟨written, inside, tail, rfl, rfl, hspells, hdepths, rfl⟩ :=
          readItems_spelled ih hitems
        refine ⟨.arr written, blank, _, ?_, hblank, .arr hspells, .arr hdepths, ?_⟩
        · rw [hcs, hskip, List.cons_append, List.append_assoc]
          rfl
        · rw [sorted]
          rfl
    · rename_i hskip
      split at h
      · cases h
      · rename_i hmembers
        cases h
        obtain ⟨written, inside, tail, rfl, rfl, hspells, hdepths, rfl⟩ :=
          readMembers_spelled ih hmembers
        refine ⟨.obj written, blank, _, ?_, hblank, .obj hspells, .obj hdepths, ?_⟩
        · rw [hcs, hskip, List.cons_append, List.append_assoc]
          rfl
        · rw [sorted]
          rfl
    · exact readsSpelled_scalar h

/-! ## Documents -/

/-- A text that is a document of a value: it spells the value, with blanks around it. The value
nests no deeper than the reader goes, and its members stand in the order of the text. -/
def IsDocument (text : String) (written : Json) : Prop :=
  Within (fun _ => True) greatestDepth written ∧ ∃ lead inside trail,
    text.toList = lead ++ (inside ++ trail) ∧ IsBlank lead ∧ IsBlank trail ∧
    Spells Literal.Gives written inside

theorem isBlank_of_skipSpace {cs : List Char} (h : skipSpace cs = []) : IsBlank cs := by
  obtain ⟨blank, hblank, hcs⟩ := exists_blank cs
  rw [h, List.append_nil] at hcs
  exact hcs ▸ hblank

/-- A text is read if and only if it is a document, and then as the value that it is a document
of, with sorted members. -/
theorem parse_eq_ok {text : String} {value : Json} :
    parse text = .ok value ↔ ∃ written, IsDocument text written ∧ value = written.sorted := by
  constructor
  · intro h
    obtain ⟨rest, hread, hend⟩ := whole_eq_ok.mp h
    obtain ⟨written, lead, inside, htext, hlead, hspelled, hdepth, hvalue⟩ :=
      readsSpelled_readValue greatestDepth hread
    exact ⟨written, ⟨hdepth, lead, inside, rest, htext, hlead, isBlank_of_skipSpace hend, hspelled⟩,
      hvalue⟩
  · rintro ⟨written, ⟨hdepth, lead, inside, trail, htext, hlead, htrail, hspelled⟩, rfl⟩
    unfold parse
    rw [htext]
    exact whole_of_spells hdepth hspelled hlead htrail

theorem sorted_eq_list {written : Json} {items : List Json} :
    written.sorted = .arr items ↔ ∃ inside, written = .arr inside ∧ inside.map sorted = items := by
  cases written <;> simp [sorted, ofMembers, sortedItems_eq]

theorem sorted_eq_obj {written : Json} {members : List (String × Json)}
    (h : written.sorted = .obj members) : ∃ inside, written = .obj inside := by
  cases written <;> simp_all [sorted, ofMembers]

theorem sorted_eq_str {written : Json} {s : String} :
    written.sorted = .str s ↔ written = .str s := by
  cases written <;> simp [sorted, ofMembers]

/-- A text is read as a list if and only if it is a document of one. -/
theorem parse_eq_list {text : String} {items : List Json} : parse text = .ok (.arr items) ↔
    ∃ written, IsDocument text (.arr written) ∧ items = written.map sorted := by
  rw [parse_eq_ok]
  constructor
  · rintro ⟨written, hdocument, hitems⟩
    obtain ⟨inside, rfl, rfl⟩ := sorted_eq_list.mp hitems.symm
    exact ⟨inside, hdocument, rfl⟩
  · rintro ⟨written, hdocument, rfl⟩
    exact ⟨.arr written, hdocument, by rw [sorted, sortedItems_eq]⟩

/-! ## Members under one name -/

/-- The last member of an object under a name; other values have none. -/
def last? : Json → String → Option Json
  | .obj members, name => lookup name members.reverse
  | _, _ => none

theorem sortedValues_eq (members : List (String × Json)) :
    sortedValues members = members.map fun member => (member.1, member.2.sorted) := by
  induction members with
  | nil => rfl
  | cons member rest ih =>
    obtain ⟨name, value⟩ := member
    rw [sortedValues, ih, List.map_cons]

theorem lookup_map_sorted (name : String) (members : List (String × Json)) :
    lookup name (members.map fun member => (member.1, member.2.sorted)) =
      (lookup name members).map sorted := by
  induction members with
  | nil => rfl
  | cons member rest ih =>
    obtain ⟨other, value⟩ := member
    rw [List.map_cons, lookup, lookup, ih]
    split <;> rfl

/-- Under a name is found what the last member of that name is, with sorted members. -/
theorem get?_sorted (j : Json) (name : String) :
    j.sorted.get? name = (j.last? name).map sorted := by
  cases j with
  | obj members =>
    rw [sorted, ofMembers, get?, last?, lookup_sortMembers, sortedValues_eq, ← List.map_reverse,
      lookup_map_sorted]
  | _ => rw [sorted]; rfl

end ResultGateway.Json
