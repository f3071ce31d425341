-- What is skipped has a form. The characters that are passed over are blanks
-- and a text with the form of a value, and each such text is passed over.
import ResultGateway.Proofs.Json.Documents
import ResultGateway.Proofs.Json.Skips

namespace ResultGateway.Json

open Text (isDigit)

/-! ## Texts in quotes -/

theorem skipText_form {cs rest : List Char} (h : skipText cs = .ok rest) :
    ∃ chars, IsChars chars ∧ cs = chars ++ '"' :: rest := by
  fun_induction skipText cs with
  | case2 cs =>
    cases h
    exact ⟨[], .nil, rfl⟩
  | case5 a b c d cs n hword ih =>
    obtain ⟨chars, hchars, rfl⟩ := ih h
    exact ⟨_, .word hword hchars, rfl⟩
  | case7 c cs _ _ e hescape ih =>
    obtain ⟨chars, hchars, rfl⟩ := ih h
    exact ⟨_, .short hescape hchars, rfl⟩
  | case10 c cs hquote hbackslash hcontrol ih =>
    obtain ⟨chars, hchars, rfl⟩ := ih h
    exact ⟨_, .plain (Nat.le_of_not_lt hcontrol) hquote hbackslash hchars, rfl⟩
  | _ => cases h

/-! ## Numbers -/

theorem skipExponent_form {cs rest : List Char} (h : skipExponent cs = .ok rest) :
    ∃ exponent e, IsExponent exponent e ∧ cs = e ++ rest := by
  unfold skipExponent at h
  split at h
  · cases h
    exact ⟨none, [], .none, rfl⟩
  · rename_i c cs
    split at h
    · rename_i hmark
      obtain ⟨sign, hsign, hcs⟩ := takeSign_spelled cs
      split at h
      · cases h
      · rename_i d ds hds
        split at h
        · rename_i hdigit
          cases h
          obtain ⟨more, hall, hmore, -⟩ := digits_spelled ds
          refine ⟨_, _, .digits hmark hsign (List.cons_ne_nil d more)
            (List.forall_mem_cons.mpr ⟨hdigit, hall⟩), ?_⟩
          rw [List.cons_append, List.append_assoc, List.cons_append, ← hmore, ← hds, ← hcs]
        · cases h
    · cases h
      exact ⟨none, [], .none, rfl⟩

theorem skipFraction_form {cs rest : List Char} (h : skipFraction cs = .ok rest) :
    ∃ ds f exponent e, IsFraction ds f ∧ IsExponent exponent e ∧ cs = f ++ (e ++ rest) := by
  unfold skipFraction at h
  split at h
  · rename_i cs
    obtain ⟨ds, hall, hcs, hfound⟩ := digits_spelled cs
    split at h
    · cases h
    · rename_i found more hsome hdigits
      obtain ⟨exponent, e, he, rfl⟩ := skipExponent_form h
      rw [hdigits] at hcs hfound
      refine ⟨ds, '.' :: ds, exponent, e, .digits ?_ hall, he, congrArg ('.' :: ·) hcs⟩
      rintro rfl
      exact hsome hfound
  · obtain ⟨exponent, e, he, rfl⟩ := skipExponent_form h
    exact ⟨[], [], exponent, e, .none, he, rfl⟩

theorem skipNumber_form {cs rest : List Char} (h : skipNumber cs = .ok rest) :
    ∃ (l : Literal) (text : List Char), l.IsText text ∧ cs = text ++ rest := by
  have hminus := takeMinus_spelled cs
  -- Behind the whole digits of a number come its fraction and its exponent.
  have hparts : ∀ {whole more}, IsWhole whole → (takeMinus cs).2 = whole ++ more →
      skipFraction more = .ok rest →
      ∃ (l : Literal) (text : List Char), l.IsText text ∧ cs = text ++ rest := by
    intro whole more hwhole hcs hfraction
    obtain ⟨ds, f, exponent, e, hf, he, rfl⟩ := skipFraction_form hfraction
    refine ⟨_, minusText (takeMinus cs).1 ++ (whole ++ (f ++ e)), .parts hwhole hf he, ?_⟩
    rw [List.append_assoc, List.append_assoc, List.append_assoc, ← hcs]
    exact hminus
  unfold skipNumber at h
  split at h
  · cases h
  · rename_i cs' hzero
    obtain ⟨ds, -, hcs, hfound⟩ := digits_spelled cs'
    split at h
    · rename_i hdigits
      rw [hdigits] at hcs hfound
      obtain rfl : ds = [] := List.map_eq_nil_iff.mp hfound.symm
      exact hparts .zero (hzero.trans (congrArg ('0' :: ·) hcs)) h
    · cases h
  · rename_i c cs' hfront hstart
    split at h
    · rename_i hdigit
      obtain ⟨ds, hall, hcs, -⟩ := digits_spelled cs'
      have hwhole : IsWhole (c :: ds) := .digits hfront (List.forall_mem_cons.mpr ⟨hdigit, hall⟩)
      exact hparts hwhole (hstart.trans (congrArg (c :: ·) hcs)) h
    · cases h

theorem skipScalar_form {cs rest : List Char} (h : skipScalar cs = .ok rest) :
    ∃ v, HasForm v ∧ cs = v ++ rest := by
  unfold skipScalar at h
  split at h
  · cases h
  · exact ⟨_, .null, congrArg ('n' :: ·) (word_eq_ok h)⟩
  · exact ⟨_, .true, congrArg ('t' :: ·) (word_eq_ok h)⟩
  · exact ⟨_, .false, congrArg ('f' :: ·) (word_eq_ok h)⟩
  · obtain ⟨chars, hchars, rfl⟩ := skipText_form h
    refine ⟨_, .text hchars, ?_⟩
    rw [List.cons_append, List.append_assoc, List.singleton_append]
  · split at h
    · obtain ⟨l, text, htext, hcs⟩ := skipNumber_form h
      exact ⟨text, .number htext, hcs⟩
    · cases h

/-! ## Lists and objects -/

/-- What is passed over are blanks and a text with the form of a value. -/
def PassesForms (skip : List Char → Except Fault (List Char)) : Prop :=
  ∀ {cs rest}, skip cs = .ok rest →
    ∃ blank v, IsBlank blank ∧ HasForm v ∧ cs = blank ++ (v ++ rest)

theorem IsLead.blank {first : Bool} {lead blank : List Char} (h : IsLead first lead)
    (hblank : IsBlank blank) : IsLead first (lead ++ blank) := by
  cases h with
  | first hlead => exact .first (isBlank_append hlead hblank)
  | later hbefore hlead =>
    rw [List.append_assoc, List.cons_append]
    exact .later hbefore (isBlank_append hlead hblank)

/-- A part starts behind the comma, unless it is the first. -/
theorem exists_lead {first : Bool} {c : Char} {before : List Char} (hbefore : IsBlank before)
    (hnext : (first || decide (c = ',')) = true) (cs : List Char) :
    ∃ lead, IsLead first lead ∧ before ++ c :: cs = lead ++ if first then c :: cs else cs := by
  cases first with
  | true => exact ⟨before, .first hbefore, rfl⟩
  | false =>
    obtain rfl : c = ',' := by simpa using hnext
    exact ⟨before ++ [','], .later hbefore isBlank_nil, by simp⟩

section

variable {skip : List Char → Except Fault (List Char)} (hskip : PassesForms skip)

include hskip

theorem skipItems_form {fuel : List Char} {first : Bool} {cs rest : List Char}
    (h : skipItems skip fuel first cs = .ok rest) : ∃ parts inside,
      (∀ part ∈ parts, HasForm part) ∧ IsLaid first parts inside ∧ cs = inside ++ ']' :: rest := by
  induction fuel generalizing first cs with
  | nil => cases h
  | cons f fuel ih =>
    obtain ⟨before, hbefore, hcs⟩ := exists_blank cs
    rw [skipItems] at h
    split at h
    · cases h
    · rename_i hend
      cases h
      exact ⟨[], before, List.forall_mem_nil _, .nil hbefore, hend ▸ hcs⟩
    · rename_i c cs' _ hstart
      rw [hstart] at hcs
      split at h
      · rename_i hnext
        split at h
        · cases h
        · rename_i hitem
          obtain ⟨blank, v, hblank, hv, hmore⟩ := hskip hitem
          obtain ⟨lead, hlead, hstart⟩ := exists_lead hbefore hnext cs'
          obtain ⟨parts, inside, hparts, hlaid, rfl⟩ := ih h
          refine ⟨v :: parts, (lead ++ blank) ++ (v ++ inside),
            List.forall_mem_cons.mpr ⟨hv, hparts⟩, .cons (hlead.blank hblank) hlaid, ?_⟩
          rw [hcs, hstart, hmore]
          simp only [List.append_assoc]
      · cases h

theorem skipMember_form {cs rest : List Char} (h : skipMember skip cs = .ok rest) :
    ∃ (blank : List Char) (m : MemberText), IsBlank blank ∧ m.IsFormed ∧
      cs = blank ++ (m.text ++ rest) := by
  obtain ⟨blank, hblank, hcs⟩ := exists_blank cs
  unfold skipMember at h
  split at h
  · cases h
  · rename_i behind hquote
    simp only [skipName, bind, Except.bind] at h
    split at h
    · cases h
    · rename_i hname
      split at hname
      · cases hname
      · rename_i htext
        obtain ⟨name, hname', rfl⟩ := skipText_form htext
        obtain ⟨before, hbefore, rfl⟩ := colon_spelled hname
        obtain ⟨after, v, hafter, hv, rfl⟩ := hskip h
        refine ⟨blank, ⟨name, before, after, v⟩, hblank, ⟨hname', ⟨hbefore, hafter⟩, hv⟩, ?_⟩
        rw [hquote] at hcs
        simpa [MemberText.text] using hcs
  · cases h

theorem skipMembers_form {fuel : List Char} {first : Bool} {cs rest : List Char}
    (h : skipMembers skip fuel first cs = .ok rest) : ∃ (members : List MemberText) (inside : List Char),
      (∀ m ∈ members, m.IsFormed) ∧ IsLaid first (members.map MemberText.text) inside ∧
      cs = inside ++ '\x7d' :: rest := by
  induction fuel generalizing first cs with
  | nil => cases h
  | cons f fuel ih =>
    obtain ⟨before, hbefore, hcs⟩ := exists_blank cs
    rw [skipMembers] at h
    split at h
    · cases h
    · rename_i hend
      cases h
      exact ⟨[], before, List.forall_mem_nil _, .nil hbefore, hend ▸ hcs⟩
    · rename_i c cs' _ hstart
      rw [hstart] at hcs
      split at h
      · rename_i hnext
        split at h
        · cases h
        · rename_i hmember
          obtain ⟨blank, m, hblank, hm, hmore⟩ := skipMember_form hskip hmember
          obtain ⟨lead, hlead, hstart⟩ := exists_lead hbefore hnext cs'
          obtain ⟨members, inside, hmembers, hlaid, rfl⟩ := ih h
          refine ⟨m :: members, (lead ++ blank) ++ (m.text ++ inside),
            List.forall_mem_cons.mpr ⟨hm, hmembers⟩, .cons (hlead.blank hblank) hlaid, ?_⟩
          rw [hcs, hstart, hmore]
          simp only [List.append_assoc]
      · cases h

end

/-! ## Values -/

theorem passesForms_skipNested (fuel : List Char) : PassesForms (skipNested fuel) := by
  induction fuel with
  | nil =>
    intro cs rest h
    obtain ⟨blank, hblank, hcs⟩ := exists_blank cs
    obtain ⟨v, hv, hskipped⟩ := skipScalar_form h
    exact ⟨blank, v, hblank, hv, hskipped ▸ hcs⟩
  | cons f fuel ih =>
    intro cs rest h
    obtain ⟨blank, hblank, hcs⟩ := exists_blank cs
    rw [skipNested] at h
    split at h
    · rename_i hopen
      obtain ⟨parts, inside, hparts, hlaid, rfl⟩ := skipItems_form ih h
      refine ⟨blank, _, hblank, .list hparts hlaid, ?_⟩
      rw [hcs, hopen, List.cons_append, List.append_assoc, List.singleton_append]
    · rename_i hopen
      obtain ⟨members, inside, hmembers, hlaid, rfl⟩ := skipMembers_form ih h
      refine ⟨blank, _, hblank, hasForm_object hmembers hlaid, ?_⟩
      rw [hcs, hopen, List.cons_append, List.append_assoc, List.singleton_append]
    · obtain ⟨v, hv, hskipped⟩ := skipScalar_form h
      exact ⟨blank, v, hblank, hv, hskipped ▸ hcs⟩

theorem passesForms_skipValue : PassesForms skipValue := fun h => passesForms_skipNested _ h

end ResultGateway.Json
