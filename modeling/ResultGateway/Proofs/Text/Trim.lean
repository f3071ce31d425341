-- Trimming. A text is its trimmed text with blanks around it. Blanks around
-- a text change neither what is left of it nor whether anything is left.
import Mathlib.Data.List.DropRight
import ResultGateway.Text.Blank

namespace ResultGateway.Text

/-! ## Characters -/

section

variable {p : Char → Bool} {lead cs trail : List Char}

theorem dropWhile_all (h : ∀ c ∈ cs, p c = true) : cs.dropWhile p = [] :=
  List.dropWhile_eq_nil_iff.mpr h

/-- What is trimmed off stands around what is left. -/
theorem exists_trimBy (p : Char → Bool) (cs : List Char) : ∃ lead trail,
    (∀ c ∈ lead, p c = true) ∧ (∀ c ∈ trail, p c = true) ∧
      cs = lead ++ (trimBy p cs ++ trail) := by
  refine ⟨cs.takeWhile p, (cs.dropWhile p).rtakeWhile p, ?_, ?_, ?_⟩
  · exact List.all_eq_true.mp List.all_takeWhile
  · exact fun c hc => List.mem_rtakeWhile_imp hc
  · show cs = cs.takeWhile p ++ ((cs.dropWhile p).rdropWhile p ++ (cs.dropWhile p).rtakeWhile p)
    rw [List.rdropWhile_append_rtakeWhile, List.takeWhile_append_dropWhile]

theorem trimBy_lead (h : ∀ c ∈ lead, p c = true) : trimBy p (lead ++ cs) = trimBy p cs := by
  unfold trimBy
  rw [List.dropWhile_append_of_pos h]

theorem trimBy_trail (h : ∀ c ∈ trail, p c = true) : trimBy p (cs ++ trail) = trimBy p cs := by
  have hreverse : ∀ c ∈ trail.reverse, p c = true :=
    fun c hc => h c (List.mem_reverse.mp hc)
  unfold trimBy
  rw [List.dropWhile_append]
  split
  · rename_i hempty
    rw [dropWhile_all h, List.isEmpty_iff.mp hempty]
  · rw [List.reverse_append, List.dropWhile_append_of_pos hreverse]

/-- Characters that are trimmed off make no difference. -/
theorem trimBy_between (hlead : ∀ c ∈ lead, p c = true) (htrail : ∀ c ∈ trail, p c = true) :
    trimBy p (lead ++ (cs ++ trail)) = trimBy p cs := by
  rw [trimBy_lead hlead, trimBy_trail htrail]

theorem dropWhile_head (h : ∀ c, cs.head? = some c → p c = false) : cs.dropWhile p = cs := by
  cases cs with
  | nil => rfl
  | cons c cs => rw [List.dropWhile_cons_of_neg (by simp [h c rfl])]

theorem dropWhile_append_cons {c : Char} {rest : List Char} (h : cs.dropWhile p = c :: rest)
    (ds : List Char) : (cs ++ ds).dropWhile p = c :: (rest ++ ds) := by
  rw [List.dropWhile_append, h]
  rfl

/-- Nothing is trimmed off a text with other characters at its ends. -/
theorem trimBy_eq_self (hfirst : ∀ c, cs.head? = some c → p c = false)
    (hlast : ∀ c, cs.getLast? = some c → p c = false) : trimBy p cs = cs := by
  have hreverse : ∀ c, cs.reverse.head? = some c → p c = false := by
    rw [List.head?_reverse]
    exact hlast
  unfold trimBy
  rw [dropWhile_head hfirst, dropWhile_head hreverse, List.reverse_reverse]

end

/-! ## Texts -/

/-- A text of white space only, or of nothing. -/
def IsBlank (s : String) : Prop := ∀ c ∈ s.toList, isBlank c = true

instance (s : String) : Decidable (IsBlank s) :=
  decidable_of_iff (s.toList.all isBlank = true) List.all_eq_true

section

variable {s lead trail : String}

theorem isNonBlank_eq_false : isNonBlank s = false ↔ IsBlank s := by
  simp [isNonBlank, IsBlank]

theorem isBlank_between (hlead : IsBlank lead) (htrail : IsBlank trail) :
    IsBlank (lead ++ s ++ trail) ↔ IsBlank s := by
  unfold IsBlank at *
  simp only [String.toList_append, List.forall_mem_append]
  exact ⟨fun h => h.1.2, fun h => ⟨⟨hlead, h⟩, htrail⟩⟩

/-- Blanks around a text leave it as blank as it was. -/
theorem isNonBlank_between (hlead : IsBlank lead) (htrail : IsBlank trail) :
    isNonBlank (lead ++ s ++ trail) = isNonBlank s := by
  rw [Bool.eq_iff_iff, ← not_iff_not, Bool.not_eq_true, Bool.not_eq_true, isNonBlank_eq_false,
    isNonBlank_eq_false, isBlank_between hlead htrail]

theorem trim_between (hlead : IsBlank lead) (htrail : IsBlank trail) :
    trim (lead ++ s ++ trail) = trim s := by
  unfold trim
  rw [String.toList_append, String.toList_append, List.append_assoc,
    trimBy_between hlead htrail]

/-- A text is its trimmed text with blanks around it. -/
theorem exists_trim (s : String) :
    ∃ lead trail, IsBlank lead ∧ IsBlank trail ∧ s = lead ++ trim s ++ trail := by
  obtain ⟨lead, trail, hlead, htrail, hs⟩ := exists_trimBy isBlank s.toList
  refine ⟨String.ofList lead, String.ofList trail, ?_, ?_, ?_⟩
  · rwa [IsBlank, String.toList_ofList]
  · rwa [IsBlank, String.toList_ofList]
  · apply String.toList_injective
    simp only [trim, String.toList_append, String.toList_ofList, List.append_assoc]
    exact hs

theorem trim_eq_self (h : ∀ c ∈ s.toList, isBlank c = false) : trim s = s := by
  have hends := trimBy_eq_self (fun c hc => h c (List.mem_of_head? hc))
    (fun c hc => h c (List.mem_of_getLast? hc))
  unfold trim
  rw [hends, String.ofList_toList]

theorem trim_trim (s : String) : trim (trim s) = trim s := by
  obtain ⟨lead, trail, hlead, htrail, hs⟩ := exists_trim s
  conv_rhs => rw [hs]
  rw [trim_between hlead htrail]

theorem isNonBlank_trim (s : String) : isNonBlank (trim s) = isNonBlank s := by
  obtain ⟨lead, trail, hlead, htrail, hs⟩ := exists_trim s
  conv_rhs => rw [hs]
  rw [isNonBlank_between hlead htrail]

/-- Nothing is left of blanks, and only of them. -/
theorem trim_eq_empty : trim s = "" ↔ IsBlank s := by
  constructor
  · intro h
    rw [← isNonBlank_eq_false, ← isNonBlank_trim, h]
    rfl
  · intro h
    unfold trim trimBy
    rw [dropWhile_all h]
    rfl

end

end ResultGateway.Text
