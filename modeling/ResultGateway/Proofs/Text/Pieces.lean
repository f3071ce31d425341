-- Pieces of a text: those between separators, and the two parts before and
-- behind the last mark of some kind. No other character gets lost.
import ResultGateway.Text.Table

namespace ResultGateway.Text

/-- What a partial map gives for an element is among all that it gives. -/
theorem exists_of_mapM {α β : Type} {f : α → Option β} {as : List α} {bs : List β}
    (h : as.mapM f = some bs) {a : α} (ha : a ∈ as) : ∃ b ∈ bs, f a = some b := by
  induction as generalizing bs with
  | nil => cases ha
  | cons first as ih =>
    rw [List.mapM_cons] at h
    simp only [Option.bind_eq_bind, Option.bind_eq_some_iff] at h
    obtain ⟨b, hb, rest, hrest, heq⟩ := h
    cases heq
    rcases List.mem_cons.mp ha with rfl | ha
    · exact ⟨b, List.mem_cons_self, hb⟩
    · obtain ⟨b', hmem, hb'⟩ := ih hrest ha
      exact ⟨b', List.mem_cons_of_mem _ hmem, hb'⟩

/-! ## Between separators -/

theorem splitBy_ne_nil (p : Char → Bool) (cs : List Char) : splitBy p cs ≠ [] := by
  unfold splitBy
  simp

theorem splitBy_separator {p : Char → Bool} {c : Char} (hc : p c = true) (cs : List Char) :
    splitBy p (c :: cs) = [] :: splitBy p cs := by
  unfold splitBy
  rw [List.foldr_cons]
  generalize List.foldr _ _ cs = x
  simp [hc]

theorem splitBy_other {p : Char → Bool} {c : Char} (hc : p c = false) {cs first : List Char}
    {pieces : List (List Char)} (h : splitBy p cs = first :: pieces) :
    splitBy p (c :: cs) = (c :: first) :: pieces := by
  unfold splitBy at *
  rw [List.foldr_cons]
  generalize List.foldr _ _ cs = x at *
  obtain ⟨pieces', last⟩ := x
  cases h
  simp [hc]

/-- A character that separates nothing stands in a piece. -/
theorem mem_piece {p : Char → Bool} {cs : List Char} {c : Char} (hc : p c = false) (h : c ∈ cs) :
    ∃ piece ∈ splitBy p cs, c ∈ piece := by
  induction cs with
  | nil => cases h
  | cons d cs ih =>
    cases hd : p d with
    | true =>
      rw [splitBy_separator hd]
      rcases List.mem_cons.mp h with rfl | h
      · rw [hc] at hd
        cases hd
      · obtain ⟨piece, hpiece, hmem⟩ := ih h
        exact ⟨piece, List.mem_cons_of_mem _ hpiece, hmem⟩
    | false =>
      obtain ⟨first, pieces, hsplit⟩ := List.exists_cons_of_ne_nil (splitBy_ne_nil p cs)
      rw [splitBy_other hd hsplit]
      rw [hsplit] at ih
      rcases List.mem_cons.mp h with rfl | h
      · exact ⟨_, List.mem_cons_self, List.mem_cons_self⟩
      · obtain ⟨piece, hpiece, hmem⟩ := ih h
        rcases List.mem_cons.mp hpiece with rfl | hpiece
        · exact ⟨_, List.mem_cons_self, List.mem_cons_of_mem _ hmem⟩
        · exact ⟨piece, List.mem_cons_of_mem _ hpiece, hmem⟩

/-- No separator stands in a piece. -/
theorem not_separator {p : Char → Bool} {cs piece : List Char} (hpiece : piece ∈ splitBy p cs)
    {c : Char} (hc : c ∈ piece) : p c = false := by
  induction cs generalizing piece with
  | nil =>
    rw [List.mem_singleton.mp hpiece] at hc
    cases hc
  | cons d cs ih =>
    cases hd : p d with
    | true =>
      rw [splitBy_separator hd] at hpiece
      rcases List.mem_cons.mp hpiece with rfl | hpiece
      · cases hc
      · exact ih hpiece hc
    | false =>
      obtain ⟨first, pieces, hsplit⟩ := List.exists_cons_of_ne_nil (splitBy_ne_nil p cs)
      rw [splitBy_other hd hsplit] at hpiece
      rw [hsplit] at ih
      rcases List.mem_cons.mp hpiece with rfl | hpiece
      · rcases List.mem_cons.mp hc with rfl | hc
        · exact hd
        · exact ih List.mem_cons_self hc
      · exact ih (List.mem_cons_of_mem _ hpiece) hc

/-- A text without separators is one piece. -/
theorem splitBy_plain {p : Char → Bool} {cs : List Char} (h : ∀ c ∈ cs, p c = false) :
    splitBy p cs = [cs] := by
  induction cs with
  | nil => rfl
  | cons c cs ih =>
    obtain ⟨hc, hcs⟩ := List.forall_mem_cons.mp h
    exact splitBy_other hc (ih hcs)

theorem splitBy_append_separator {p : Char → Bool} {c : Char} (hc : p c = true)
    (cs ds : List Char) : splitBy p (cs ++ c :: ds) = splitBy p cs ++ splitBy p ds := by
  induction cs with
  | nil => exact splitBy_separator hc ds
  | cons d cs ih =>
    cases hd : p d with
    | true =>
      rw [List.cons_append, splitBy_separator hd, splitBy_separator hd, ih]
      rfl
    | false =>
      obtain ⟨first, pieces, hsplit⟩ := List.exists_cons_of_ne_nil (splitBy_ne_nil p cs)
      rw [hsplit] at ih
      rw [List.cons_append, splitBy_other hd ih, splitBy_other hd hsplit]
      rfl

/-- What separates nothing belongs to the last piece of the text before it. -/
theorem splitBy_append_piece {p : Char → Bool} {ds : List Char} (hds : ∀ d ∈ ds, p d = false)
    (cs : List Char) : ∃ front last, splitBy p cs = front ++ [last] ∧
      splitBy p (cs ++ ds) = front ++ [last ++ ds] := by
  induction cs with
  | nil =>
    exact ⟨[], [], rfl, splitBy_plain hds⟩
  | cons c cs ih =>
    obtain ⟨front, last, hsplit, happend⟩ := ih
    cases hc : p c with
    | true =>
      refine ⟨[] :: front, last, ?_, ?_⟩
      · rw [splitBy_separator hc, hsplit]
        rfl
      · rw [List.cons_append, splitBy_separator hc, happend]
        rfl
    | false =>
      cases front with
      | nil =>
        refine ⟨[], c :: last, ?_, ?_⟩
        · exact splitBy_other hc hsplit
        · exact splitBy_other hc happend
      | cons first front =>
        refine ⟨(c :: first) :: front, last, ?_, ?_⟩
        · exact splitBy_other hc hsplit
        · exact splitBy_other hc happend

/-! ## Behind the last mark -/

/-- What stands behind the last mark; all of a text that has no mark. -/
def behindLast (mark : Char) (cs : List Char) : List Char :=
  (cs.reverse.takeWhile (· != mark)).reverse

theorem ne_mark {mark : Char} {cs : List Char} (h : mark ∉ cs) :
    ∀ c ∈ cs.reverse, (c != mark) = true := by
  intro c hc
  simp only [bne_iff_ne]
  rintro rfl
  exact h (List.mem_reverse.mp hc)

theorem behindLast_append {mark : Char} {front behind : List Char} (h : mark ∉ behind) :
    behindLast mark (front ++ mark :: behind) = behind := by
  unfold behindLast
  rw [List.reverse_append, List.reverse_cons, List.append_assoc,
    List.takeWhile_append_of_pos (ne_mark h)]
  simp

theorem behindLast_eq_self {mark : Char} {cs : List Char} (h : mark ∉ cs) :
    behindLast mark cs = cs := by
  unfold behindLast
  rw [← List.append_nil cs.reverse, List.takeWhile_append_of_pos (ne_mark h)]
  simp

theorem behindLast_append_right {mark : Char} {behind : List Char} (h : mark ∉ behind)
    (cs : List Char) : behindLast mark (cs ++ behind) = behindLast mark cs ++ behind := by
  unfold behindLast
  rw [List.reverse_append, List.takeWhile_append_of_pos (ne_mark h), List.reverse_append,
    List.reverse_reverse]

theorem behindLast_subset (mark : Char) (cs : List Char) : behindLast mark cs ⊆ cs := by
  intro c hc
  unfold behindLast at hc
  exact List.mem_reverse.mp ((List.takeWhile_prefix _).subset (List.mem_reverse.mp hc))

/-- A text with a mark is cut at its last one. -/
theorem exists_behindLast {mark : Char} {cs : List Char} (h : mark ∈ cs) :
    ∃ front, cs = front ++ mark :: behindLast mark cs ∧ mark ∉ behindLast mark cs ∧
      cs.take (cs.length - (behindLast mark cs).length - 1) = front := by
  obtain ⟨behind, front, heq, hnone⟩ := List.eq_append_cons_of_mem (List.mem_reverse.mpr h)
  have hcs : cs = front.reverse ++ mark :: behind.reverse := by
    rw [← List.reverse_reverse cs, heq]
    simp
  have hmark : mark ∉ behind.reverse := by simpa using hnone
  have hlast : behindLast mark cs = behind.reverse := hcs ▸ behindLast_append hmark
  refine ⟨front.reverse, ?_, ?_, ?_⟩
  · rw [hlast]
    exact hcs
  · rw [hlast]
    exact hmark
  · have hlength : cs.length - behind.reverse.length - 1 = front.reverse.length := by
      rw [hcs]
      simp
      omega
    rw [hlast, hlength, hcs, List.take_left]

end ResultGateway.Text
