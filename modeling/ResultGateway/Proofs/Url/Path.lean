-- Paths and ends of URLs. There is neither a query nor a fragment if and
-- only if no sign for one stands in the text. Two segments at the end of a
-- text that are no dots are the last two of the path.
import Mathlib
import ResultGateway.Proofs.Text.Pieces
import ResultGateway.Url.Parse

namespace ResultGateway.Url

/-! ## Ends -/

/-- A sign that starts the query or the fragment. -/
def startsEnd (c : Char) : Bool := c == '?' || c == '#'

theorem not_startsEnd (c : Char) : (c != '?' && c != '#') = !startsEnd c := by
  unfold startsEnd
  simp [bne]

theorem takeEnd_eq_none {cs : List Char} :
    takeEnd cs = (none, none) ↔ ∀ c ∈ cs, startsEnd c = false := by
  unfold takeEnd
  simp only [not_startsEnd]
  cases htail : cs.dropWhile (fun c => !startsEnd c) with
  | nil =>
    have hall := List.dropWhile_eq_nil_iff.mp htail
    simpa using hall
  | cons c rest =>
    have hstarts : startsEnd c = true := by
      have hhead := List.head?_dropWhile_not (fun c => !startsEnd c) cs
      rw [htail] at hhead
      simpa using hhead
    have hmem : c ∈ cs := (List.dropWhile_suffix _).subset (htail ▸ List.mem_cons_self)
    have hnot : ¬ ∀ c ∈ cs, startsEnd c = false := by
      intro hall
      rw [hall c hmem] at hstarts
      cases hstarts
    simp only [hnot, iff_false]
    by_cases hquery : c = '?'
    · subst hquery
      simp
    · have hsharp : c = '#' := by
        unfold startsEnd at hstarts
        simpa [hquery] using hstarts
      subst hsharp
      simp

/-- A text that starts where the path has ended. -/
def IsEnd (cs : List Char) : Prop := ∀ c, cs.head? = some c → startsEnd c = true

/-- A path is read up to where a query or a fragment starts. -/
theorem pathFrom_append {cs tail : List Char} (hcs : ∀ c ∈ cs, startsEnd c = false)
    (htail : IsEnd tail) (segments : List String) :
    pathFrom segments (cs ++ tail) = walk segments (Text.splitBy isSlash cs) := by
  have hkept : ∀ c ∈ cs, (!startsEnd c) = true := fun c hc => by rw [hcs c hc]; rfl
  have hnone : tail.takeWhile (fun c => !startsEnd c) = [] := by
    cases tail with
    | nil => rfl
    | cons c tail => rw [List.takeWhile_cons_of_neg (by simp [htail c rfl])]
  unfold pathFrom
  simp only [not_startsEnd]
  rw [List.takeWhile_append_of_pos hkept, hnone, List.append_nil]

theorem pathFrom_plain {cs : List Char} (hcs : ∀ c ∈ cs, startsEnd c = false)
    (segments : List String) : pathFrom segments cs = walk segments (Text.splitBy isSlash cs) := by
  have hread := pathFrom_append hcs (fun c hc => nomatch hc : IsEnd []) segments
  rwa [List.append_nil] at hread

/-! ## Segments -/

/-- A segment with a colon leads neither up nor nowhere. -/
theorem not_dots_of_colon {segment : List Char} (h : ':' ∈ segment) :
    isDoubleDot segment = false ∧ isDot segment = false := by
  have hlower : ':' ∈ segment.map Char.toLower := List.mem_map.mpr ⟨':', h, rfl⟩
  have hne : ∀ text : String, ':' ∉ text.toList →
      String.ofList (segment.map Char.toLower) ≠ text := by
    rintro text hnone rfl
    rw [String.toList_ofList] at hnone
    exact hnone hlower
  refine ⟨?_, ?_⟩
  · unfold isDoubleDot
    simp only [List.contains_cons, List.contains_nil, Bool.or_false, Bool.or_eq_false_iff,
      beq_eq_false_iff_ne]
    refine ⟨hne _ ?_, hne _ ?_, hne _ ?_, hne _ ?_⟩
    all_goals decide
  · unfold isDot
    simp only [Bool.or_eq_false_iff, beq_eq_false_iff_ne]
    refine ⟨?_, ?_⟩
    · rintro rfl
      exact absurd h (by decide)
    · intro heq
      rw [heq] at hlower
      exact absurd hlower (by decide)

/-- A piece that is not the last one leads on. -/
theorem walk_cons (from' : List String) (segment : List Char) {rest : List (List Char)}
    (hrest : rest ≠ []) : walk from' (segment :: rest) =
      if isDoubleDot segment then walk (leave from') rest
      else if isDot segment then walk from' rest
      else walk (from' ++ [String.ofList (Percent.encode Percent.inPath segment)]) rest := by
  obtain ⟨next, more, rfl⟩ := List.exists_cons_of_ne_nil hrest
  rw [walk]
  exact List.cons_ne_nil next more

theorem walk_last_two {segment last : List Char}
    (hsegment : isDoubleDot segment = false ∧ isDot segment = false)
    (hlast : isDoubleDot last = false ∧ isDot last = false)
    (from' : List String) (front : List (List Char)) :
    ∃ segments, walk from' (front ++ [segment, last]) = segments ++
      [String.ofList (Percent.encode Percent.inPath segment),
        String.ofList (Percent.encode Percent.inPath last)] := by
  induction front generalizing from' with
  | nil =>
    refine ⟨from', ?_⟩
    simp [walk, hsegment, hlast]
  | cons first front ih =>
    rw [List.cons_append, walk_cons from' first (by simp)]
    split
    · exact ih _
    · split
      · exact ih _
      · exact ih _

end ResultGateway.Url
