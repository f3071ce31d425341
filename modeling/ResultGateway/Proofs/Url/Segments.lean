-- Segments of a path, and the path as a text. No slash stands within a
-- segment of a path that is read, so the path ends in a slash, as a text,
-- if and only if its last segment is empty. A segment put at the end of a
-- path that ends in a slash stands behind its text, unless that is two
-- slashes.
import Mathlib
import ResultGateway.Proofs.Text.Decimal
import ResultGateway.Proofs.Text.Pieces
import ResultGateway.Proofs.Url.Authority
import ResultGateway.Proofs.Url.Encoding
import ResultGateway.Url.Parse

namespace ResultGateway.Url

/-! ## Segments that are read -/

/-- A path with no slash within a segment. -/
def IsCut (path : List String) : Prop := ∀ segment ∈ path, '/' ∉ segment.toList

/-- No slash is written for a text without slashes. -/
theorem isSlash_encode {cs : List Char} (h : ∀ c ∈ cs, isSlash c = false) :
    ∀ c ∈ Percent.encode Percent.inPath cs, isSlash c = false := by
  have hslash : ∀ c, isSlash c = true → c ≠ '%' ∧ Text.hexValue? c = none := by
    intro c hc
    unfold isSlash at hc
    rw [Bool.or_eq_true, beq_iff_eq, beq_iff_eq] at hc
    rcases hc with rfl | rfl <;> decide
  intro c hc
  rw [Bool.eq_false_iff]
  intro hends
  obtain ⟨hpercent, hhex⟩ := hslash c hends
  rcases Percent.mem_encode hc with ⟨hmem, -⟩ | hsign | hdigit
  · rw [h c hmem] at hends
    cases hends
  · exact hpercent hsign
  · rw [hhex] at hdigit
    cases hdigit

/-- A path is followed to segments that it starts from, to an empty one at its end, and to pieces
that are no dots, encoded. -/
theorem forall_walk {P : String → Prop} (hempty : P "") {pieces : List (List Char)}
    (hpieces : ∀ piece ∈ pieces, isDot piece = false → isDoubleDot piece = false →
      P (String.ofList (Percent.encode Percent.inPath piece)))
    {from' : List String} (hfrom : ∀ segment ∈ from', P segment) :
    ∀ segment ∈ walk from' pieces, P segment := by
  have hconcat : ∀ {segments : List String} {last : String}, (∀ segment ∈ segments, P segment) →
      P last → ∀ segment ∈ segments ++ [last], P segment :=
    fun h hlast => List.forall_mem_append.mpr ⟨h, List.forall_mem_singleton.mpr hlast⟩
  have hleave : ∀ {segments : List String}, (∀ segment ∈ segments, P segment) →
      ∀ segment ∈ leave segments, P segment := by
    intro segments h
    unfold leave
    split
    · split
      · exact h
      · exact fun segment hsegment => h segment (List.mem_of_mem_dropLast hsegment)
    · rintro _ ⟨⟩
  fun_induction walk from' pieces with
  | case1 from' => exact hconcat hfrom hempty
  | case2 from' last _ => exact hconcat (hleave hfrom) hempty
  | case3 from' last _ _ => exact hconcat hfrom hempty
  | case4 from' last hdouble hdot =>
    exact hconcat hfrom (hpieces last List.mem_cons_self (by simpa using hdot)
      (by simpa using hdouble))
  | case5 from' segment rest _ _ ih =>
    exact ih (fun piece h => hpieces piece (List.mem_cons_of_mem _ h)) (hleave hfrom)
  | case6 from' segment rest _ _ _ ih =>
    exact ih (fun piece h => hpieces piece (List.mem_cons_of_mem _ h)) hfrom
  | case7 from' segment rest _ hdouble hdot ih =>
    exact ih (fun piece h => hpieces piece (List.mem_cons_of_mem _ h))
      (hconcat hfrom (hpieces segment List.mem_cons_self (by simpa using hdot)
        (by simpa using hdouble)))

theorem walk_ne_nil (from' : List String) (pieces : List (List Char)) :
    walk from' pieces ≠ [] := by
  fun_induction walk from' pieces with
  | case1 => simp
  | case2 => simp
  | case3 => simp
  | case4 => simp
  | case5 _ _ _ _ _ ih => exact ih
  | case6 _ _ _ _ _ _ ih => exact ih
  | case7 _ _ _ _ _ _ ih => exact ih

/-- A path that is read from a text on its own. -/
theorem isCut_pathFrom (cs : List Char) : IsCut (pathFrom [] cs) := by
  refine forall_walk (by decide) ?_ (by rintro _ ⟨⟩)
  intro piece hpiece _ _
  rw [String.toList_ofList]
  intro hmem
  exact absurd (isSlash_encode (fun c hc => Text.not_separator hpiece hc) '/' hmem) (by decide)

theorem parseBehind_eq_web {kind : SchemeKind} {cs : List Char} {url : Url} :
    parseBehind kind cs = .ok (.web url) ↔
      ∃ scheme, kind = .web scheme ∧ parseAuthority scheme (cs.dropWhile isSlash) = .ok url := by
  constructor
  · intro h
    unfold parseBehind at h
    simp only [bind, Except.bind] at h
    split at h
    · rename_i scheme
      split at h
      · cases h
      · rename_i url' hread
        cases h
        exact ⟨scheme, rfl, hread⟩
    · split at h <;> cases h
    · split at h <;> cases h
    · split at h
      · split at h <;> cases h
      · cases h
  · rintro ⟨scheme, rfl, hread⟩
    show (parseAuthority scheme (cs.dropWhile isSlash) >>= fun url => .ok (Parsed.web url)) = _
    rw [hread]
    rfl

/-- What a URL for the web is read from. -/
theorem parse_eq_web {text : String} {url : Url} : parse text = .ok (.web url) ↔
    ∃ name behind scheme, takeScheme (cleaned text) = some (name, behind) ∧
      SchemeKind.ofName name = .web scheme ∧
      parseAuthority scheme (behind.dropWhile isSlash) = .ok url := by
  unfold parse
  cases takeScheme (cleaned text) with
  | none => simp
  | some read =>
    obtain ⟨name, behind⟩ := read
    dsimp only
    rw [parseBehind_eq_web]
    simp

/-- What the path of a URL for the web is read from. -/
theorem parse_path {text : String} {url : Url} (h : parse text = .ok (.web url)) :
    ∃ cs, url.path = pathFrom [] cs := by
  obtain ⟨_, _, _, -, -, hread⟩ := parse_eq_web.mp h
  obtain ⟨_, _, _, _, left, -, rfl⟩ := parseAuthority_eq_ok.mp hread
  exact ⟨dropSlash left, rfl⟩

/-! ## Texts of paths -/

theorem pathText_append (front back : List String) :
    pathText (front ++ back) = pathText front ++ pathText back := by
  unfold pathText
  rw [List.map_append, String.join_append]

theorem pathText_single (segment : String) : pathText [segment] = "/" ++ segment := by
  simp [pathText]

theorem pathText_cons (segment : String) (path : List String) :
    pathText (segment :: path) = "/" ++ segment ++ pathText path := by
  simp [pathText]

theorem pathText_eq_empty {path : List String} : pathText path = "" ↔ path = [] := by
  cases path with
  | nil => simp [pathText]
  | cons segment path => simp [pathText_cons]

theorem pathText_eq_slash {path : List String} : pathText path = "/" ↔ path = [""] := by
  cases path with
  | nil => simp [pathText]
  | cons segment path =>
    rw [pathText_cons, String.append_assoc]
    constructor
    · intro h
      have hrest : segment ++ pathText path = "" := by simpa using h
      simpa [pathText_eq_empty] using hrest
    · intro h
      cases h
      rfl

/-- A path that ends in a slash is two slashes if it has one empty segment before the last. -/
theorem pathText_eq_slashes {front : List String} :
    pathText (front ++ [""]) = "//" ↔ front = [""] := by
  rw [pathText_append, pathText_single, ← pathText_eq_slash]
  constructor
  · intro h
    have htwo : pathText front ++ "/" = "/" ++ "/" := h
    exact (String.append_left_inj "/").mp htwo
  · intro h
    rw [h]
    rfl

theorem getLast?_pathText {path : List String} (hcut : IsCut path) (hne : path ≠ []) :
    (pathText path).toList.getLast? = some '/' ↔ path.getLast? = some "" := by
  obtain ⟨front, last, rfl⟩ := (List.eq_nil_or_concat path).resolve_left hne
  rw [List.concat_eq_append] at *
  have hlast : '/' ∉ last.toList := hcut last (by simp)
  rw [pathText_append, pathText_single, List.getLast?_concat]
  constructor
  · intro h
    cases hchars : last.toList using List.reverseRecOn with
    | nil => simpa using hchars
    | append_singleton cs c =>
      simp only [String.toList_append, hchars, ← List.append_assoc, List.getLast?_concat] at h
      cases h
      exact absurd (hchars ▸ List.mem_concat_self) hlast
  · intro h
    cases h
    simp

end ResultGateway.Url
