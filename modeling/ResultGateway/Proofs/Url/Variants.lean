-- Texts of one base URL. What a base URL keeps is read from what stands
-- before the query and the fragment, and one slash more at the end of that
-- makes no difference unless there is one already: the path is closed by a
-- slash in any case.
import Mathlib
import ResultGateway.Proofs.Text.Trim
import ResultGateway.Proofs.Url.Authority
import ResultGateway.Proofs.Url.Path
import ResultGateway.Proofs.Url.Segments

namespace ResultGateway.Url

open Text (behindLast isDigit splitBy)

variable {auth front path rest rest' tail tail' : List Char}

/-! ## Behind the authority -/

/-- Where the host ends does not depend on what stands behind the authority. -/
theorem exists_hostLength (hauth : IsWithin auth) : ∃ n ≤ auth.length, ∀ rest, IsBehind rest →
    hostLength endsPart false (auth ++ rest) = n := by
  rcases hostLength_cases hauth false with ⟨front, behind, heq, hlength⟩ | hlength | ⟨-, hlength⟩
  · refine ⟨front.length, ?_, fun rest _ => hlength rest⟩
    rw [heq, List.length_append]
    exact Nat.le_add_right _ _
  · refine ⟨auth.length, le_rfl, fun rest hrest => ?_⟩
    rw [hlength, hostLength_behind hrest, Nat.zero_add]
  · refine ⟨auth.length, le_rfl, fun rest hrest => ?_⟩
    rw [hlength, hostLength_behind hrest, Nat.zero_add]

/-- A port that is read up to what stands behind the authority is read up to anything else that
may stand there. -/
theorem takeColonPort_tail {cs : List Char} {port : Option Nat} (hrest : IsBehind rest)
    (hrest' : IsBehind rest') (h : takeColonPort (cs ++ rest) = .ok (port, rest)) :
    takeColonPort (cs ++ rest') = .ok (port, rest') := by
  cases cs with
  | nil =>
    rw [List.nil_append, takeColonPort_behind hrest] at h
    cases h
    exact takeColonPort_behind hrest'
  | cons c cs =>
    have hlonger : ∀ d ds, d :: ds ++ rest ≠ rest :=
      fun d ds heq => absurd (List.append_left_eq_self.mp heq) (List.cons_ne_nil d ds)
    by_cases hc : c = ':'
    · subst hc
      change takePort (cs ++ rest) = _ at h
      -- Digits are read as far as they go, which is up to `rest`, so there is nothing else before.
      have hdigits : ∀ d ∈ cs, isDigit d = true := by
        rw [← List.dropWhile_eq_nil_iff]
        cases hdrop : cs.dropWhile isDigit with
        | nil => rfl
        | cons d more =>
          have hleft := takePort_rest h
          rw [Text.dropWhile_append_cons hdrop] at hleft
          exact absurd hleft.symm (hlonger d more)
      rw [takePort_digits hdigits hrest] at h
      change takePort (cs ++ rest') = _
      rw [takePort_digits hdigits hrest']
      split at h
      · cases h
      · rename_i hfits
        cases h
        rw [if_neg hfits]
    · exfalso
      unfold takeColonPort at h
      split at h
      · rename_i heq
        cases heq
        exact hc rfl
      · simp only [Except.ok.injEq, Prod.mk.injEq] at h
        exact hlonger c cs h.2

/-- The parts of an authority do not depend on what stands behind it. -/
theorem takeAuthority_tail (hauth : IsWithin auth) (hrest : IsBehind rest)
    (hrest' : IsBehind rest') {user : String} {password : Option String} {host : Host}
    {port : Option Nat}
    (h : takeAuthority (auth ++ rest) = .ok (user, password, host, port, rest)) :
    takeAuthority (auth ++ rest') = .ok (user, password, host, port, rest') := by
  obtain ⟨text, huser, hlength, hhost, hport⟩ := takeAuthority_eq_ok.mp h
  obtain rfl := takeUserInfo_left hauth hrest huser
  have hwithin : IsWithin (behindLast '@' auth) := fun c hc =>
    hauth c (Text.behindLast_subset '@' auth hc)
  obtain ⟨n, hle, hn⟩ := exists_hostLength hwithin
  have hsome : behindLast '@' auth ≠ [] := by
    intro hnil
    rw [hnil] at hlength
    exact hlength (hostLength_behind hrest false)
  obtain ⟨user', password', hread, -⟩ := takeUserInfo_eq hauth hsome
  rw [hread rest hrest] at huser
  cases huser
  rw [hn rest hrest] at hlength hhost hport
  rw [List.take_append_of_le_length hle] at hhost
  rw [List.drop_append_of_le_length hle] at hport
  rw [takeAuthority_eq_ok]
  refine ⟨_, hread rest' hrest', ?_, ?_, ?_⟩
  · rw [hn rest' hrest']
    exact hlength
  · rw [hn rest' hrest', List.take_append_of_le_length hle]
    exact hhost
  · rw [hn rest' hrest', List.drop_append_of_le_length hle]
    exact takeColonPort_tail hrest hrest' hport

/-- No authority is empty. -/
theorem takeAuthority_behind (hrest : IsBehind rest) {user : String} {password : Option String}
    {host : Host} {port : Option Nat} {left : List Char} :
    takeAuthority rest ≠ .ok (user, password, host, port, left) := by
  intro h
  have hnil : IsWithin [] := fun _ hc => nomatch hc
  obtain ⟨text, huser, hlength, -⟩ := takeAuthority_eq_ok.mp h
  obtain rfl := takeUserInfo_left hnil hrest huser
  exact hlength (hostLength_behind hrest false)

/-! ## Behind the scheme -/

/-- The characters of a scheme, as they are written. -/
structure IsScheme (cs : List Char) : Prop where
  letter : ∃ c, cs.head? = some c ∧ c.isAlpha = true
  chars : ∀ c ∈ cs, isSchemeChar c = true

theorem takeScheme_eq_some {cs name behind : List Char} : takeScheme cs = some (name, behind) ↔
    ∃ scheme, IsScheme scheme ∧ cs = scheme ++ ':' :: behind ∧ name = scheme.map Char.toLower := by
  constructor
  · intro h
    unfold takeScheme at h
    split at h
    · cases h
    · rename_i c more
      split at h
      · rename_i halpha
        split at h
        · rename_i rest hdrop
          cases h
          have hsplit := List.takeWhile_append_dropWhile (p := isSchemeChar) (l := c :: more)
          have hc : isSchemeChar c = true := by
            unfold isSchemeChar Char.isAlphanum
            rw [halpha]
            rfl
          refine ⟨_, ⟨⟨c, ?_, halpha⟩, List.all_eq_true.mp List.all_takeWhile⟩, ?_, rfl⟩
          · rw [List.takeWhile_cons_of_pos hc]
            rfl
          · rw [← hdrop, hsplit]
        · cases h
      · cases h
  · rintro ⟨scheme, ⟨⟨c, hhead, halpha⟩, hchars⟩, rfl, rfl⟩
    obtain ⟨more, rfl⟩ := List.head?_eq_some_iff.mp hhead
    have htake : (c :: more ++ ':' :: behind).takeWhile isSchemeChar = c :: more := by
      rw [List.takeWhile_append_of_pos hchars, List.takeWhile_cons_of_neg (by decide),
        List.append_nil]
    have hdrop : (c :: more ++ ':' :: behind).dropWhile isSchemeChar = ':' :: behind := by
      rw [List.dropWhile_append_of_pos hchars, List.dropWhile_cons_of_neg (by decide)]
    rw [List.cons_append] at htake hdrop ⊢
    unfold takeScheme
    dsimp only
    rw [if_pos halpha, hdrop, htake]
    rfl

/-- A scheme that is read stands before anything that may end an authority. -/
theorem takeScheme_tail (htail : IsBehind tail) {name behind : List Char}
    (h : takeScheme (front ++ tail) = some (name, behind)) :
    ∃ rest, behind = rest ++ tail ∧ rest <:+ front ∧
      ∀ tail', takeScheme (front ++ tail') = some (name, rest ++ tail') := by
  have hplain : ∀ c, tail.head? = some c → isSchemeChar c = false ∧ c ≠ ':' :=
    fun c hc => (plain_of_endsPart (htail c hc)).2
  obtain ⟨scheme, hscheme, heq, rfl⟩ := takeScheme_eq_some.mp h
  rcases List.append_eq_append_iff.mp heq with ⟨more, rfl, htail⟩ | ⟨more, rfl, hrest⟩
  · exfalso
    cases more with
    | nil => exact (hplain ':' (by rw [htail]; rfl)).2 rfl
    | cons c more =>
      have hc := hscheme.chars c (by simp)
      rw [(hplain c (by rw [htail]; rfl)).1] at hc
      cases hc
  · cases more with
    | nil => exact absurd rfl (hplain ':' (by rw [← List.nil_append tail, ← hrest]; rfl)).2
    | cons c more =>
      cases hrest
      refine ⟨more, rfl, ?_, fun tail' => ?_⟩
      · exact (List.suffix_cons ':' more).trans (List.suffix_append scheme _)
      · exact takeScheme_eq_some.mpr ⟨scheme, hscheme, by simp, rfl⟩

/-! ## Bases -/

/-- A path with an empty segment at its end. -/
def closed (path : List String) : List String :=
  if path.getLast? == some "" then path else path ++ [""]

/-- The path of a base URL, as it is read from what stands behind the authority. -/
def closedPath (cs : List Char) : List String := closed (pathFrom [] (dropSlash cs))

/-- A text, cleaned, that a base URL is read from. -/
def ReadsBase (cs : List Char) (base : Url) : Prop :=
  ∃ name behind scheme url, takeScheme cs = some (name, behind) ∧
    SchemeKind.ofName name = .web scheme ∧
    parseAuthority scheme (behind.dropWhile isSlash) = .ok url ∧ base = url.asBase

theorem readsBase_iff {raw : String} {base : Url} :
    ReadsBase (cleaned raw) base ↔ ∃ url, parse raw = .ok (.web url) ∧ base = url.asBase := by
  constructor
  · rintro ⟨name, behind, scheme, url, hscheme, hkind, hread, hbase⟩
    exact ⟨url, parse_eq_web.mpr ⟨name, behind, scheme, hscheme, hkind, hread⟩, hbase⟩
  · rintro ⟨url, hparse, hbase⟩
    obtain ⟨name, behind, scheme, hscheme, hkind, hread⟩ := parse_eq_web.mp hparse
    exact ⟨name, behind, scheme, url, hscheme, hkind, hread, hbase⟩

/-- A text that may stand behind a URL, and does not start one by itself. -/
structure IsTail (tail : List Char) : Prop where
  behind : IsBehind tail
  hostless : IsBehind (tail.dropWhile isSlash)

/-- A text is cut where its authority ends. -/
theorem exists_authority (cs : List Char) :
    ∃ auth path, cs = auth ++ path ∧ IsWithin auth ∧ IsBehind path := by
  by_cases h : IsWithin cs
  · exact ⟨cs, [], (List.append_nil cs).symm, h, nofun⟩
  · obtain ⟨front, c, behind, heq, hfront, hc⟩ := exists_end h
    exact ⟨front, c :: behind, heq, hfront, isBehind_cons hc behind⟩

theorem isBehind_append (hpath : IsBehind path) (htail : IsBehind tail) :
    IsBehind (path ++ tail) := by
  cases path with
  | nil => exact htail
  | cons c path => exact isBehind_cons (hpath c rfl) (path ++ tail)

theorem asBase_withPath (u : Url) (cs : List Char) :
    (withPath u [] (dropSlash cs)).asBase =
      { u with path := closedPath cs, query := none, fragment := none } := rfl

/-- What stands at the end of a text makes no difference to the base URL if it makes none to the
path of it. -/
theorem readsBase_tail (htail : IsTail tail) (htail' : IsTail tail')
    (hpath : ∀ path, path <:+ front → IsBehind path →
      closedPath (path ++ tail) = closedPath (path ++ tail')) {base : Url}
    (h : ReadsBase (front ++ tail) base) : ReadsBase (front ++ tail') base := by
  obtain ⟨name, behind, scheme, url, hscheme, hkind, hread, rfl⟩ := h
  obtain ⟨rest, rfl, hsuffix, hscheme'⟩ := takeScheme_tail htail.behind hscheme
  obtain ⟨user, password, host, port, left, hauthority, rfl⟩ := parseAuthority_eq_ok.mp hread
  cases hdrop : rest.dropWhile isSlash with
  | nil =>
    -- With nothing but slashes in front, the tail would have to start with a host.
    rw [List.dropWhile_append, hdrop] at hauthority
    exact absurd hauthority (takeAuthority_behind htail.hostless)
  | cons c more =>
    obtain ⟨auth, path, hsplit, hauth, hbehind⟩ := exists_authority (c :: more)
    have hfront : path <:+ front :=
      ((hsplit ▸ List.suffix_append auth path).trans
        (hdrop ▸ List.dropWhile_suffix isSlash)).trans hsuffix
    have htext : ∀ ds, (rest ++ ds).dropWhile isSlash = auth ++ (path ++ ds) := by
      intro ds
      rw [Text.dropWhile_append_cons hdrop, ← List.cons_append, hsplit, List.append_assoc]
    rw [htext] at hauthority
    obtain rfl := takeAuthority_left hauth (isBehind_append hbehind htail.behind) hauthority
    have hauthority' := takeAuthority_tail hauth (isBehind_append hbehind htail.behind)
      (isBehind_append hbehind htail'.behind) hauthority
    rw [← htext] at hauthority'
    refine ⟨name, rest ++ tail', scheme, _, hscheme' tail', hkind,
      parseAuthority_eq_ok.mpr ⟨user, password, host, port, path ++ tail', hauthority', rfl⟩, ?_⟩
    rw [asBase_withPath, asBase_withPath, hpath path hfront hbehind]

/-! ## Queries and fragments -/

/-- What is read of a text up to its query and its fragment. -/
def bare (text : String) : List Char := (cleaned text).takeWhile fun c => !startsEnd c

theorem startsEnd_bare (text : String) : ∀ c ∈ bare text, startsEnd c = false := by
  intro c hc
  have hkept := List.all_eq_true.mp (List.all_takeWhile (p := fun c => !startsEnd c)) c hc
  simpa using hkept

/-- The query and the fragment stand behind the rest of a text. -/
theorem exists_bare (text : String) : ∃ tail, cleaned text = bare text ++ tail ∧ IsEnd tail := by
  refine ⟨(cleaned text).dropWhile fun c => !startsEnd c,
    List.takeWhile_append_dropWhile.symm, ?_⟩
  intro c hc
  have hhead := List.head?_dropWhile_not (fun c => !startsEnd c) (cleaned text)
  rw [hc] at hhead
  simpa using hhead

theorem isSlash_startsEnd {c : Char} (h : startsEnd c = true) : isSlash c = false := by
  unfold startsEnd at h
  rw [Bool.or_eq_true, beq_iff_eq, beq_iff_eq] at h
  rcases h with rfl | rfl <;> rfl

theorem isTail_end (htail : IsEnd tail) : IsTail tail := by
  have hbehind : IsBehind tail := by
    intro c hc
    have hstarts := htail c hc
    unfold startsEnd at hstarts
    unfold endsPart
    rw [Bool.or_assoc, hstarts, Bool.or_true]
  refine ⟨hbehind, ?_⟩
  rw [Text.dropWhile_head fun c hc => isSlash_startsEnd (htail c hc)]
  exact hbehind

theorem dropSlash_append (path : List Char) (htail : IsEnd tail) :
    dropSlash (path ++ tail) = dropSlash path ++ tail := by
  cases path with
  | nil =>
    cases tail with
    | nil => rfl
    | cons c tail =>
      show (if isSlash c then tail else c :: tail) = c :: tail
      rw [isSlash_startsEnd (htail c rfl)]
      rfl
  | cons c path =>
    show (if isSlash c then path ++ tail else c :: (path ++ tail)) =
      (if isSlash c then path else c :: path) ++ tail
    split <;> rfl

theorem dropSlash_subset (cs : List Char) : dropSlash cs ⊆ cs := by
  intro c hc
  cases cs with
  | nil => cases hc
  | cons d cs =>
    unfold dropSlash at hc
    dsimp only at hc
    split at hc
    · exact List.mem_cons_of_mem d hc
    · exact hc

theorem closedPath_end (hpath : ∀ c ∈ path, startsEnd c = false) (htail : IsEnd tail) :
    closedPath (path ++ tail) = closedPath path := by
  have hplain : ∀ c ∈ dropSlash path, startsEnd c = false :=
    fun c hc => hpath c (dropSlash_subset path hc)
  unfold closedPath
  rw [dropSlash_append path htail, pathFrom_append hplain htail, pathFrom_plain hplain]

/-- A base URL is read from what stands before the query and the fragment. -/
theorem readsBase_bare {raw : String} {base : Url} :
    ReadsBase (cleaned raw) base ↔ ReadsBase (bare raw) base := by
  obtain ⟨tail, heq, htail⟩ := exists_bare raw
  have hnone : IsEnd [] := fun c hc => nomatch hc
  have hpath : ∀ path, path <:+ bare raw → closedPath (path ++ tail) = closedPath (path ++ []) := by
    intro path hsuffix
    have hplain : ∀ c ∈ path, startsEnd c = false :=
      fun c hc => startsEnd_bare raw c (hsuffix.subset hc)
    rw [closedPath_end hplain htail, List.append_nil]
  rw [heq, ← List.append_nil (bare raw), List.append_assoc, List.nil_append]
  exact ⟨readsBase_tail (isTail_end htail) (isTail_end hnone) fun path hsuffix _ =>
      hpath path hsuffix,
    readsBase_tail (isTail_end hnone) (isTail_end htail) fun path hsuffix _ =>
      (hpath path hsuffix).symm⟩

/-! ## Slashes at the end -/

theorem closed_empty (front : List String) : closed (front ++ [""]) = front ++ [""] := by
  simp [closed]

theorem closed_other (front : List String) {last : String} (h : last ≠ "") :
    closed (front ++ [last]) = front ++ [last] ++ [""] := by
  simp [closed, h]

theorem walk_empty (from' : List String) : walk from' [[]] = from' ++ [""] := by
  simp [walk, isDot, isDoubleDot, Percent.encode]

/-- An empty piece behind a piece that is not closes the path. -/
theorem closed_walk {pieces : List (List Char)} (hlast : pieces.getLast? ≠ some [])
    (from' : List String) :
    closed (walk from' (pieces ++ [[]])) = closed (walk from' pieces) := by
  have hone : ([[]] : List (List Char)) ≠ [] := List.cons_ne_nil _ _
  have hbehind : ∀ {segment : List Char} {rest : List (List Char)}, (rest = [] → False) →
      (segment :: rest).getLast? ≠ some [] → rest.getLast? ≠ some [] := by
    intro segment rest hrest h
    rwa [← List.singleton_append, List.getLast?_append_of_ne_nil _ hrest] at h
  -- All pieces but the last are followed alike; the empty one then adds what `closed` would.
  fun_induction walk from' pieces with
  | case1 from' => rw [List.nil_append, walk_empty]
  | case2 from' last hdouble =>
    rw [List.singleton_append, walk_cons from' last hone, if_pos hdouble, walk_empty]
  | case3 from' last hdouble hdot =>
    rw [List.singleton_append, walk_cons from' last hone, if_neg hdouble, if_pos hdot, walk_empty]
  | case4 from' last hdouble hdot =>
    have hsome : String.ofList (Percent.encode Percent.inPath last) ≠ "" := by
      rw [ne_eq, ← String.toList_inj, String.toList_ofList]
      intro hnil
      rw [encode_eq_nil.mp hnil] at hlast
      exact hlast rfl
    rw [List.singleton_append, walk_cons from' last hone, if_neg hdouble, if_neg hdot, walk_empty,
      closed_empty, closed_other from' hsome]
  | case5 from' segment rest hrest hdouble ih =>
    rw [List.cons_append, walk_cons from' segment (List.append_ne_nil_of_right_ne_nil rest hone),
      if_pos hdouble]
    exact ih (hbehind hrest hlast)
  | case6 from' segment rest hrest hdouble hdot ih =>
    rw [List.cons_append, walk_cons from' segment (List.append_ne_nil_of_right_ne_nil rest hone),
      if_neg hdouble, if_pos hdot]
    exact ih (hbehind hrest hlast)
  | case7 from' segment rest hrest hdouble hdot ih =>
    rw [List.cons_append, walk_cons from' segment (List.append_ne_nil_of_right_ne_nil rest hone),
      if_neg hdouble, if_neg hdot]
    exact ih (hbehind hrest hlast)

theorem closedPath_slash (hbehind : IsBehind path) (hpath : ∀ c ∈ path, startsEnd c = false)
    (hlast : ∀ c, path.getLast? = some c → isSlash c = false) :
    closedPath (path ++ ['/']) = closedPath path := by
  cases path with
  | nil => rfl
  | cons c more =>
    obtain ⟨hc, hmore⟩ := List.forall_mem_cons.mp hpath
    have hslash : isSlash c = true := by
      have hends := hbehind c rfl
      unfold endsPart at hends
      unfold startsEnd at hc
      rwa [Bool.or_assoc, hc, Bool.or_false] at hends
    have hdrop : ∀ cs, dropSlash (c :: cs) = cs := fun cs => if_pos hslash
    cases more using List.reverseRecOn with
    | nil =>
      rw [hlast c rfl] at hslash
      cases hslash
    | append_singleton more d =>
      have hd : isSlash d = false := hlast d (by rw [← List.cons_append, List.getLast?_concat])
      have hboth : ∀ e ∈ more ++ [d] ++ ['/'], startsEnd e = false :=
        List.forall_mem_append.mpr ⟨hmore, List.forall_mem_singleton.mpr rfl⟩
      obtain ⟨front, last, -, hpieces⟩ :=
        Text.splitBy_append_piece (List.forall_mem_singleton.mpr hd) more
      have hempty : splitBy isSlash [] = [[]] := rfl
      unfold closedPath
      rw [List.cons_append, hdrop, hdrop, pathFrom_plain hboth, pathFrom_plain hmore,
        Text.splitBy_append_separator rfl, hempty]
      apply closed_walk
      rw [hpieces, List.getLast?_concat]
      simp

/-- One slash more makes no difference to a base URL, unless there is one already. -/
theorem readsBase_slash {raw : String}
    (hlast : ∀ c, (bare raw).getLast? = some c → isSlash c = false) {base : Url} :
    ReadsBase (bare raw) base ↔ ReadsBase (bare raw ++ ['/']) base := by
  have hnil : IsTail [] := ⟨nofun, nofun⟩
  have hslash : IsTail ['/'] := ⟨isBehind_cons rfl [], nofun⟩
  have hpath : ∀ path, path <:+ bare raw → IsBehind path →
      closedPath (path ++ []) = closedPath (path ++ ['/']) := by
    intro path hsuffix hbehind
    rw [List.append_nil]
    refine (closedPath_slash hbehind (fun c hc => startsEnd_bare raw c (hsuffix.subset hc)) ?_).symm
    intro c hc
    obtain ⟨front, hfront⟩ := hsuffix
    apply hlast
    rw [← hfront, List.getLast?_append, hc]
    rfl
  conv_lhs => rw [← List.append_nil (bare raw)]
  exact ⟨readsBase_tail hnil hslash hpath,
    readsBase_tail hslash hnil fun path hsuffix hbehind => (hpath path hsuffix hbehind).symm⟩

/-! ## Texts of one base -/

/-- Two texts that differ only in what a base URL drops and adds. -/
inductive IsVariant (raw raw' : String) : Prop where
  /-- They differ in the query and the fragment. -/
  | ends (same : bare raw = bare raw')
  /-- The second one has a slash more before the query and the fragment, where the first one has
  none. -/
  | slash (more : bare raw' = bare raw ++ ['/'])
      (last : ∀ c, (bare raw).getLast? = some c → isSlash c = false)

theorem readsBase_variant {raw raw' : String} (h : IsVariant raw raw') {base : Url} :
    ReadsBase (cleaned raw) base ↔ ReadsBase (cleaned raw') base := by
  rw [readsBase_bare, readsBase_bare]
  cases h with
  | ends same => rw [same]
  | slash more last =>
    rw [more]
    exact readsBase_slash last

end ResultGateway.Url
