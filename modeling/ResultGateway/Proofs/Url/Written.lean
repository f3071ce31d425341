-- URLs that are read back from their text. What is read has all its parts
-- written in the one way in which they are read: nothing in them is encoded
-- again, no segment leads elsewhere, and the port is not the usual one. So
-- the text of such a URL, with nothing behind its path, is read as that URL,
-- as long as the text of its host is read as that host.
import Mathlib
import ResultGateway.Proofs.Text.Trim
import ResultGateway.Proofs.Url.Authority
import ResultGateway.Proofs.Url.Encoding
import ResultGateway.Proofs.Url.Path
import ResultGateway.Proofs.Url.Segments

namespace ResultGateway.Url

open Percent (IsEncoded encode inPath inUserInfo)
open Text (decimal isDigit splitBy)

/-! ## Written parts -/

/-- A segment that is read as it stands. -/
structure IsSegment (cs : List Char) : Prop where
  encoded : IsEncoded inPath cs
  cut : ∀ c ∈ cs, isSlash c = false
  dot : isDot cs = false
  doubleDot : isDoubleDot cs = false

/-- A URL whose parts are written in the way in which they are read. -/
structure IsWritten (u : Url) : Prop where
  user : IsEncoded inUserInfo u.user.toList
  password : ∀ p, u.password = some p → p ≠ "" ∧ IsEncoded inUserInfo p.toList
  port : ∀ p, u.port = some p → p ≤ 65535 ∧ p ≠ u.scheme.port
  some_segment : u.path ≠ []
  path : ∀ segment ∈ u.path, IsSegment segment.toList

/-! ## What is read is written -/

theorem isEncoded_userInfo (cs : List Char) :
    IsEncoded inUserInfo (String.ofList (encode inUserInfo cs)).toList := by
  rw [String.toList_ofList]
  exact Percent.isEncoded_encode Percent.allowsBytes_inUserInfo cs

theorem takeUserInfo_written {ends : Char → Bool} {cs rest : List Char} {user : String}
    {password : Option String} (h : takeUserInfo ends cs = .ok (user, password, rest)) :
    IsEncoded inUserInfo user.toList ∧
      ∀ p, password = some p → p ≠ "" ∧ IsEncoded inUserInfo p.toList := by
  have hempty : IsEncoded inUserInfo "".toList := fun _ hc => nomatch hc
  unfold takeUserInfo at h
  split at h
  · cases h
    exact ⟨hempty, nofun⟩
  · split at h
    · split at h
      · cases h
      · cases h
        exact ⟨hempty, nofun⟩
    · cases h
      exact ⟨hempty, nofun⟩
  · dsimp only at h
    split at h
    · cases h
      exact ⟨isEncoded_userInfo _, nofun⟩
    · rename_i hpassword
      cases h
      refine ⟨isEncoded_userInfo _, ?_⟩
      rintro _ ⟨⟩
      exact ⟨mt encoded_eq_empty.mp hpassword, isEncoded_userInfo _⟩

theorem takeColonPort_le {cs rest : List Char} {port : Nat}
    (h : takeColonPort cs = .ok (some port, rest)) : port ≤ 65535 := by
  unfold takeColonPort at h
  split at h
  · unfold takePort at h
    dsimp only at h
    split at h
    · cases h
    · rename_i hfits
      split at h
      · cases h
      · split at h
        · cases h
        · cases h
          exact Nat.le_of_not_lt hfits
  · cases h

theorem isSegment_nil : IsSegment [] := ⟨nofun, nofun, rfl, by decide⟩

/-- A piece that is no dots is still none when it is encoded. -/
theorem isSegment_encode {piece : List Char} (hcut : ∀ c ∈ piece, isSlash c = false)
    (hdot : isDot piece = false) (hdoubleDot : isDoubleDot piece = false) :
    IsSegment (encode inPath piece) := by
  refine ⟨Percent.isEncoded_encode Percent.allowsBytes_inPath piece, isSlash_encode hcut, ?_, ?_⟩
  · rw [isDot_encode Percent.allowsBytes_inPath, hdot]
  · rw [isDoubleDot_encode Percent.allowsBytes_inPath, hdoubleDot]

theorem isSegment_pathFrom (cs : List Char) :
    ∀ segment ∈ pathFrom [] cs, IsSegment segment.toList := by
  refine forall_walk isSegment_nil ?_ (by rintro _ ⟨⟩)
  intro piece hpiece hdot hdoubleDot
  rw [String.toList_ofList]
  exact isSegment_encode (fun c hc => Text.not_separator hpiece hc) hdot hdoubleDot

/-- A URL that is read is written in the way in which it is read. -/
theorem isWritten_of_parse {raw : String} {u : Url} (h : parse raw = .ok (.web u)) :
    IsWritten u := by
  obtain ⟨_, _, scheme, -, -, hread⟩ := parse_eq_web.mp h
  obtain ⟨user, password, host, port, left, hauthority, rfl⟩ := parseAuthority_eq_ok.mp hread
  obtain ⟨text, huserInfo, -, -, hport⟩ := takeAuthority_eq_ok.mp hauthority
  obtain ⟨huser, hpassword⟩ := takeUserInfo_written huserInfo
  refine ⟨huser, hpassword, ?_, walk_ne_nil [] _, isSegment_pathFrom (dropSlash left)⟩
  intro p hp
  obtain ⟨rfl, hother⟩ := Option.filter_eq_some_iff.mp hp
  exact ⟨takeColonPort_le hport, bne_iff_ne.mp hother⟩

theorem isWritten_asBase {u : Url} (h : IsWritten u) : IsWritten u.asBase := by
  refine ⟨h.user, h.password, h.port, ?_, ?_⟩
  · unfold asBase
    dsimp only
    split
    · exact h.some_segment
    · simp
  · unfold asBase
    dsimp only
    split
    · exact h.path
    · exact List.forall_mem_append.mpr ⟨h.path, List.forall_mem_singleton.mpr isSegment_nil⟩

/-! ## Reading the path back -/

/-- The text of a path is a slash and what the segments are the pieces of. -/
theorem exists_pathText {path : List String} (hne : path ≠ [])
    (hpath : ∀ segment ∈ path, ∀ c ∈ segment.toList, isSlash c = false) :
    ∃ cs, (pathText path).toList = '/' :: cs ∧ splitBy isSlash cs = path.map String.toList := by
  induction path with
  | nil => exact absurd rfl hne
  | cons segment path ih =>
    obtain ⟨hsegment, hpath⟩ := List.forall_mem_cons.mp hpath
    by_cases hlast : path = []
    · subst hlast
      refine ⟨segment.toList, ?_, Text.splitBy_plain hsegment⟩
      rw [pathText_single, String.toList_append]
      rfl
    · obtain ⟨cs, htext, hsplit⟩ := ih hlast hpath
      refine ⟨segment.toList ++ '/' :: cs, ?_, ?_⟩
      · rw [pathText_cons, String.toList_append, String.toList_append, htext]
        rfl
      · rw [Text.splitBy_append_separator rfl, Text.splitBy_plain hsegment, hsplit]
        rfl

theorem encode_segment {segment : String} (h : IsSegment segment.toList) :
    String.ofList (encode inPath segment.toList) = segment := by
  rw [Percent.encode_eq_self h.encoded, String.ofList_toList]

/-- Segments that are read as they stand are followed one by one. -/
theorem walk_segments (from' : List String) {path : List String} (hne : path ≠ [])
    (hpath : ∀ segment ∈ path, IsSegment segment.toList) :
    walk from' (path.map String.toList) = from' ++ path := by
  induction path generalizing from' with
  | nil => exact absurd rfl hne
  | cons segment path ih =>
    obtain ⟨hsegment, hpath⟩ := List.forall_mem_cons.mp hpath
    cases path with
    | nil => simp [walk, hsegment.dot, hsegment.doubleDot, encode_segment hsegment]
    | cons next path =>
      rw [List.map_cons, walk_cons from' segment.toList (by simp), hsegment.dot,
        hsegment.doubleDot, encode_segment hsegment]
      simp only [Bool.false_eq_true, if_false]
      rw [ih (from' ++ [segment]) (List.cons_ne_nil next path) hpath, List.append_assoc,
        List.singleton_append]

/-- No sign that ends a path is written in it. -/
theorem startsEnd_inPath {c : Char} (h : inPath c = false) : startsEnd c = false := by
  unfold startsEnd
  rw [Bool.or_eq_false_iff, beq_eq_false_iff_ne, beq_eq_false_iff_ne]
  refine ⟨?_, ?_⟩
  all_goals
    rintro rfl
    rw [Percent.inPath_eq] at h
    exact absurd h (by decide)

theorem inPath_pathText {path : List String}
    (hpath : ∀ segment ∈ path, IsSegment segment.toList) :
    ∀ c ∈ (pathText path).toList, inPath c = false := by
  induction path with
  | nil => exact fun _ hc => nomatch hc
  | cons segment path ih =>
    obtain ⟨hsegment, hpath⟩ := List.forall_mem_cons.mp hpath
    rw [pathText_cons, String.toList_append, String.toList_append]
    simp only [List.forall_mem_append]
    refine ⟨⟨?_, fun c hc => (hsegment.encoded c hc).2⟩, ih hpath⟩
    intro c hc
    rw [List.mem_singleton.mp hc, Percent.inPath_eq]
    decide

/-- What is read from the text of a path is that path, with nothing behind it. -/
theorem withPath_pathText (u : Url) {path : List String} (hne : path ≠ [])
    (hpath : ∀ segment ∈ path, IsSegment segment.toList) :
    withPath u [] (dropSlash (pathText path).toList) =
      { u with path := path, query := none, fragment := none } := by
  obtain ⟨cs, htext, hsplit⟩ := exists_pathText hne fun segment h => (hpath segment h).cut
  have hplain : ∀ c ∈ cs, startsEnd c = false := by
    intro c hc
    apply startsEnd_inPath
    apply inPath_pathText hpath
    rw [htext]
    exact List.mem_cons_of_mem _ hc
  have hread : pathFrom [] cs = path := by
    rw [pathFrom_plain hplain, hsplit, walk_segments [] hne hpath]
    rfl
  have hdrop : dropSlash ('/' :: cs) = cs := rfl
  unfold withPath
  rw [htext, hdrop, takeEnd_eq_none.mpr hplain, hread]

/-! ## Reading the authority back -/

/-- A character of a user or a password divides nothing. -/
theorem plain_inUserInfo {c : Char} (h : inUserInfo c = false) :
    endsPart c = false ∧ c ≠ ':' ∧ c ≠ '@' := by
  have hnone : ∀ d ∈ ['/', '\\', '?', '#', ':', '@'], c ≠ d := by
    have hrefused : ['/', '\\', '?', '#', ':', '@'] ⊆
        " \"<>`#?\x7b\x7d/:;=@[\\]^|".toList := by decide
    rintro d hd rfl
    rw [Percent.inUserInfo_eq, Bool.or_eq_false_iff, decide_eq_false_iff_not] at h
    exact h.2 (hrefused hd)
  refine ⟨endsPart_eq_false fun hmem => ?_, hnone ':' (by decide), hnone '@' (by decide)⟩
  exact hnone c (List.mem_append_left [':', '@'] hmem) rfl

/-- The user and the password as they stand in the text, with the at sign behind them. -/
def userPart (u : Url) : List Char := if u.hasUserInfo then u.userInfo.toList ++ ['@'] else []

def portPart : Option Nat → List Char
  | some port => ':' :: decimal port
  | none => []

theorem authority_toList (u : Url) :
    u.authority.toList = userPart u ++ (u.host.text.toList ++ portPart u.port) := by
  have huser : (if u.hasUserInfo then u.userInfo ++ "@" else "").toList = userPart u := by
    unfold userPart
    split
    · exact String.toList_append
    · rfl
  unfold authority
  rw [String.toList_append, String.toList_append, huser, List.append_assoc]
  cases u.port with
  | none => rfl
  | some port =>
    simp only [String.toList_append, String.toList_ofList]
    rfl

variable {u : Url} {behind rest : List Char}

theorem encoded_eq_self {text : String} (h : IsEncoded inUserInfo text.toList) :
    String.ofList (encode inUserInfo text.toList) = text := by
  rw [Percent.encode_eq_self h, String.ofList_toList]

theorem not_colon_encoded {cs : List Char} (h : IsEncoded inUserInfo cs) :
    ∀ c ∈ cs, (c != ':') = true :=
  fun c hc => bne_iff_ne.mpr (plain_inUserInfo (h c hc).2).2.1

theorem isWithin_encoded {cs : List Char} (h : IsEncoded inUserInfo cs) : IsWithin cs :=
  fun c hc => (plain_inUserInfo (h c hc).2).1

/-- The user and the password, as characters. -/
theorem userInfo_toList (u : Url) : u.userInfo.toList = u.user.toList ++
    match u.password with
    | some password => ':' :: password.toList
    | none => [] := by
  unfold userInfo
  cases u.password with
  | none => rw [List.append_nil]
  | some password =>
    dsimp only
    rw [String.toList_append, String.toList_append, List.append_assoc]
    rfl

theorem isWithin_userInfo (h : IsWritten u) : IsWithin u.userInfo.toList := by
  rw [userInfo_toList]
  refine isWithin_append (isWithin_encoded h.user) ?_
  cases hpassword : u.password with
  | none => exact fun _ hc => nomatch hc
  | some password =>
    exact List.forall_mem_cons.mpr ⟨rfl, isWithin_encoded (h.password password hpassword).2⟩

theorem userInfo_ne_nil (h : u.hasUserInfo = true) : u.userInfo.toList ≠ [] := by
  unfold hasUserInfo at h
  rw [userInfo_toList]
  cases hpassword : u.password with
  | none =>
    rw [hpassword, Option.isSome_none, Bool.or_false, bne_iff_ne] at h
    simpa using h
  | some password => simp

/-- The user and the password of a URL that is written are read back. -/
theorem takeUserInfo_userPart (h : IsWritten u) (hbehind : IsWithin behind) (hsign : '@' ∉ behind)
    (hrest : IsBehind rest) : takeUserInfo endsPart (userPart u ++ behind ++ rest) =
      .ok (u.user, u.password, behind ++ rest) := by
  cases hnamed : u.hasUserInfo with
  | false =>
    unfold hasUserInfo at hnamed
    obtain ⟨huser, hpassword⟩ : u.user = "" ∧ u.password = none := by simpa using hnamed
    have hpart : userPart u = [] := by
      unfold userPart hasUserInfo
      rw [hnamed]
      rfl
    rw [hpart, List.nil_append, huser, hpassword]
    unfold takeUserInfo
    rw [splitUserInfo_none hbehind hrest hsign]
  | true =>
    have hpart : userPart u ++ behind = u.userInfo.toList ++ '@' :: behind := by
      unfold userPart
      rw [hnamed, if_pos rfl, List.append_assoc]
      rfl
    have hwithin : IsWithin (u.userInfo.toList ++ '@' :: behind) :=
      isWithin_append (isWithin_userInfo h) (List.forall_mem_cons.mpr ⟨rfl, hbehind⟩)
    rw [hpart, takeUserInfo_named (splitUserInfo_some hwithin hrest hsign)
      (userInfo_ne_nil hnamed), userInfo_toList]
    cases hpassword : u.password with
    | none =>
      dsimp only
      rw [List.append_nil, List.takeWhile_eq_self_iff.mpr (not_colon_encoded h.user),
        List.dropWhile_eq_nil_iff.mpr (not_colon_encoded h.user), encoded_eq_self h.user]
      rfl
    | some p =>
      obtain ⟨hne, hencoded⟩ := h.password p hpassword
      have huser := not_colon_encoded h.user
      have hsome : p.toList ≠ [] := by simpa using hne
      dsimp only
      rw [List.takeWhile_append_of_pos huser, List.dropWhile_append_of_pos huser,
        List.takeWhile_cons_of_neg (by decide), List.dropWhile_cons_of_neg (by decide),
        List.append_nil, encoded_eq_self h.user, List.drop_one, List.tail_cons, if_neg hsome,
        encoded_eq_self hencoded]

/-! ## Hosts, ports and authorities -/

theorem isWithin_host {cs : List Char} {host : Host} (h : Host.parse cs = .ok host) :
    IsWithin cs :=
  fun c hc => endsPart_eq_false fun hmem =>
    Host.plain_of_parse h c (List.mem_append_left ['@', '\t', '\n', '\x0d'] hmem) hc

theorem isWithin_portPart (port : Option Nat) : IsWithin (portPart port) := by
  cases port with
  | none => exact fun _ hc => nomatch hc
  | some port => exact isWithin_port port

/-- What a port is written with. -/
theorem mem_portPart {port : Option Nat} {c : Char} (h : c ∈ portPart port) :
    c = ':' ∨ isDigit c = true := by
  cases port with
  | none => cases h
  | some port => exact (List.mem_cons.mp h).imp_right (Text.decimal_isDigit port c)

/-- A port is read back from where it stands. -/
theorem takeColonPort_portPart {port : Option Nat} (hport : ∀ p, port = some p → p ≤ 65535)
    (hrest : IsBehind rest) : takeColonPort (portPart port ++ rest) = .ok (port, rest) := by
  cases port with
  | none => exact takeColonPort_behind hrest
  | some p =>
    change takePort (decimal p ++ rest) = _
    rw [takePort_decimal p hrest, if_neg (Nat.not_lt.mpr (hport p rfl))]

theorem hostLength_portPart (port : Option Nat) (hrest : IsBehind rest) :
    hostLength endsPart false (portPart port ++ rest) = 0 := by
  cases port with
  | none => exact hostLength_behind hrest false
  | some p => rfl

/-- The authority of a URL that is written is read back, if its host is. -/
theorem takeAuthority_authority (h : IsWritten u)
    (hhost : Host.parse u.host.text.toList = .ok u.host) (hrest : IsBehind rest) :
    takeAuthority (u.authority.toList ++ rest) =
      .ok (u.user, u.password, u.host, u.port, rest) := by
  have hbehind : IsWithin (u.host.text.toList ++ portPart u.port) :=
    isWithin_append (isWithin_host hhost) (isWithin_portPart u.port)
  have hnone : '@' ∉ u.host.text.toList ++ portPart u.port := by
    rw [List.mem_append, not_or]
    refine ⟨Host.plain_of_parse hhost '@' (by decide), fun hmem => ?_⟩
    exact absurd (mem_portPart hmem) (by decide)
  have hlength : hostLength endsPart false (u.host.text.toList ++ (portPart u.port ++ rest)) =
      u.host.text.toList.length :=
    hostLength_of_parse (isWithin_host hhost) hhost (hostLength_portPart u.port hrest)
  have huser := takeUserInfo_userPart h hbehind hnone hrest
  rw [← authority_toList] at huser
  rw [takeAuthority_eq_ok]
  refine ⟨_, huser, ?_, ?_, ?_⟩
  · rw [List.append_assoc, hlength]
    intro hzero
    rw [List.length_eq_zero_iff.mp hzero, Host.parse_nil] at hhost
    cases hhost
  · rw [List.append_assoc, hlength, List.take_left]
    exact hhost
  · rw [List.append_assoc, hlength, List.drop_left]
    exact takeColonPort_portPart (fun p hp => (h.port p hp).1) hrest

theorem isWithin_authority (h : IsWritten u)
    (hhost : Host.parse u.host.text.toList = .ok u.host) : IsWithin u.authority.toList := by
  have huser : IsWithin (userPart u) := by
    unfold userPart
    split
    · exact isWithin_append (isWithin_userInfo h) (List.forall_mem_singleton.mpr rfl)
    · exact fun _ hc => nomatch hc
  rw [authority_toList]
  exact isWithin_append huser
    (isWithin_append (isWithin_host hhost) (isWithin_portPart u.port))

theorem authority_ne_nil (hhost : Host.parse u.host.text.toList = .ok u.host) :
    u.authority.toList ≠ [] := by
  intro hnil
  rw [authority_toList] at hnil
  have hempty := (List.append_eq_nil_iff.mp (List.append_eq_nil_iff.mp hnil).2).1
  rw [hempty, Host.parse_nil] at hhost
  cases hhost

/-! ## Cleaning the text -/

theorem isDropped_eq_false {c : Char} (h : c ≠ '\t' ∧ c ≠ '\n' ∧ c ≠ '\x0d') :
    isDropped c = false := by
  simpa [isDropped, and_assoc] using h

theorem isTrimmed_inPath {c : Char} (h : inPath c = false) : isTrimmed c = false := by
  rw [Percent.inPath_eq, Bool.or_eq_false_iff, decide_eq_false_iff_not] at h
  obtain ⟨hcontrol, hplain⟩ := h
  unfold Percent.isControl at hcontrol
  rw [Bool.or_eq_false_iff, decide_eq_false_iff_not] at hcontrol
  unfold isTrimmed
  rw [decide_eq_false_iff_not]
  intro hle
  have hblank : c = ' ' := by
    have hcode : c.toNat = 0x20 := by omega
    rw [← Char.ofNat_toNat c, hcode]
  subst hblank
  exact hplain (by decide)

theorem isDropped_inPath {c : Char} (h : inPath c = false) : isDropped c = false := by
  apply isDropped_eq_false
  refine ⟨?_, ?_, ?_⟩
  all_goals
    rintro rfl
    exact absurd (isTrimmed_inPath h) (by decide)

/-- A text that starts and ends with what is not trimmed, and has nothing dropped in it, is read as
it stands. -/
theorem cleaned_eq {text : String} (hfirst : ∀ c, text.toList.head? = some c → isTrimmed c = false)
    (hlast : ∀ c, text.toList.getLast? = some c → isTrimmed c = false)
    (hkept : ∀ c ∈ text.toList, isDropped c = false) : cleaned text = text.toList := by
  show (Text.trimBy isTrimmed text.toList).filter _ = _
  rw [Text.trimBy_eq_self hfirst hlast, List.filter_eq_self]
  intro c hc
  rw [hkept c hc]
  rfl

/-! ## Reading the URL back -/

/-- The scheme as it stands in the text, with the marks behind it. -/
def schemePart (u : Url) : List Char := u.scheme.name.toList ++ "://".toList

theorem text_toList (hquery : u.query = none) (hfragment : u.fragment = none) :
    u.text.toList = schemePart u ++ (u.authority.toList ++ (pathText u.path).toList) := by
  simp [text, target, queryText, schemePart, hquery, hfragment]

theorem isDropped_schemePart (u : Url) : ∀ c ∈ schemePart u, isDropped c = false := by
  have hall : (schemePart u).all (fun c => !isDropped c) = true := by
    unfold schemePart
    cases u.scheme with
    | http => decide
    | https => decide
  intro c hc
  simpa using List.all_eq_true.mp hall c hc

theorem isDropped_userPart (h : IsWritten u) : ∀ c ∈ userPart u, isDropped c = false := by
  have hencoded : ∀ {cs : List Char}, IsEncoded inUserInfo cs → ∀ c ∈ cs, isDropped c = false :=
    fun hcs c hc => isDropped_inPath (Percent.inPath_of_inUserInfo (hcs c hc).2)
  have hsign : ∀ c ∈ ['@'], isDropped c = false := List.forall_mem_singleton.mpr rfl
  unfold userPart
  split
  · rw [userInfo_toList]
    refine List.forall_mem_append.mpr ⟨List.forall_mem_append.mpr ⟨hencoded h.user, ?_⟩, hsign⟩
    cases hpassword : u.password with
    | none => exact fun _ hc => nomatch hc
    | some password =>
      exact List.forall_mem_cons.mpr ⟨rfl, hencoded (h.password password hpassword).2⟩
  · exact fun _ hc => nomatch hc

theorem isDropped_authority (h : IsWritten u)
    (hhost : Host.parse u.host.text.toList = .ok u.host) :
    ∀ c ∈ u.authority.toList, isDropped c = false := by
  have hplain := Host.plain_of_parse hhost
  rw [authority_toList]
  refine List.forall_mem_append.mpr ⟨isDropped_userPart h, List.forall_mem_append.mpr ⟨?_, ?_⟩⟩
  · intro c hc
    apply isDropped_eq_false
    refine ⟨?_, ?_, ?_⟩
    all_goals
      rintro rfl
      exact hplain _ (by decide) hc
  · intro c hc
    apply isDropped_eq_false
    refine ⟨?_, ?_, ?_⟩
    all_goals
      rintro rfl
      exact absurd (mem_portPart hc) (by decide)

theorem cleaned_text (h : IsWritten u) (hhost : Host.parse u.host.text.toList = .ok u.host)
    (hquery : u.query = none) (hfragment : u.fragment = none) : cleaned u.text = u.text.toList := by
  have hpath := inPath_pathText h.path
  have hsome : (pathText u.path).toList ≠ [] := by
    simpa [pathText_eq_empty] using h.some_segment
  apply cleaned_eq
  · intro c hc
    have hletter : (schemePart u).head? = some 'h' := by
      unfold schemePart
      cases u.scheme <;> rfl
    rw [text_toList hquery hfragment, List.head?_append, hletter] at hc
    cases hc
    rfl
  · intro c hc
    rw [text_toList hquery hfragment, List.getLast?_append_of_ne_nil _ (by simp [hsome]),
      List.getLast?_append_of_ne_nil _ hsome] at hc
    exact isTrimmed_inPath (hpath c (List.mem_of_getLast? hc))
  · rw [text_toList hquery hfragment]
    exact List.forall_mem_append.mpr ⟨isDropped_schemePart u, List.forall_mem_append.mpr
      ⟨isDropped_authority h hhost, fun c hc => isDropped_inPath (hpath c hc)⟩⟩

theorem parseAuthority_text (h : IsWritten u)
    (hhost : Host.parse u.host.text.toList = .ok u.host) (hquery : u.query = none)
    (hfragment : u.fragment = none) :
    parseAuthority u.scheme (u.authority.toList ++ (pathText u.path).toList) = .ok u := by
  obtain ⟨cs, hslash, -⟩ := exists_pathText h.some_segment fun segment hs => (h.path segment hs).cut
  have hbehind : IsBehind (pathText u.path).toList := by
    rw [hslash]
    exact isBehind_cons rfl cs
  have hport : u.port.filter (· != u.scheme.port) = u.port := by
    cases hport : u.port with
    | none => rfl
    | some p => rw [Option.filter_some, if_pos (bne_iff_ne.mpr (h.port p hport).2)]
  rw [parseAuthority_eq_ok]
  refine ⟨_, _, _, _, _, takeAuthority_authority h hhost hbehind, ?_⟩
  rw [withPath_pathText _ h.some_segment h.path, hport]
  cases u
  subst hquery hfragment
  rfl

/-- The text of a URL that is written, with nothing behind its path, is read as that URL, if its
host is. -/
theorem parse_text (h : IsWritten u) (hhost : Host.parse u.host.text.toList = .ok u.host)
    (hquery : u.query = none) (hfragment : u.fragment = none) : parse u.text = .ok (.web u) := by
  have hscheme : ∀ cs, takeScheme (schemePart u ++ cs) =
      some (u.scheme.name.toList, '/' :: '/' :: cs) := by
    intro cs
    unfold schemePart
    cases u.scheme <;> rfl
  have hkind : SchemeKind.ofName u.scheme.name.toList = .web u.scheme := by
    cases u.scheme <;> decide
  -- No slash at the front of the authority is lost with those of the scheme.
  have hfront : (u.authority.toList ++ (pathText u.path).toList).dropWhile isSlash =
      u.authority.toList ++ (pathText u.path).toList := by
    apply Text.dropWhile_head
    intro c hc
    rw [List.head?_append_of_ne_nil _ (authority_ne_nil hhost)] at hc
    exact isSlash_of_endsPart (isWithin_authority h hhost c (List.mem_of_head? hc))
  rw [parse_eq_web, cleaned_text h hhost hquery hfragment, text_toList hquery hfragment]
  refine ⟨_, _, _, hscheme _, hkind, ?_⟩
  have hslashes : ∀ cs, ('/' :: '/' :: cs).dropWhile isSlash = cs.dropWhile isSlash := fun cs => rfl
  rw [hslashes, hfront]
  exact parseAuthority_text h hhost hquery hfragment

end ResultGateway.Url
