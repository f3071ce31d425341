-- The authority of a URL, cut from a text. The user is what stands before
-- the last at sign, and the host and the port are read behind it. Whatever
-- they are, the path is read from where the authority ends. A port that is
-- written behind the text of a host is read if that text is a host.
import Mathlib
import ResultGateway.Proofs.Text.Decimal
import ResultGateway.Proofs.Text.Pieces
import ResultGateway.Proofs.Text.Trim
import ResultGateway.Proofs.Url.Host
import ResultGateway.Url.Parse

namespace ResultGateway.Url

open Text (behindLast decimal isDigit ofDigits)

/-! ## Where the authority ends -/

theorem endsPart_iff {c : Char} : endsPart c = true ↔ c ∈ ['/', '\\', '?', '#'] := by
  simp [endsPart, isSlash, or_assoc]

theorem endsPart_eq_false {c : Char} (h : c ∉ ['/', '\\', '?', '#']) : endsPart c = false := by
  rw [Bool.eq_false_iff]
  exact mt endsPart_iff.mp h

/-- What ends an authority is part of neither a port nor a scheme. -/
theorem plain_of_endsPart {c : Char} (h : endsPart c = true) :
    isDigit c = false ∧ isSchemeChar c = false ∧ c ≠ ':' := by
  rw [endsPart_iff] at h
  simp only [List.mem_cons, List.not_mem_nil, or_false] at h
  rcases h with rfl | rfl | rfl | rfl <;> decide

theorem isSlash_of_endsPart {c : Char} (h : endsPart c = false) : isSlash c = false := by
  unfold endsPart at h
  simp only [Bool.or_eq_false_iff] at h
  exact h.1.1

/-- A text within the authority. -/
def IsWithin (cs : List Char) : Prop := ∀ c ∈ cs, endsPart c = false

/-- A text that starts where the authority has ended. -/
def IsBehind (cs : List Char) : Prop := ∀ c, cs.head? = some c → endsPart c = true

theorem isBehind_cons {c : Char} (h : endsPart c = true) (cs : List Char) : IsBehind (c :: cs) := by
  rintro _ ⟨⟩
  exact h

theorem isWithin_digits {cs : List Char} (h : ∀ c ∈ cs, isDigit c = true) : IsWithin cs := by
  intro c hc
  rw [Bool.eq_false_iff]
  intro hends
  have hdigit := h c hc
  rw [(plain_of_endsPart hends).1] at hdigit
  cases hdigit

theorem isWithin_append {cs ds : List Char} (hcs : IsWithin cs) (hds : IsWithin ds) :
    IsWithin (cs ++ ds) := by
  intro c hc
  rcases List.mem_append.mp hc with hc | hc
  · exact hcs c hc
  · exact hds c hc

theorem isWithin_port (port : Nat) : IsWithin (':' :: decimal port) := by
  intro c hc
  rcases List.mem_cons.mp hc with rfl | hc
  · rfl
  · exact isWithin_digits (Text.decimal_isDigit port) c hc

/-- A text that is not within the authority has a first character that ends it. -/
theorem exists_end {cs : List Char} (h : ¬ IsWithin cs) : ∃ front c behind,
    cs = front ++ c :: behind ∧ IsWithin front ∧ endsPart c = true := by
  have hfront : IsWithin (cs.takeWhile fun c => !endsPart c) := by
    intro c hc
    simpa using List.all_eq_true.mp List.all_takeWhile c hc
  have hsplit := List.takeWhile_append_dropWhile (p := fun c => !endsPart c) (l := cs)
  cases hdrop : cs.dropWhile (fun c => !endsPart c) with
  | nil =>
    rw [hdrop, List.append_nil] at hsplit
    exact absurd (hsplit ▸ hfront) h
  | cons c behind =>
    have hhead := List.head?_dropWhile_not (fun c => !endsPart c) cs
    rw [hdrop] at hhead hsplit
    exact ⟨_, c, behind, hsplit.symm, hfront, by simpa using hhead⟩

variable {auth rest : List Char}

theorem takeWhile_authority (hauth : IsWithin auth) (hrest : IsBehind rest) :
    (auth ++ rest).takeWhile (fun c => !endsPart c) = auth := by
  have hall : ∀ c ∈ auth, (!endsPart c) = true := fun c hc => by rw [hauth c hc]; rfl
  rw [List.takeWhile_append_of_pos hall]
  cases rest with
  | nil => simp
  | cons c rest =>
    rw [List.takeWhile_cons_of_neg, List.append_nil]
    rw [hrest c rfl]
    decide

/-! ## Users -/

/-- A text before the last at sign that is a user or a password. A colon alone is neither. -/
def NamesUser (auth : List Char) : Prop :=
  ∃ before behind, auth = before ++ '@' :: behind ∧ '@' ∉ behind ∧ before ≠ [] ∧ before ≠ [':']

theorem namesUser_iff {before behind : List Char} (h : '@' ∉ behind) :
    NamesUser (before ++ '@' :: behind) ↔ before ≠ [] ∧ before ≠ [':'] := by
  constructor
  · rintro ⟨before', behind', heq, h', hnamed⟩
    have hlast := congrArg (behindLast '@') heq
    rw [Text.behindLast_append h, Text.behindLast_append h'] at hlast
    rw [hlast] at heq
    rw [List.append_cancel_right heq]
    exact hnamed
  · rintro ⟨hempty, hcolon⟩
    exact ⟨before, behind, rfl, h, hempty, hcolon⟩

theorem not_namesUser {auth : List Char} (h : '@' ∉ auth) : ¬ NamesUser auth := by
  rintro ⟨before, behind, rfl, -⟩
  exact h (by simp)

/-- What stands behind a text without an at sign changes no user. -/
theorem namesUser_append {auth behind : List Char} (h : '@' ∉ behind) :
    NamesUser (auth ++ behind) ↔ NamesUser auth := by
  by_cases hsign : '@' ∈ auth
  · obtain ⟨before, heq, hlast, -⟩ := Text.exists_behindLast hsign
    rw [heq, List.append_assoc, List.cons_append, namesUser_iff hlast, namesUser_iff]
    simp [hlast, h]
  · have hnone : '@' ∉ auth ++ behind := by simp [hsign, h]
    exact ⟨fun hnames => absurd hnames (not_namesUser hnone),
      fun hnames => absurd hnames (not_namesUser hsign)⟩

theorem splitUserInfo_none (hauth : IsWithin auth) (hrest : IsBehind rest) (h : '@' ∉ auth) :
    splitUserInfo endsPart (auth ++ rest) = none := by
  unfold splitUserInfo
  rw [takeWhile_authority hauth hrest]
  simp [h]

theorem splitUserInfo_some {before behind : List Char} (hauth : IsWithin (before ++ '@' :: behind))
    (hrest : IsBehind rest) (h : '@' ∉ behind) :
    splitUserInfo endsPart (before ++ '@' :: behind ++ rest) = some (before, behind ++ rest) := by
  have hbefore : (before ++ '@' :: behind).take
      ((before ++ '@' :: behind).length - behind.length - 1) = before := by
    have hlength : (before ++ '@' :: behind).length - behind.length - 1 = before.length := by
      simp
      omega
    rw [hlength, List.take_left]
  have hdrop : (before ++ '@' :: behind ++ rest).drop (before.length + 1) = behind ++ rest := by
    have hsplit : before ++ '@' :: behind ++ rest = (before ++ ['@']) ++ (behind ++ rest) := by simp
    have hlength : before.length + 1 = (before ++ ['@']).length := by simp
    rw [hsplit, hlength, List.drop_left]
  have hlast : ((before ++ '@' :: behind).reverse.takeWhile (· != '@')).reverse = behind :=
    Text.behindLast_append h
  unfold splitUserInfo
  rw [takeWhile_authority hauth hrest]
  dsimp only
  rw [hlast, hbefore, hdrop, if_pos (by simp)]

theorem encode_eq_nil {refused : Char → Bool} {cs : List Char} :
    Percent.encode refused cs = [] ↔ cs = [] := by
  constructor
  · intro h
    cases cs with
    | nil => rfl
    | cons c cs =>
      exfalso
      have hchar : Percent.encodeChar refused c = [] := (List.append_eq_nil_iff.mp h).1
      unfold Percent.encodeChar at hchar
      split at hchar
      · obtain ⟨b, bytes, hbytes⟩ :=
          List.exists_cons_of_ne_nil (String.utf8EncodeChar_ne_nil (c := c))
        rw [hbytes] at hchar
        cases hchar
      · cases hchar
  · rintro rfl
    rfl

theorem encoded_eq_empty {cs : List Char} :
    String.ofList (Percent.encode Percent.inUserInfo cs) = "" ↔ cs = [] := by
  rw [← String.toList_inj, String.toList_ofList]
  exact encode_eq_nil

/-- Only a colon alone leaves neither a user before it nor a password behind it. -/
theorem split_at_colon {info : List Char} (h : info ≠ []) :
    info.takeWhile (· != ':') = [] ∧ (info.dropWhile (· != ':')).drop 1 = [] ↔ info = [':'] := by
  obtain ⟨c, cs, rfl⟩ := List.exists_cons_of_ne_nil h
  by_cases hc : c = ':'
  · subst hc
    simp
  · simp [hc]

/-- A text before the last at sign is cut at its first colon, if it is not empty. -/
theorem takeUserInfo_named {cs info rest : List Char} (hsplit : splitUserInfo endsPart cs =
    some (info, rest)) (hinfo : info ≠ []) : takeUserInfo endsPart cs =
      .ok (String.ofList (Percent.encode Percent.inUserInfo (info.takeWhile (· != ':'))),
        if (info.dropWhile (· != ':')).drop 1 = [] then none
        else some (String.ofList
          (Percent.encode Percent.inUserInfo ((info.dropWhile (· != ':')).drop 1))),
        rest) := by
  unfold takeUserInfo
  rw [hsplit]
  split
  · rename_i heq
    cases heq
  · rename_i heq
    cases heq
    exact absurd rfl hinfo
  · rename_i info' rest' _ heq
    cases heq
    dsimp only
    split
    · rename_i hpassword
      rw [if_pos hpassword]
    · rename_i hpassword
      rw [if_neg hpassword]

theorem splitUserInfo_eq (hauth : IsWithin auth) (hsign : '@' ∈ auth) :
    ∃ before, auth = before ++ '@' :: behindLast '@' auth ∧ '@' ∉ behindLast '@' auth ∧
      ∀ rest, IsBehind rest →
        splitUserInfo endsPart (auth ++ rest) = some (before, behindLast '@' auth ++ rest) := by
  obtain ⟨before, heq, hlast, -⟩ := Text.exists_behindLast hsign
  refine ⟨before, heq, hlast, fun rest hrest => ?_⟩
  rw [heq] at hauth
  have hsplit := splitUserInfo_some hauth hrest hlast
  rw [← heq] at hsplit
  exact hsplit

/-- A text behind the last at sign, or without any, is left to be the host. The user and the
password are the same whatever stands behind the authority, and there is neither unless the
authority names one. -/
theorem takeUserInfo_eq (hauth : IsWithin auth) (hhost : behindLast '@' auth ≠ []) :
    ∃ user password, (∀ rest, IsBehind rest →
      takeUserInfo endsPart (auth ++ rest) = .ok (user, password, behindLast '@' auth ++ rest)) ∧
      (user = "" ∧ password = none ↔ ¬ NamesUser auth) := by
  by_cases hsign : '@' ∈ auth
  · obtain ⟨before, heq, hlast, hsplit⟩ := splitUserInfo_eq hauth hsign
    have hnames : NamesUser auth ↔ before ≠ [] ∧ before ≠ [':'] := by
      rw [heq]
      exact namesUser_iff hlast
    by_cases hempty : before = []
    · subst hempty
      refine ⟨"", none, fun rest hrest => ?_, by simp [hnames]⟩
      obtain ⟨c, cs, hcons⟩ := List.exists_cons_of_ne_nil hhost
      have hc : endsPart c = false := by
        apply hauth
        rw [heq, hcons]
        simp
      unfold takeUserInfo
      rw [hsplit rest hrest, hcons]
      simp [hc]
    · refine ⟨_, _, fun rest hrest => takeUserInfo_named (hsplit rest hrest) hempty, ?_⟩
      rw [hnames, encoded_eq_empty]
      have hcolon := split_at_colon hempty
      simp only [ite_eq_left_iff, reduceCtorEq, imp_false, not_not, hcolon, hempty, ne_eq,
        not_false_eq_true, true_and]
  · refine ⟨"", none, fun rest hrest => ?_, ?_⟩
    · unfold takeUserInfo
      rw [splitUserInfo_none hauth hrest hsign, Text.behindLast_eq_self hsign]
    · simp [not_namesUser hsign]

theorem takeUserInfo_left (hauth : IsWithin auth) (hrest : IsBehind rest) {user : String}
    {password : Option String} {left : List Char}
    (h : takeUserInfo endsPart (auth ++ rest) = .ok (user, password, left)) :
    left = behindLast '@' auth ++ rest := by
  by_cases hsign : '@' ∈ auth
  · obtain ⟨before, -, -, hsplit⟩ := splitUserInfo_eq hauth hsign
    by_cases hempty : before = []
    · subst hempty
      unfold takeUserInfo at h
      rw [hsplit rest hrest] at h
      dsimp only at h
      split at h
      · split at h
        · cases h
        · cases h
          rfl
      · cases h
        rfl
    · rw [takeUserInfo_named (hsplit rest hrest) hempty] at h
      cases h
      rfl
  · unfold takeUserInfo at h
    rw [splitUserInfo_none hauth hrest hsign] at h
    cases h
    rw [Text.behindLast_eq_self hsign]

/-! ## Hosts -/

/-- How far the host goes in a text within the authority: up to a colon, or through all of it, with
all brackets closed or with one left open. -/
theorem hostLength_cases {cs : List Char} (hcs : IsWithin cs) (inBrackets : Bool) :
    (∃ front behind, cs = front ++ ':' :: behind ∧
      ∀ rest, hostLength endsPart inBrackets (cs ++ rest) = front.length) ∨
    (∀ rest, hostLength endsPart inBrackets (cs ++ rest) =
      hostLength endsPart false rest + cs.length) ∨
    ((inBrackets = true ∨ '[' ∈ cs) ∧ ∀ rest, hostLength endsPart inBrackets (cs ++ rest) =
      hostLength endsPart true rest + cs.length) := by
  induction cs generalizing inBrackets with
  | nil =>
    cases inBrackets with
    | false => exact .inr (.inl fun rest => rfl)
    | true => exact .inr (.inr ⟨.inl rfl, fun rest => rfl⟩)
  | cons c cs ih =>
    have hc : endsPart c = false := hcs c List.mem_cons_self
    by_cases hcolon : (c == ':' && !inBrackets) = true
    · refine .inl ⟨[], cs, ?_, ?_⟩
      · simp only [Bool.and_eq_true, beq_iff_eq] at hcolon
        rw [hcolon.1]
        rfl
      · intro rest
        rw [List.cons_append, hostLength, hc, hcolon]
        rfl
    · have hstep : ∀ rest, hostLength endsPart inBrackets (c :: cs ++ rest) =
          hostLength endsPart (c == '[' || (inBrackets && c != ']')) (cs ++ rest) + 1 := by
        intro rest
        rw [List.cons_append, hostLength, hc, Bool.false_or, if_neg hcolon]
      have hlater : IsWithin cs := fun d hd => hcs d (List.mem_cons_of_mem _ hd)
      rcases ih hlater (c == '[' || (inBrackets && c != ']')) with
        ⟨front, behind, heq, hlength⟩ | hlength | ⟨hopen, hlength⟩
      · refine .inl ⟨c :: front, behind, ?_, ?_⟩
        · rw [heq]
          rfl
        · intro rest
          rw [hstep, hlength]
          rfl
      · refine .inr (.inl fun rest => ?_)
        rw [hstep, hlength]
        rfl
      · refine .inr (.inr ⟨?_, fun rest => ?_⟩)
        · simp only [Bool.or_eq_true, beq_iff_eq, Bool.and_eq_true] at hopen
          rw [List.mem_cons]
          rcases hopen with (rfl | ⟨hopen, -⟩) | hopen
          · exact .inr (.inl rfl)
          · exact .inl hopen
          · exact .inr (.inr hopen)
        · rw [hstep, hlength]
          rfl

theorem hostLength_behind (hrest : IsBehind rest) (inBrackets : Bool) :
    hostLength endsPart inBrackets rest = 0 := by
  cases rest with
  | nil => rfl
  | cons c rest =>
    rw [hostLength, hrest c rfl, Bool.true_or]
    rfl

/-- Behind an open bracket the host goes on up to the one that closes it. -/
theorem hostLength_open {inner : List Char} (hinner : IsWithin inner) (h : ']' ∉ inner)
    (rest : List Char) : hostLength endsPart true (inner ++ rest) =
      hostLength endsPart true rest + inner.length := by
  induction inner with
  | nil => rfl
  | cons c inner ih =>
    have hc : endsPart c = false := hinner c List.mem_cons_self
    have hclose : (c != ']') = true := by
      simp only [bne_iff_ne]
      rintro rfl
      exact h List.mem_cons_self
    rw [List.cons_append, hostLength, hc, hclose]
    simp only [Bool.not_true, Bool.and_false, Bool.or_self, Bool.false_eq_true, if_false,
      Bool.and_self, Bool.or_true]
    rw [ih (fun d hd => hinner d (List.mem_cons_of_mem _ hd))
      (fun hmem => h (List.mem_cons_of_mem _ hmem))]
    rfl

/-- A text that is a host goes up to where no host goes on, such as a colon. -/
theorem hostLength_of_parse {cs : List Char} {host : Host} (hcs : IsWithin cs)
    (h : Host.parse cs = .ok host) (hrest : hostLength endsPart false rest = 0) :
    hostLength endsPart false (cs ++ rest) = cs.length := by
  rcases Host.shape_of_parse h with ⟨inner, rfl, hinner⟩ | ⟨-, hbracket, hnone⟩
  · have hwithin : IsWithin inner := fun c hc => hcs c (by simp [hc])
    have hstep : hostLength endsPart false ('[' :: (inner ++ [']']) ++ rest) =
        hostLength endsPart true (inner ++ ']' :: rest) + 1 := by
      simp [hostLength, endsPart, isSlash]
    have hclose : hostLength endsPart true (']' :: rest) = 1 := by
      simp [hostLength, endsPart, isSlash, hrest]
    rw [hstep, hostLength_open hwithin hinner, hclose]
    simp
    omega
  · rcases hostLength_cases hcs false with ⟨front, behind, rfl, -⟩ | hlength | ⟨hopen, -⟩
    · exact absurd (by simp) hnone
    · rw [hlength, hrest, Nat.zero_add]
    · rcases hopen with hopen | hopen
      · cases hopen
      · exact absurd hopen hbracket

/-! ## Ports -/

theorem dropWhile_behind (hrest : IsBehind rest) : rest.dropWhile isDigit = rest :=
  Text.dropWhile_head fun c hc => (plain_of_endsPart (hrest c hc)).1

/-- A character within the authority that is no digit makes a port unreadable. -/
theorem takePort_unread {cs rest : List Char} {c : Char} (hc : endsPart c = false)
    (h : cs.dropWhile isDigit = c :: rest) : takePort cs = .error .badPort := by
  unfold takePort
  dsimp only
  rw [h]
  split
  · rfl
  · simp [hc]

theorem takePort_rest {cs left : List Char} {port : Option Nat}
    (h : takePort cs = .ok (port, left)) : left = cs.dropWhile isDigit := by
  unfold takePort at h
  dsimp only at h
  split at h
  · cases h
  · split at h
    · cases h
    · cases h
      rfl

theorem takePort_left {port : Option Nat} {left : List Char} (hauth : IsWithin auth)
    (hrest : IsBehind rest) (h : takePort (auth ++ rest) = .ok (port, left)) : left = rest := by
  cases hdrop : auth.dropWhile isDigit with
  | nil =>
    rw [takePort_rest h, List.dropWhile_append, hdrop]
    exact dropWhile_behind hrest
  | cons c more =>
    have hboth := Text.dropWhile_append_cons hdrop rest
    have hc : c ∈ auth := (List.dropWhile_suffix isDigit).subset (hdrop ▸ List.mem_cons_self)
    rw [takePort_unread (hauth c hc) hboth] at h
    cases h

/-- A second colon within the authority makes the port unreadable. -/
theorem takePort_colon {cs : List Char} (hcs : IsWithin cs) (rest : List Char) :
    takePort (cs ++ ':' :: rest) = .error .badPort := by
  cases hdrop : cs.dropWhile isDigit with
  | nil =>
    have hboth : (cs ++ ':' :: rest).dropWhile isDigit = ':' :: rest := by
      rw [List.dropWhile_append, hdrop]
      rfl
    exact takePort_unread rfl hboth
  | cons c more =>
    have hboth := Text.dropWhile_append_cons hdrop (':' :: rest)
    have hc : c ∈ cs := (List.dropWhile_suffix isDigit).subset (hdrop ▸ List.mem_cons_self)
    exact takePort_unread (hcs c hc) hboth

theorem takePort_digits {digits : List Char} (hdigits : ∀ c ∈ digits, isDigit c = true)
    (hrest : IsBehind rest) : takePort (digits ++ rest) =
      if 65535 < ofDigits digits then .error .badPort
      else .ok (if digits.isEmpty then none else some (ofDigits digits), rest) := by
  have htake : (digits ++ rest).takeWhile isDigit = digits := by
    rw [List.takeWhile_append_of_pos hdigits]
    have hnone : rest.takeWhile isDigit = [] := by
      have hboth := List.takeWhile_append_dropWhile (p := isDigit) (l := rest)
      rw [dropWhile_behind hrest] at hboth
      simpa using hboth
    rw [hnone, List.append_nil]
  have hdrop : (digits ++ rest).dropWhile isDigit = rest := by
    rw [List.dropWhile_append_of_pos hdigits, dropWhile_behind hrest]
  have hends : rest.head?.any (fun c => !endsPart c) = false := by
    cases rest with
    | nil => rfl
    | cons c rest => simp [hrest c rfl]
  unfold takePort
  dsimp only
  rw [htake, hdrop, hends]
  simp

theorem takePort_decimal (port : Nat) (hrest : IsBehind rest) :
    takePort (decimal port ++ rest) =
      if 65535 < port then .error .badPort else .ok (some port, rest) := by
  have hsome : (decimal port).isEmpty = false := by simp [Text.decimal_ne_nil]
  rw [takePort_digits (Text.decimal_isDigit port) hrest, Text.ofDigits_decimal, hsome]
  simp

/-- There is no port where the authority has ended. -/
theorem takeColonPort_behind (hrest : IsBehind rest) : takeColonPort rest = .ok (none, rest) := by
  unfold takeColonPort
  split
  · exact absurd (hrest ':' rfl) (by decide)
  · rfl

/-! ## Authorities -/

theorem takeAuthority_eq_ok {cs : List Char} {user : String} {password : Option String}
    {host : Host} {port : Option Nat} {left : List Char} :
    takeAuthority cs = .ok (user, password, host, port, left) ↔
      ∃ text, takeUserInfo endsPart cs = .ok (user, password, text) ∧
        hostLength endsPart false text ≠ 0 ∧
        Host.parse (text.take (hostLength endsPart false text)) = .ok host ∧
        takeColonPort (text.drop (hostLength endsPart false text)) = .ok (port, left) := by
  unfold takeAuthority
  cases takeUserInfo endsPart cs with
  | error e => simp [bind, Except.bind]
  | ok read =>
    obtain ⟨user', password', text⟩ := read
    simp only [bind, Except.bind]
    constructor
    · intro h
      split at h
      · cases h
      · rename_i hlength
        cases hhost : Host.parse (text.take (hostLength endsPart false text)) with
        | error e =>
          rw [hhost] at h
          cases h
        | ok host' =>
          cases hport : takeColonPort (text.drop (hostLength endsPart false text)) with
          | error e =>
            rw [hhost, hport] at h
            cases h
          | ok read =>
            rw [hhost, hport] at h
            cases h
            exact ⟨text, rfl, hlength, hhost, hport⟩
    · rintro ⟨_, ⟨⟩, hlength, hhost, hport⟩
      rw [if_neg hlength, hhost, hport]
      rfl

theorem parseAuthority_eq_ok {scheme : Scheme} {cs : List Char} {url : Url} :
    parseAuthority scheme cs = .ok url ↔ ∃ user password host port left,
      takeAuthority cs = .ok (user, password, host, port, left) ∧
      url = withPath ⟨scheme, user, password, host, port.filter (· != scheme.port), [], none, none⟩
        [] (dropSlash left) := by
  unfold parseAuthority
  cases takeAuthority cs with
  | error e => simp [bind, Except.bind]
  | ok read =>
    obtain ⟨user, password, host, port, left⟩ := read
    simp only [bind, Except.bind, pure, Except.pure, Except.ok.injEq, Prod.mk.injEq]
    constructor
    · rintro rfl
      exact ⟨_, _, _, _, _, ⟨rfl, rfl, rfl, rfl, rfl⟩, rfl⟩
    · rintro ⟨_, _, _, _, _, ⟨rfl, rfl, rfl, rfl, rfl⟩, rfl⟩
      rfl

/-- The path is read from where the authority ends. -/
theorem takeAuthority_left (hauth : IsWithin auth) (hrest : IsBehind rest) {user : String}
    {password : Option String} {host : Host} {port : Option Nat} {left : List Char}
    (h : takeAuthority (auth ++ rest) = .ok (user, password, host, port, left)) : left = rest := by
  obtain ⟨text, huser, -, -, hport⟩ := takeAuthority_eq_ok.mp h
  rw [takeUserInfo_left hauth hrest huser] at hport
  have hwithin : IsWithin (behindLast '@' auth) := fun c hc =>
    hauth c (Text.behindLast_subset '@' auth hc)
  have hbehind : ∀ inBrackets, hostLength endsPart inBrackets rest = 0 :=
    hostLength_behind hrest
  have hwhole : takeColonPort rest = .ok (port, left) → left = rest := by
    intro hport
    rw [takeColonPort_behind hrest] at hport
    cases hport
    rfl
  rcases hostLength_cases hwithin false with ⟨front, behind, heq, hlength⟩ | hlength | ⟨-, hlength⟩
  · rw [hlength, heq, List.append_assoc, List.drop_left] at hport
    refine takePort_left ?_ hrest hport
    intro c hc
    exact hwithin c (by rw [heq]; simp [hc])
  · rw [hlength, hbehind, Nat.zero_add, List.drop_left] at hport
    exact hwhole hport
  · rw [hlength, hbehind, Nat.zero_add, List.drop_left] at hport
    exact hwhole hport

/-! ## A port behind a text -/

/-- A text with a port behind it is read as an authority if what stands behind its last at sign is
a host, and then has that port. -/
theorem takeAuthority_port {part : List Char} (hpart : IsWithin part) (hrest : IsBehind rest)
    (hunnamed : ¬ NamesUser part) (port : Nat) {user : String} {password : Option String}
    {host : Host} {port' : Option Nat} {left : List Char} :
    takeAuthority (part ++ ':' :: decimal port ++ rest) =
        .ok (user, password, host, port', left) ↔
      port ≤ 65535 ∧ Host.parse (behindLast '@' part) = .ok host ∧
        user = "" ∧ password = none ∧ port' = some port ∧ left = rest := by
  have hdigits := Text.decimal_isDigit port
  have hnone : ∀ c ∈ ':' :: decimal port, c ≠ '@' ∧ c ≠ ']' := by
    intro c hc
    rcases List.mem_cons.mp hc with rfl | hc
    · decide
    · have hdigit := hdigits c hc
      refine ⟨?_, ?_⟩
      all_goals
        rintro rfl
        exact absurd hdigit (by decide)
  have hsign : '@' ∉ ':' :: decimal port := fun hmem => (hnone _ hmem).1 rfl
  have hclose : ']' ∉ ':' :: decimal port := fun hmem => (hnone _ hmem).2 rfl
  have hport := isWithin_port port
  have hwithin : IsWithin (behindLast '@' part) := fun c hc =>
    hpart c (Text.behindLast_subset '@' part hc)
  have hlast := Text.behindLast_append_right hsign part
  -- The user is nobody, and the host is looked for in what stands behind the last at sign.
  obtain ⟨user', password', hread, hnobody⟩ :=
    takeUserInfo_eq (isWithin_append hpart hport) (by rw [hlast]; simp)
  obtain ⟨rfl, rfl⟩ := hnobody.mpr ((namesUser_append hsign).not.mpr hunnamed)
  have huser := hread rest hrest
  rw [hlast, List.append_assoc (behindLast '@' part)] at huser
  have hcolonPort : takeColonPort ((':' :: decimal port) ++ rest) =
      if 65535 < port then .error .badPort else .ok (some port, rest) :=
    takePort_decimal port hrest
  rw [takeAuthority_eq_ok]
  constructor
  · rintro ⟨text, htext, -, hhost, hcolon⟩
    rw [huser] at htext
    cases htext
    rcases hostLength_cases hwithin false with
      ⟨front, behind, heq, hlength⟩ | hlength | ⟨hopen, hlength⟩
    · rw [hlength, heq, List.append_assoc, List.drop_left] at hcolon
      have hbad : takeColonPort (':' :: behind ++ (':' :: decimal port ++ rest)) =
          .error .badPort := by
        refine takePort_colon ?_ (decimal port ++ rest)
        intro c hc
        exact hwithin c (by rw [heq]; simp [hc])
      rw [hbad] at hcolon
      cases hcolon
    · have hzero : hostLength endsPart false (':' :: decimal port ++ rest) = 0 := rfl
      rw [hlength, hzero, Nat.zero_add, List.take_left] at hhost
      rw [hlength, hzero, Nat.zero_add, List.drop_left, hcolonPort] at hcolon
      split at hcolon
      · cases hcolon
      · cases hcolon
        exact ⟨by omega, hhost, rfl, rfl, rfl, rfl⟩
    · exfalso
      have hbracket : '[' ∈ behindLast '@' part := by
        rcases hopen with hopen | hopen
        · cases hopen
        · exact hopen
      rw [hlength, hostLength_open hport hclose, hostLength_behind hrest, Nat.zero_add,
        ← List.append_assoc, Nat.add_comm, ← List.length_append, List.take_left] at hhost
      rcases Host.shape_of_parse hhost with ⟨inner, heq, -⟩ | ⟨-, hnobracket, -⟩
      · have hend := congrArg List.getLast? heq
        obtain ⟨c, hc⟩ : ∃ c, (':' :: decimal port).getLast? = some c := ⟨_, List.getLast?_cons⟩
        rw [List.getLast?_append, hc, ← List.cons_append, List.getLast?_concat] at hend
        cases hend
        exact hclose (List.mem_of_getLast? hc)
      · exact hnobracket (by simp [hbracket])
  · rintro ⟨hle, hhost, rfl, rfl, rfl, rfl⟩
    have hlength : hostLength endsPart false (behindLast '@' part ++ ':' :: (decimal port ++ left)) =
        (behindLast '@' part).length := hostLength_of_parse hwithin hhost rfl
    have hsome : behindLast '@' part ≠ [] := by
      rintro heq
      rw [heq] at hhost
      rcases Host.shape_of_parse hhost with ⟨_, hcons, -⟩ | ⟨hne, -⟩
      · cases hcons
      · exact hne rfl
    refine ⟨_, huser, ?_, ?_, ?_⟩
    · rw [List.cons_append, hlength]
      exact fun hzero => hsome (List.length_eq_zero_iff.mp hzero)
    · rw [List.cons_append, hlength, List.take_left]
      exact hhost
    · rw [List.cons_append, hlength, List.drop_left, ← List.cons_append, hcolonPort,
        if_neg (by omega)]

end ResultGateway.Url
