-- Where a code is sent. The URL of the run server is put together as a
-- text and read again. It leads to the path of runs on the given port, on
-- every host whose text neither ends the authority too early nor names a
-- user; for such a host there is a URL if what is left of its text is a
-- host. The text of any other host leads away, if it leads anywhere.
import Mathlib
import ResultGateway.Gateway.Client
import ResultGateway.Proofs.Http.Exchange
import ResultGateway.Proofs.Url.Authority
import ResultGateway.Proofs.Url.Path

namespace ResultGateway.Gateway

open Http (Network Wire Request)
open Text (behindLast decimal)
open Url (endsPart isSlash Host NamesUser IsWithin)

/-! ## The text of a host -/

/-- What the reading of a URL leaves of the text of a host: no tabs and line ends, and no slashes
at its front. -/
def Runner.written (r : Runner) : List Char :=
  (r.host.toList.filter fun c => !Url.isDropped c).dropWhile isSlash

/-- A text that does not only name a host. -/
inductive LeadsAway (written : List Char) : Prop where
  /-- A slash, a backslash, a question mark or a hash ends the authority in the text. -/
  | ended (ends : ¬ IsWithin written)
  /-- The text before its last at sign is a user or a password. -/
  | named (names : NamesUser written)

theorem not_leadsAway {written : List Char} :
    ¬ LeadsAway written ↔ IsWithin written ∧ ¬ NamesUser written := by
  constructor
  · intro h
    exact ⟨Classical.not_not.mp fun hends => h (.ended hends), fun hnames => h (.named hnames)⟩
  · rintro ⟨hwithin, hunnamed⟩ h
    cases h with
    | ended hends => exact hends hwithin
    | named hnames => exact hunnamed hnames

/-! ## The text of the URL -/

/-- What stands behind the text of a host. -/
def behindHost (port : Nat) : List Char := ':' :: decimal port ++ "/run".toList

theorem toList_rawUrl (r : Runner) (port : Option Nat) : (r.rawUrl port).toList =
    "http://".toList ++ r.host.toList ++ behindHost (port.getD r.port) := by
  unfold Runner.rawUrl behindHost
  simp [String.toList_append]

theorem behindHost_kept (port : Nat) : ∀ c ∈ behindHost port, (!Url.isDropped c) = true := by
  intro c hc
  unfold behindHost at hc
  rw [List.mem_append, List.mem_cons] at hc
  rcases hc with (rfl | hc) | hc
  · rfl
  · have hdigit := Text.decimal_isDigit port c hc
    unfold Text.isDigit at hdigit
    unfold Url.isDropped
    simp only [Bool.not_eq_true', Bool.or_eq_false_iff, beq_eq_false_iff_ne]
    refine ⟨⟨?_, ?_⟩, ?_⟩
    all_goals
      rintro rfl
      exact absurd hdigit (by decide)
  · have hrun : "/run".toList.all (fun d => !Url.isDropped d) = true := by decide
    exact List.all_eq_true.mp hrun c hc

/-- The text starts and ends with a letter, so nothing is trimmed. -/
theorem cleaned_rawUrl (r : Runner) (port : Option Nat) : Url.cleaned (r.rawUrl port) =
    "http://".toList ++ (r.host.toList.filter fun c => !Url.isDropped c) ++
      behindHost (port.getD r.port) := by
  have hends : ∃ mid, (r.rawUrl port).toList = 'h' :: (mid ++ ['n']) := by
    refine ⟨"ttp://".toList ++ r.host.toList ++ ':' :: decimal (port.getD r.port) ++
      "/ru".toList, ?_⟩
    rw [toList_rawUrl, behindHost]
    simp
  obtain ⟨mid, hmid⟩ := hends
  have hkept : (r.rawUrl port).toList.filter (fun c => !Url.isDropped c) =
      "http://".toList ++ (r.host.toList.filter fun c => !Url.isDropped c) ++
        behindHost (port.getD r.port) := by
    rw [toList_rawUrl, List.filter_append, List.filter_append,
      List.filter_eq_self.mpr (behindHost_kept _)]
    rfl
  rw [← hkept]
  unfold Url.cleaned
  rw [hmid, List.dropWhile_cons_of_neg (by decide), ← List.cons_append, List.reverse_concat,
    List.dropWhile_cons_of_neg (by decide), ← List.reverse_concat, List.reverse_reverse]

theorem dropWhile_written (r : Runner) (port : Nat) :
    ((r.host.toList.filter fun c => !Url.isDropped c) ++ behindHost port).dropWhile isSlash =
      r.written ++ behindHost port := by
  unfold Runner.written
  rw [List.dropWhile_append]
  split
  · rename_i hempty
    rw [List.isEmpty_iff.mp hempty]
    rfl
  · rfl

/-- The text is read as a URL for the web, from what is left of the host on. -/
theorem parse_rawUrl (r : Runner) (port : Option Nat) : Url.parse (r.rawUrl port) =
    (Url.parseAuthority .http (r.written ++ behindHost (port.getD r.port))).map .web := by
  have hscheme : ∀ cs, Url.takeScheme ("http://".toList ++ cs) =
      some ("http".toList, '/' :: '/' :: cs) := by
    intro cs
    rfl
  have hkind : Url.SchemeKind.ofName "http".toList = .web .http := by decide
  unfold Url.parse
  rw [cleaned_rawUrl, List.append_assoc, hscheme]
  dsimp only
  unfold Url.parseBehind
  rw [hkind]
  have hslashes : ∀ cs, ('/' :: '/' :: cs).dropWhile isSlash = cs.dropWhile isSlash := fun cs => rfl
  simp only [hslashes, dropWhile_written]
  cases Url.parseAuthority .http (r.written ++ behindHost (port.getD r.port)) <;> rfl

theorem url_eq_ok {r : Runner} {port : Option Nat} {url : Url} : r.url port = .ok url ↔
    Url.parseAuthority .http (r.written ++ behindHost (port.getD r.port)) = .ok url := by
  unfold Runner.url
  dsimp only
  rw [parse_rawUrl]
  cases Url.parseAuthority .http (r.written ++ behindHost (port.getD r.port)) <;> simp [Except.map]

/-! ## URLs of the run server -/

/-- A URL that leads to the path of runs on a port, and nowhere else. -/
structure LeadsToRuns (url : Url) (port : Nat) : Prop where
  user : url.user = ""
  password : url.password = none
  port : url.effectivePort = port
  path : url.path = ["run"]
  query : url.query = none
  fragment : url.fragment = none

/-- The URL of the run server on a host. The usual port is not named. -/
def runUrl (host : Host) (port : Nat) : Url :=
  ⟨.http, "", none, host, (some port).filter (· != 80), ["run"], none, none⟩

theorem leadsToRuns_runUrl (host : Host) (port : Nat) : LeadsToRuns (runUrl host port) port := by
  refine ⟨rfl, rfl, ?_, rfl, rfl, rfl⟩
  unfold Url.effectivePort runUrl
  by_cases h : port = 80
  · subst h
    rfl
  · have hkept : (some port).filter (fun p => p != 80) = some port := by
      rw [Option.filter_some, if_pos (by simpa using h)]
    simp only [hkept]
    rfl

theorem withPath_run (url : Url) : Url.withPath url [] "run".toList =
    { url with path := ["run"], query := none, fragment := none } := by
  have hend : Url.takeEnd "run".toList = (none, none) := by cbv
  have hpath : Url.pathFrom [] "run".toList = ["run"] := by cbv
  unfold Url.withPath
  rw [hend, hpath]

/-- The URL for a text that names a host only. -/
theorem parseAuthority_run {written : List Char} (h : ¬ LeadsAway written) (port : Nat)
    {url : Url} : Url.parseAuthority .http (written ++ behindHost port) = .ok url ↔
      port ≤ 65535 ∧ ∃ host, Host.parse (behindLast '@' written) = .ok host ∧
        url = runUrl host port := by
  obtain ⟨hwithin, hunnamed⟩ := not_leadsAway.mp h
  have hslash : Url.IsBehind "/run".toList := Url.isBehind_cons rfl _
  have hdrop : Url.dropSlash "/run".toList = "run".toList := rfl
  unfold behindHost
  rw [← List.append_assoc, Url.parseAuthority_eq_ok]
  constructor
  · rintro ⟨user, password, host, port', left, hread, rfl⟩
    obtain ⟨hle, hhost, rfl, rfl, rfl, rfl⟩ :=
      (Url.takeAuthority_port hwithin hslash hunnamed port).mp hread
    refine ⟨hle, host, hhost, ?_⟩
    rw [hdrop, withPath_run]
    rfl
  · rintro ⟨hle, host, hhost, rfl⟩
    refine ⟨"", none, host, some port, "/run".toList, ?_, ?_⟩
    · exact (Url.takeAuthority_port hwithin hslash hunnamed port).mpr
        ⟨hle, hhost, rfl, rfl, rfl, rfl⟩
    · rw [hdrop, withPath_run]
      rfl

/-! ## Texts that lead away -/

/-- A user or a password that a text names stays in the URL. -/
theorem user_of_named {written : List Char} (hwithin : IsWithin written)
    (hnames : NamesUser written) {port : Nat} {url : Url}
    (h : Url.parseAuthority .http (written ++ behindHost port) = .ok url) :
    ¬ (url.user = "" ∧ url.password = none) := by
  have hsign : '@' ∉ ':' :: decimal port := by
    intro hmem
    rcases List.mem_cons.mp hmem with h | hmem
    · cases h
    · exact absurd (Text.decimal_isDigit port _ hmem) (by decide)
  have hslash : Url.IsBehind "/run".toList := Url.isBehind_cons rfl _
  unfold behindHost at h
  rw [← List.append_assoc] at h
  obtain ⟨user, password, host, port', left, hread, rfl⟩ := Url.parseAuthority_eq_ok.mp h
  obtain ⟨text, hread, -⟩ := Url.takeAuthority_eq_ok.mp hread
  obtain ⟨user', password', hinfo, hnobody⟩ :=
    Url.takeUserInfo_eq (Url.isWithin_append hwithin (Url.isWithin_port port)) (by
      rw [Text.behindLast_append_right hsign]
      simp)
  rw [hinfo _ hslash] at hread
  cases hread
  intro hnone
  exact hnobody.mp hnone ((Url.namesUser_append hsign).mpr hnames)

/-- A path that is read from a text with a port in it has a segment before the last. -/
theorem pathFrom_port (text : List Char) (port : Nat)
    (h : ∀ c ∈ text ++ behindHost port, Url.startsEnd c = false) :
    Url.pathFrom [] (text ++ behindHost port) ≠ ["run"] := by
  have hcolon : ∀ c ∈ ':' :: decimal port, isSlash c = false := by
    intro c hc
    have hwithin := Url.isWithin_port port c hc
    unfold endsPart at hwithin
    simp only [Bool.or_eq_false_iff] at hwithin
    exact hwithin.1.1
  have hsplit : text ++ behindHost port = (text ++ ':' :: decimal port) ++ '/' :: "run".toList := by
    rw [List.append_assoc]
    rfl
  have hrun : Text.splitBy isSlash "run".toList = ["run".toList] := by decide
  obtain ⟨front, last, -, hpieces⟩ := Text.splitBy_append_piece hcolon text
  obtain ⟨segments, hwalk⟩ := Url.walk_last_two
    (Url.not_dots_of_colon (by simp : ':' ∈ last ++ ':' :: decimal port))
    (by decide : Url.isDoubleDot "run".toList = false ∧ Url.isDot "run".toList = false) [] front
  rw [Url.pathFrom_plain h, hsplit, Text.splitBy_append_separator rfl, hpieces, hrun, List.append_assoc]
  change Url.walk [] (front ++ [last ++ ':' :: decimal port, "run".toList]) ≠ _
  rw [hwalk]
  intro hone
  have hlength := congrArg List.length hone
  simp at hlength

/-- A text in which the authority ends leads to a path of two segments or more, or to a query or a
fragment. -/
theorem elsewhere_of_ended {written : List Char} (hends : ¬ IsWithin written) {port : Nat}
    {url : Url} (h : Url.parseAuthority .http (written ++ behindHost port) = .ok url) :
    ¬ (url.path = ["run"] ∧ url.query = none ∧ url.fragment = none) := by
  obtain ⟨auth, e, tail, rfl, hauth, he⟩ := Url.exists_end hends
  rw [List.append_assoc, List.cons_append] at h
  obtain ⟨user, password, host, port', left, hread, rfl⟩ := Url.parseAuthority_eq_ok.mp h
  have hleft := Url.takeAuthority_left hauth (Url.isBehind_cons he _) hread
  subst hleft
  rintro ⟨hpath, hquery, hfragment⟩
  have hend : ∀ d ∈ Url.dropSlash (e :: (tail ++ behindHost port)), Url.startsEnd d = false :=
    Url.takeEnd_eq_none.mp (Prod.ext hquery hfragment)
  change Url.pathFrom [] (Url.dropSlash (e :: (tail ++ behindHost port))) = ["run"] at hpath
  by_cases hslash : isSlash e = true
  · have hdrop : Url.dropSlash (e :: (tail ++ behindHost port)) = tail ++ behindHost port :=
      if_pos hslash
    rw [hdrop] at hend hpath
    exact pathFrom_port tail port hend hpath
  · have hdrop : Url.dropSlash (e :: (tail ++ behindHost port)) = e :: (tail ++ behindHost port) :=
      if_neg hslash
    rw [hdrop] at hend
    have hstarts := hend e List.mem_cons_self
    unfold Url.startsEnd at hstarts
    unfold endsPart at he
    simp_all

theorem not_leadsToRuns {written : List Char} (haway : LeadsAway written) {port : Nat} {url : Url}
    (h : Url.parseAuthority .http (written ++ behindHost port) = .ok url) :
    ¬ LeadsToRuns url port := by
  intro hruns
  by_cases hwithin : IsWithin written
  · cases haway with
    | ended hends => exact hends hwithin
    | named hnames => exact user_of_named hwithin hnames h ⟨hruns.user, hruns.password⟩
  · exact elsewhere_of_ended hwithin h ⟨hruns.path, hruns.query, hruns.fragment⟩

/-! ## Requests of a run -/

/-- What a run hands over goes to its URL. -/
theorem run_posts {net : Network} {r : Runner} {code : String} {graph : Json} {port : Option Nat}
    {wire : Wire} {request : Request} (h : request ∈ (r.run net code graph port wire).requests)
    (hpost : request.method = .post) : r.url port = .ok request.url := by
  unfold Runner.run at h
  cases hurl : r.url port with
  | error f =>
    rw [hurl] at h
    cases h
  | ok url =>
    rw [hurl] at h
    change request ∈ (Http.send net (runCall url code graph) wire).requests at h
    rcases Http.send_requests net (runCall url code graph) wire with hnone | ⟨later, hsent, hpages⟩
    · rw [hnone] at h
      cases h
    · rw [hsent] at h
      rcases List.mem_cons.mp h with rfl | h
      · rfl
      · rw [(hpages request h).1] at hpost
        cases hpost

/-! ## The law -/

/-- A failure to make the URL of a run is one of usage. A host whose text does not lead away has
the URL that leads to runs on the port, if what is left of the text is a host at all; a text that
leads away gives no URL, or one that leads elsewhere. A run is handed over at its URL only. -/
theorem a_run_url_leads_to_runs_unless_the_host_leads_away (net : Network) (r : Runner)
    (code : String) (graph : Json) (port : Option Nat) (wire : Wire) :
    (∀ f, r.url port = .error f → f.kind = .usage) ∧
    (∀ url, r.url port = .ok url → url.scheme = .http ∧
      (LeadsToRuns url (port.getD r.port) ↔ ¬ LeadsAway r.written)) ∧
    (¬ LeadsAway r.written → ∀ url, r.url port = .ok url ↔
      port.getD r.port ≤ 65535 ∧ ∃ host, Host.parse (behindLast '@' r.written) = .ok host ∧
        url = runUrl host (port.getD r.port)) ∧
    ∀ request ∈ (r.run net code graph port wire).requests, request.method = .post →
      r.url port = .ok request.url := by
  refine ⟨?_, ?_, ?_, fun request h => run_posts h⟩
  · intro f hf
    unfold Runner.url at hf
    dsimp only at hf
    split at hf
    · cases hf
      rfl
    · cases hf
    · cases hf
      rfl
  · intro url hurl
    have hread := url_eq_ok.mp hurl
    refine ⟨?_, fun hruns haway => not_leadsToRuns haway hread hruns, ?_⟩
    · obtain ⟨_, _, _, _, _, -, rfl⟩ := Url.parseAuthority_eq_ok.mp hread
      rfl
    · intro hstays
      obtain ⟨-, host, -, rfl⟩ := (parseAuthority_run hstays _).mp hread
      exact leadsToRuns_runUrl host _
  · intro hstays url
    rw [url_eq_ok]
    exact parseAuthority_run hstays _

/-! ## Hosts that lead away -/

/-- The text of the URL for a host, with the port 8080. -/
def urlText (host : String) : Except Failure String :=
  (Runner.url ⟨host, 8080⟩ none).map Url.text

/-- A slash, a question mark, a hash and an at sign in the text of a host are accepted, and each
leads elsewhere than a host does. -/
theorem some_hosts_lead_away :
    urlText "[::1]" = .ok "http://[::1]:8080/run" ∧
    urlText "[::1]/x" = .ok "http://[::1]/x:8080/run" ∧
    urlText "[::1]?x" = .ok "http://[::1]/?x:8080/run" ∧
    urlText "[::1]#x" = .ok "http://[::1]/#x:8080/run" ∧
    urlText "u:p@[::1]" = .ok "http://u:p@[::1]:8080/run" := by
  refine ⟨?_, ?_, ?_, ?_, ?_⟩
  · cbv
  · cbv
  · cbv
  · cbv
  · cbv

end ResultGateway.Gateway
