-- Blanks around settings. A setting has the same use as its trimmed text,
-- and one of white space only has the use of none at all: no answer tells
-- them apart, not even one that shows the value. The URL in use is the first
-- that is not blank of those in question, trimmed.
import ResultGateway.Proofs.CommandLine.Plans
import ResultGateway.Proofs.CommandLine.UnusedSettings
import ResultGateway.Proofs.Text.Trim

namespace ResultGateway

namespace Settings

open Text (IsBlank isNonBlank trim)

/-! ## Values that are alike -/

/-- A value, and what may stand for it. -/
inductive Tidies : Option String → Option String → Prop where
  | same (value : Option String) : Tidies value value
  | ends (lead s trail : String) (lead_blank : IsBlank lead) (trail_blank : IsBlank trail) :
      Tidies (some (lead ++ s ++ trail)) (some s)
  | blank (s : String) (blank : IsBlank s) : Tidies (some s) none

/-- The trimmed text of a value, unless it is blank. -/
def tidied (value : Option String) : Option String := (value.filter isNonBlank).map trim

theorem tidied_blank {s : String} (h : IsBlank s) : tidied (some s) = none := by
  unfold tidied
  rw [Option.filter_some_neg (by simp [Text.isNonBlank_eq_false.mpr h])]
  rfl

theorem tidied_nonBlank {s : String} (h : isNonBlank s = true) :
    tidied (some s) = some (trim s) := by
  unfold tidied
  rw [Option.filter_some_pos h]
  rfl

theorem tidied_between {lead s trail : String} (hlead : IsBlank lead) (htrail : IsBlank trail) :
    tidied (some (lead ++ s ++ trail)) = tidied (some s) := by
  by_cases h : IsBlank s
  · rw [tidied_blank h, tidied_blank ((Text.isBlank_between hlead htrail).mpr h)]
  · rw [← Text.isNonBlank_eq_false, Bool.not_eq_false] at h
    rw [tidied_nonBlank h, tidied_nonBlank ((Text.isNonBlank_between hlead htrail).trans h),
      Text.trim_between hlead htrail]

/-- What may stand for a value has the same trimmed text. -/
theorem Tidies.tidied_eq {value value' : Option String} (h : Tidies value value') :
    tidied value = tidied value' := by
  cases h with
  | same => rfl
  | ends lead s trail hlead htrail => exact tidied_between hlead htrail
  | blank s hblank => exact tidied_blank hblank

/-! ## Choices -/

/-- Nothing but the trimmed texts counts for the URL. -/
theorem chooseApiUrl_eq (explicit fromEnv : Option String) : chooseApiUrl explicit fromEnv =
    trim (((tidied explicit).or (tidied fromEnv)).getD defaultApiUrl) := by
  unfold chooseApiUrl tidied
  rw [← Option.map_or]
  cases (explicit.filter isNonBlank).or (fromEnv.filter isNonBlank) with
  | none => rfl
  | some given => exact (Text.trim_trim given).symm

/-- Nothing but the trimmed text counts for the port. -/
theorem chooseLocalPort_tidied (value : Option String) :
    chooseLocalPort none (tidied value) = chooseLocalPort none value := by
  cases value with
  | none => rfl
  | some s =>
    by_cases h : IsBlank s
    · rw [tidied_blank h]
      exact (chooseLocalPort_eq_ok.mpr (.blank s (Text.trim_eq_empty.mpr h) rfl)).symm
    · rw [← Text.isNonBlank_eq_false, Bool.not_eq_false] at h
      rw [tidied_nonBlank h]
      unfold chooseLocalPort
      simp only [Option.map_some, Text.trim_trim]

theorem ofEnvironment_tidies {env env' : Environment} {apiUrl apiUrl' : Option String}
    (hurl : Tidies apiUrl apiUrl') (henv : Tidies env.apiUrl env'.apiUrl)
    (hport : Tidies env.localPort env'.localPort) :
    ofEnvironment env apiUrl = ofEnvironment env' apiUrl' := by
  unfold ofEnvironment
  rw [chooseApiUrl_eq, chooseApiUrl_eq, hurl.tidied_eq, henv.tidied_eq,
    ← chooseLocalPort_tidied env.localPort, hport.tidied_eq, chooseLocalPort_tidied]

/-! ## The URL in use -/

/-- The URL that a command uses of all that are given to it. -/
structure IsUsedUrl (explicit fromEnv : Option String) (url : String) : Prop where
  /-- It is the trimmed text of the first that is not blank. -/
  first : ∃ before given after,
    explicit.toList ++ fromEnv.toList ++ [defaultApiUrl] = before ++ given :: after ∧
      (∀ s ∈ before, IsBlank s) ∧ ¬ IsBlank given ∧ url = trim given
  nonBlank : ¬ IsBlank url
  /-- Once used, it is used whatever else is given. -/
  fixed : ∀ value, chooseApiUrl (some url) value = url

theorem find?_or (explicit fromEnv : Option String) :
    (explicit.toList ++ fromEnv.toList ++ [defaultApiUrl]).find? isNonBlank =
      some (((explicit.filter isNonBlank).or (fromEnv.filter isNonBlank)).getD defaultApiUrl) := by
  have hdefault : isNonBlank defaultApiUrl = true := by decide
  have hfind : ∀ value : Option String,
      value.toList.find? isNonBlank = value.filter isNonBlank := by
    intro value
    cases value <;> simp [Option.filter]
  rw [List.find?_append, List.find?_append, hfind, hfind, List.find?_cons_of_pos hdefault]
  cases (explicit.filter isNonBlank).or (fromEnv.filter isNonBlank) <;> rfl

theorem isUsedUrl_chooseApiUrl (explicit fromEnv : Option String) :
    IsUsedUrl explicit fromEnv (chooseApiUrl explicit fromEnv) := by
  obtain ⟨hgiven, before, after, hsplit, hbefore⟩ :=
    List.find?_eq_some_iff_append.mp (find?_or explicit fromEnv)
  have hnonBlank : isNonBlank (chooseApiUrl explicit fromEnv) = true := by
    unfold chooseApiUrl
    rw [Text.isNonBlank_trim]
    exact hgiven
  refine ⟨⟨before, _, after, hsplit, ?_, ?_, rfl⟩, ?_, ?_⟩
  · intro s hs
    rw [← Text.isNonBlank_eq_false, ← Bool.not_eq_true']
    exact hbefore s hs
  · rw [← Text.isNonBlank_eq_false, hgiven]
    decide
  · rw [← Text.isNonBlank_eq_false, hnonBlank]
    decide
  · intro value
    rw [chooseApiUrl_eq, tidied_nonBlank hnonBlank, Option.some_or, Option.getD_some,
      Text.trim_trim]
    unfold chooseApiUrl
    rw [Text.trim_trim]

end Settings

namespace CommandLine

open Settings (IsUsedUrl Tidies)

/-! ## Commands -/

/-- Settings are all that a command takes from the environment. -/
theorem runCommand_settings {w w' : World} {apiUrl apiUrl' : Option String}
    (hrest : w' = { w with environment := w'.environment })
    (hsettings : Settings.ofEnvironment w.environment apiUrl =
      Settings.ofEnvironment w'.environment apiUrl') (d : Display) (command : Command) :
    runCommand w d apiUrl command = runCommand w' d apiUrl' command := by
  rw [hrest] at hsettings ⊢
  cases command with
  | query document vars field =>
    unfold runCommand executeQuery planQuery
    rw [hsettings]
  | run code graph port host =>
    unfold runCommand executeRun planRun
    rw [hsettings]
  | results => rfl
  | version => rfl
  | completion => rfl

/-! ## The law -/

/-- Blanks around the URL of the API, in an argument or in the environment, or around the port of
the environment change nothing of an answer, nor does a blank one that is left out. The URL in use
is the first that is not blank, trimmed; it is never blank, and used again it comes before all
that the environment holds. -/
theorem blanks_around_settings_change_no_answer (w : World) (c : Console)
    (invocation : Invocation) {apiUrl' url port : Option String}
    (hexplicit : Tidies invocation.apiUrl apiUrl') (hurl : Tidies w.environment.apiUrl url)
    (hport : Tidies w.environment.localPort port) :
    runRequest ((w.withApiUrl url).withLocalPort port) c
        (.run { invocation with apiUrl := apiUrl' }) = runRequest w c (.run invocation) ∧
    (∀ args args', Request.ofArguments args = .ok (.run invocation) →
      Request.ofArguments args' = .ok (.run { invocation with apiUrl := apiUrl' }) →
        run ((w.withApiUrl url).withLocalPort port) c args' = run w c args) ∧
    (∀ settings, Settings.ofEnvironment w.environment invocation.apiUrl = .ok settings →
      IsUsedUrl invocation.apiUrl w.environment.apiUrl settings.baseUrl) ∧
    (∀ document vars plan, planQuery w invocation.apiUrl document vars = .ok plan →
      ∃ text url, IsUsedUrl invocation.apiUrl w.environment.apiUrl text ∧
        Url.parse text = .ok (.web url) ∧ plan.endpoints = .ofBase url.asBase) := by
  have hrequest : runRequest ((w.withApiUrl url).withLocalPort port) c
      (.run { invocation with apiUrl := apiUrl' }) = runRequest w c (.run invocation) := by
    have hsettings : Settings.ofEnvironment w.environment invocation.apiUrl =
        Settings.ofEnvironment ((w.withApiUrl url).withLocalPort port).environment apiUrl' :=
      Settings.ofEnvironment_tidies hexplicit hurl hport
    exact (runCommand_settings rfl hsettings _ _).symm
  refine ⟨hrequest, ?_, ?_, ?_⟩
  · intro args args' hargs hargs'
    exact run_eq_of_runRequest hargs' hargs hrequest
  · intro settings hsettings
    obtain ⟨_, -, rfl⟩ := ofEnvironment_eq_ok.mp hsettings
    exact Settings.isUsedUrl_chooseApiUrl _ _
  · intro document vars plan hplan
    obtain ⟨url, hparse, hendpoints⟩ := (planQuery_eq_ok.mp hplan).endpoints
    exact ⟨_, url, Settings.isUsedUrl_chooseApiUrl _ _, hparse, hendpoints⟩

/-! ## A query -/

/-- A world with blanks in both variables. -/
def paddedWorld : World :=
  (refusingWorld.withApiUrl (some " \n")).withLocalPort (some "\t+80 ")

/-- The same query as `bareQueryArguments`, with blanks around its URL. -/
def paddedQueryArguments : List String :=
  ["--api-url", "\u3000http://[::1]/ ", "query", "--query", "q"]

/-- The blank variable gives way, and so do the blanks around the other settings: the request is
made, and made to the same URL. -/
theorem a_query_with_padded_settings_is_the_query_without_blanks :
    run ((paddedWorld.withApiUrl none).withLocalPort (some "+80")) plainConsole
        bareQueryArguments = run paddedWorld plainConsole paddedQueryArguments ∧
    (run paddedWorld plainConsole paddedQueryArguments).requests.length = 1 ∧
    IsUsedUrl (some "\u3000http://[::1]/ ") (some " \n") "http://[::1]/" := by
  have hexplicit : Tidies (some "\u3000http://[::1]/ ") (some "http://[::1]/") :=
    .ends "\u3000" "http://[::1]/" " " (by decide) (by decide)
  have hurl : Tidies paddedWorld.environment.apiUrl none :=
    .blank " \n" (by decide)
  have hport : Tidies paddedWorld.environment.localPort (some "+80") :=
    .ends "\t" "+80" " " (by decide) (by decide)
  obtain ⟨-, hrun, hused, -⟩ := blanks_around_settings_change_no_answer paddedWorld plainConsole
    ⟨some "\u3000http://[::1]/ ", .auto, .query (.text "q") none none⟩ hexplicit hurl hport
  refine ⟨?_, ?_, ?_⟩
  · exact hrun _ _ (by cbv) (by cbv)
  · cbv
  · have hsettings := hused ⟨"http://[::1]/", Settings.defaultLocalHost, 80⟩ (by cbv)
    exact hsettings

end CommandLine

end ResultGateway
