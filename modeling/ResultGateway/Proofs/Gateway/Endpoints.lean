-- Endpoints of the API. A base URL keeps the URL that it is made from up to
-- its path, which ends in a slash. The endpoints are the text of the base
-- URL with a name behind it, but for one path of the base: of two slashes
-- an endpoint has only one.
import Mathlib
import ResultGateway.Gateway.Endpoint
import ResultGateway.Proofs.Url.Segments

namespace ResultGateway.Gateway

open Url (pathText appendSegment)

/-! ## Texts of URLs -/

/-- What stands before the path. -/
def origin (u : Url) : String := u.scheme.name ++ "://" ++ u.authority

/-- A URL with nothing behind its path. -/
theorem text_bare {u : Url} (hquery : u.query = none) (hfragment : u.fragment = none) :
    u.text = origin u ++ pathText u.path := by
  simp [Url.text, Url.target, Url.queryText, origin, hquery, hfragment]

/-! ## Bases -/

/-- What a base URL keeps of the URL that it is made from. Nothing stands behind its path, which
gets a slash if it does not end in one. -/
structure IsBaseOf (url base : Url) : Prop where
  scheme : base.scheme = url.scheme
  user : base.user = url.user
  password : base.password = url.password
  host : base.host = url.host
  port : base.port = url.port
  path : pathText base.path = if (pathText url.path).toList.getLast? = some '/'
    then pathText url.path else pathText url.path ++ "/"
  slash : (pathText base.path).toList.getLast? = some '/'
  query : base.query = none
  fragment : base.fragment = none

/-- The last segment of the path of a base is empty. -/
theorem asBase_path (u : Url) : ∃ front, u.asBase.path = front ++ [""] := by
  unfold Url.asBase Url.endsInSlash
  dsimp only
  split
  · rename_i h
    exact List.getLast?_eq_some_iff.mp (by simpa using h)
  · exact ⟨u.path, rfl⟩

theorem isBaseOf_asBase {u : Url} (hcut : Url.IsCut u.path) (hne : u.path ≠ []) :
    IsBaseOf u u.asBase := by
  refine ⟨rfl, rfl, rfl, rfl, rfl, ?_, ?_, rfl, rfl⟩
  · have hends : u.endsInSlash = true ↔ (pathText u.path).toList.getLast? = some '/' := by
      rw [Url.getLast?_pathText hcut hne]
      simp [Url.endsInSlash]
    unfold Url.asBase
    dsimp only
    by_cases h : u.endsInSlash = true
    · rw [if_pos h, if_pos (hends.mp h)]
    · rw [if_neg h, if_neg (mt hends.mpr h), Url.pathText_append]
      rfl
  · obtain ⟨front, hfront⟩ := asBase_path u
    rw [hfront, Url.pathText_append, String.toList_append]
    exact List.getLast?_concat

theorem baseUrl_eq_ok {raw : String} {base : Url} :
    baseUrl raw = .ok base ↔ ∃ url, Url.parse raw = .ok (.web url) ∧ base = url.asBase := by
  unfold baseUrl
  cases Url.parse raw with
  | error e => simp
  | ok parsed =>
    cases parsed with
    | web url => simp [eq_comm]
    | foreign => simp

theorem endpoints_eq_ok {raw : String} {e : Endpoints} : endpoints raw = .ok e ↔
    ∃ url, Url.parse raw = .ok (.web url) ∧ e = .ofBase url.asBase := by
  unfold endpoints
  cases hbase : baseUrl raw with
  | error f =>
    have hnone : ∀ url, Url.parse raw ≠ .ok (.web url) := by
      intro url h
      rw [baseUrl_eq_ok.mpr ⟨url, h, rfl⟩] at hbase
      cases hbase
    simp [hnone]
  | ok base =>
    obtain ⟨url, hurl, rfl⟩ := baseUrl_eq_ok.mp hbase
    simp [hurl, eq_comm]

/-! ## Names under a base -/

/-- How the endpoint of a name stands under a base URL. The text of the base is in front of the
name, unless its path is two slashes: the name takes the place of the second one. -/
structure StandsUnder (base : Url) (name : String) (endpoint : Url) : Prop where
  text_iff : endpoint.text = base.text ++ name ↔ pathText base.path ≠ "//"
  onSlash : pathText base.path = "//" →
    ∃ front, base.text = front ++ "/" ∧ endpoint.text = front ++ name

theorem appendSegment_concat (front : List String) (name : String) :
    appendSegment (front ++ [""]) name =
      if front = [""] then [name] else front ++ [name] := by
  simp [appendSegment]

theorem standsUnder_endpoint {base : Url} {front : List String} (hpath : base.path = front ++ [""])
    (hquery : base.query = none) (hfragment : base.fragment = none) (name : String) :
    StandsUnder base name (base.endpoint name) := by
  have hbase : base.text = origin base ++ pathText front ++ "/" := by
    rw [text_bare hquery hfragment, hpath, Url.pathText_append, Url.pathText_single,
      ← String.append_assoc, String.append_empty]
  have hendpoint : (base.endpoint name).text =
      origin base ++ pathText (if front = [""] then [name] else front ++ [name]) := by
    rw [← appendSegment_concat, ← hpath]
    exact text_bare hquery hfragment
  by_cases hslash : front = [""]
  · -- The empty segment before the last is lost, and one slash with it.
    have hslashes : pathText base.path = "//" := by rw [hpath, hslash]; rfl
    have hfront : base.text = origin base ++ "/" ++ "/" := by rw [hbase, hslash]; rfl
    rw [if_pos hslash, Url.pathText_single, ← String.append_assoc] at hendpoint
    refine ⟨?_, fun _ => ⟨origin base ++ "/", hfront, hendpoint⟩⟩
    simp only [hslashes, ne_eq, not_true_eq_false, iff_false]
    rw [hendpoint, hfront]
    intro h
    simpa using congrArg String.length h
  · have hother : pathText base.path ≠ "//" := by
      rw [hpath]
      exact mt Url.pathText_eq_slashes.mp hslash
    rw [if_neg hslash, Url.pathText_append, Url.pathText_single] at hendpoint
    refine ⟨iff_of_true ?_ hother, fun h => absurd h hother⟩
    rw [hendpoint, hbase]
    simp only [String.append_assoc]

/-! ## The law -/

/-- A client is made from the texts of URLs for the web. Its base URL keeps the scheme, the user,
the host, the port and the path, and its endpoints are the base URL with their names behind it.
Only when the path of the base is two slashes they have one slash in the place of both. -/
theorem endpoints_stand_under_their_base_but_for_two_slashes {raw : String} {e : Endpoints}
    (h : endpoints raw = .ok e) :
    ∃ url, Url.parse raw = .ok (.web url) ∧ IsBaseOf url e.base ∧
      (e.base.scheme.name = "http" ∨ e.base.scheme.name = "https") ∧
      StandsUnder e.base "csrf" e.token ∧ StandsUnder e.base "graphql" e.query := by
  obtain ⟨url, hurl, rfl⟩ := endpoints_eq_ok.mp h
  obtain ⟨cs, hpath⟩ := Url.parse_path hurl
  obtain ⟨front, hfront⟩ := asBase_path url
  refine ⟨url, hurl, ?_, ?_, ?_, ?_⟩
  · refine isBaseOf_asBase ?_ ?_
    · rw [hpath]
      exact Url.isCut_pathFrom cs
    · rw [hpath]
      exact Url.walk_ne_nil [] _
  · cases (Endpoints.ofBase url.asBase).base.scheme with
    | http => exact .inl rfl
    | https => exact .inr rfl
  · exact standsUnder_endpoint hfront rfl rfl "csrf"
  · exact standsUnder_endpoint hfront rfl rfl "graphql"

/-- An empty segment within a path is kept, and what stands behind the path is dropped. -/
theorem endpoints_stand_under_an_empty_segment : ∃ e,
    endpoints "http://u:p@[::1]:8080/api//?q#f" = .ok e ∧
    e.base.text = "http://u:p@[::1]:8080/api//" ∧
    e.token.text = "http://u:p@[::1]:8080/api//csrf" ∧
    ∃ url, Url.parse "http://u:p@[::1]:8080/api//?q#f" = .ok (.web url) ∧ IsBaseOf url e.base ∧
      (e.base.scheme.name = "http" ∨ e.base.scheme.name = "https") ∧
      StandsUnder e.base "csrf" e.token ∧ StandsUnder e.base "graphql" e.query := by
  have hread : endpoints "http://u:p@[::1]:8080/api//?q#f" = .ok (.ofBase ⟨.http, "u", some "p",
      .ipv6 [0, 0, 0, 0, 0, 0, 0, 1], some 8080, ["api", "", ""], none, none⟩) := by cbv
  refine ⟨_, hread, ?_, ?_, endpoints_stand_under_their_base_but_for_two_slashes hread⟩
  · cbv
  · cbv

/-- Under a path of two slashes no endpoint is the base URL with its name behind it. -/
theorem endpoints_lose_a_slash_of_two : ∃ e, endpoints "http://[::1]//" = .ok e ∧
    e.base.text = "http://[::1]//" ∧ e.token.text = "http://[::1]/csrf" ∧
    e.query.text = "http://[::1]/graphql" ∧
    e.token.text ≠ e.base.text ++ "csrf" ∧ e.query.text ≠ e.base.text ++ "graphql" := by
  have hread : endpoints "http://[::1]//" = .ok (.ofBase ⟨.http, "", none,
      .ipv6 [0, 0, 0, 0, 0, 0, 0, 1], none, ["", ""], none, none⟩) := by cbv
  generalize hbase : (⟨.http, "", none, .ipv6 [0, 0, 0, 0, 0, 0, 0, 1], none, ["", ""], none,
    none⟩ : Url) = base at hread
  have htext : base.text = "http://[::1]//" := by subst hbase; cbv
  have htoken : (base.endpoint "csrf").text = "http://[::1]/csrf" := by subst hbase; cbv
  have hquery : (base.endpoint "graphql").text = "http://[::1]/graphql" := by subst hbase; cbv
  refine ⟨_, hread, htext, htoken, hquery, ?_, ?_⟩
  · change (base.endpoint "csrf").text ≠ base.text ++ "csrf"
    rw [htoken, htext]
    decide
  · change (base.endpoint "graphql").text ≠ base.text ++ "graphql"
    rw [hquery, htext]
    decide

end ResultGateway.Gateway
