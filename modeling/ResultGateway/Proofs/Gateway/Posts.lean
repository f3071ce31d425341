-- What a query sends. It is posted once at most, and only with the token
-- of its session; all other requests of the call ask for pages. The body
-- tells the document and the variables exactly, so two queries that are
-- not the same are never posted as the same.
import ResultGateway.Proofs.Gateway.Calls
import ResultGateway.Proofs.Json.ReadBack

namespace ResultGateway.Gateway

open Http (Network Wire Request isHeaderValue trimmedValue)

/-! ## Bodies -/

theorem isExact_requestBody (document : String) {vars : Option Json}
    (h : ∀ v, vars = some v → v.IsExact) : (GraphQl.requestBody document vars).IsExact := by
  have hnames : Json.NamesAscend ["query", "variables"] := ⟨by decide, trivial⟩
  have hvars : (Json.orNull vars).IsExact := by
    cases vars with
    | none => exact ⟨trivial, 0, .null⟩
    | some v => exact h v rfl
  obtain ⟨hcanonical, depth, hwithin⟩ := hvars
  refine ⟨⟨hnames, trivial, hcanonical, trivial⟩, depth + 1, .obj ?_⟩
  intro member hmember
  simp only [List.mem_cons, List.not_mem_nil, or_false] at hmember
  rcases hmember with rfl | rfl
  · exact .str document
  · exact hwithin

/-! ## Posts -/

/-- A request that posts a query to the API under a base URL, with a token. -/
structure Posts (base : Url) (token document : String) (vars : Option Json) (r : Request) :
    Prop where
  method : r.method = .post
  url : r.url = base.endpoint "graphql"
  /-- The token arrives as the value of a header does. -/
  token : r.token = some (trimmedValue token)
  accept : r.accept = "application/json"
  contentType : r.contentType = some "application/json"
  /-- Every reader that goes deep enough for texts of its length reads the body so. -/
  body : ∀ depth, r.body.toList.length ≤ depth →
    Json.whole (Json.readValue depth) r.body.toList =
      .ok (.obj [("query", .str document), ("variables", vars.getD .null)])

theorem posts_request (base : Url) (token document : String) {vars : Option Json}
    (h : ∀ v, vars = some v → v.IsExact) (jar : Http.Jar) :
    Posts base token document vars ((queryCall (.ofBase base) token document vars).request jar) := by
  refine ⟨rfl, rfl, rfl, rfl, rfl, ?_⟩
  intro depth hdepth
  have hread := (isExact_requestBody document h).read_compact hdepth
  cases vars <;> exact hread

/-- Posts of one body are posts of one query. -/
theorem Posts.eq_of_body {base base' : Url} {token token' document document' : String}
    {vars vars' : Option Json} {r r' : Request} (h : Posts base token document vars r)
    (h' : Posts base' token' document' vars' r') (hbody : r.body = r'.body) :
    document = document' ∧ vars.getD .null = vars'.getD .null := by
  have hread := h.body _ (Nat.le_refl _)
  rw [hbody, h'.body _ (Nat.le_refl _)] at hread
  simp only [Except.ok.injEq, Json.obj.injEq, List.cons.injEq, Prod.mk.injEq, Json.str.injEq,
    true_and, and_true] at hread
  exact ⟨hread.1.symm, hread.2.symm⟩

/-- The requests of a call that hand something over. -/
def posted (requests : List Request) : List Request := requests.filter fun r => r.method = .post

theorem posted_pages {requests : List Request} (h : ∀ r ∈ requests, r.AsksForPage) :
    posted requests = [] := by
  refine List.filter_eq_nil_iff.mpr fun r hr => ?_
  simp [(h r hr).1]

theorem posted_between {before after : List Request} {post : Request}
    (hbefore : ∀ r ∈ before, r.AsksForPage) (hafter : ∀ r ∈ after, r.AsksForPage)
    (hpost : post.method = .post) : posted (before ++ post :: after) = [post] := by
  have hb := posted_pages hbefore
  have ha := posted_pages hafter
  unfold posted at *
  rw [List.filter_append, List.filter_cons, hb, ha]
  simp [hpost]

section

variable {net : Network} {base : Url} {s : Session} (document : String) {vars : Option Json}
  {wire : Wire}

/-! ## Queries with and without a token -/

theorem query_untokened (vars : Option Json) {f : Failure}
    (h : (ensureToken net (.ofBase base) s wire).1.result = .error f) :
    (query net (.ofBase base) s document vars wire).1.requests =
      (ensureToken net (.ofBase base) s wire).1.requests := by
  rcases query_cases net (.ofBase base) s wire document vars with
    ⟨_, _, _, hrequests⟩ | ⟨token, ht, _, _⟩
  · exact hrequests
  · rw [h] at ht
    cases ht

/-- A query with a token ends as its post does, and sends what that sends. -/
theorem query_tokened (vars : Option Json) {token : String}
    (h : (ensureToken net (.ofBase base) s wire).1.result = .ok token) :
    (query net (.ofBase base) s document vars wire).1.result =
      (postQuery net (.ofBase base) token document vars
        (ensureToken net (.ofBase base) s wire).1.wire).result ∧
    (query net (.ofBase base) s document vars wire).1.requests =
      (ensureToken net (.ofBase base) s wire).1.requests ++
        (Http.send net (queryCall (.ofBase base) token document vars)
          (ensureToken net (.ofBase base) s wire).1.wire).requests := by
  rcases query_cases net (.ofBase base) s wire document vars with
    ⟨f, hf, _, _⟩ | ⟨token', ht, hresult, hrequests⟩
  · rw [h] at hf
    cases hf
  · rw [h] at ht
    cases ht
    rw [postQuery_requests] at hrequests
    exact ⟨hresult, hrequests⟩

theorem query_unsent (vars : Option Json) {token : String}
    (h : (ensureToken net (.ofBase base) s wire).1.result = .ok token)
    (hunsent : isHeaderValue token = false ∨ net.reaches (base.endpoint "graphql") = false) :
    (query net (.ofBase base) s document vars wire).1.requests =
      (ensureToken net (.ofBase base) s wire).1.requests ∧
    (query net (.ofBase base) s document vars wire).1.result =
      .error (unanswered (net.cause (queryCall (.ofBase base) token document vars)
        (ensureToken net (.ofBase base) s wire).1.wire) (base.endpoint "graphql")) := by
  obtain ⟨hresult, hrequests⟩ := query_tokened document vars h
  have hsend := Http.send_unsent (queryCall (.ofBase base) token document vars)
    (ensureToken net (.ofBase base) s wire).1.wire hunsent
  rw [hsend, List.append_nil] at hrequests
  rw [postQuery_result, hsend] at hresult
  exact ⟨hrequests, hresult⟩

theorem query_sent (hvars : ∀ v, vars = some v → v.IsExact) {token : String}
    (h : (ensureToken net (.ofBase base) s wire).1.result = .ok token)
    (htoken : isHeaderValue token = true) (hreach : net.reaches (base.endpoint "graphql") = true) :
    ∃ post after, (query net (.ofBase base) s document vars wire).1.requests =
        (ensureToken net (.ofBase base) s wire).1.requests ++ post :: after ∧
      Posts base token document vars post ∧ ∀ r ∈ after, r.AsksForPage := by
  obtain ⟨after, hsend, hafter⟩ :=
    Http.send_sent (queryCall (.ofBase base) token document vars)
      (ensureToken net (.ofBase base) s wire).1.wire htoken hreach
  have hpost := posts_request base token document hvars
    (ensureToken net (.ofBase base) s wire).1.wire.jar
  refine ⟨_, after, ?_, hpost, hafter⟩
  rw [(query_tokened document vars h).2, hsend]

/-- What a query posts, if it posts at all. -/
theorem posted_query (net : Network) (base : Url) (s : Session) (document : String) (wire : Wire)
    (hvars : ∀ v, vars = some v → v.IsExact) :
    posted (query net (.ofBase base) s document vars wire).1.requests = [] ∨
    ∃ token post, posted (query net (.ofBase base) s document vars wire).1.requests = [post] ∧
      Posts base token document vars post := by
  have hpages := ensureToken_pages net (.ofBase base) s wire
  cases h : (ensureToken net (.ofBase base) s wire).1.result with
  | error f => exact .inl (query_untokened document vars h ▸ posted_pages hpages)
  | ok token =>
    by_cases hunsent : isHeaderValue token = false ∨ net.reaches (base.endpoint "graphql") = false
    · exact .inl ((query_unsent document vars h hunsent).1 ▸ posted_pages hpages)
    · simp only [not_or, Bool.not_eq_false] at hunsent
      obtain ⟨post, after, hrequests, hpost, hafter⟩ :=
        query_sent document hvars h hunsent.1 hunsent.2
      exact .inr ⟨token, post, hrequests ▸ posted_between hpages hafter hpost.method, hpost⟩

end

/-! ## The law -/

/-- How a query deals with the token that it gets, or does not get. -/
structure PostsOnce (net : Network) (base : Url) (s : Session) (document : String)
    (vars : Option Json) (wire : Wire) : Prop where
  once : (posted (query net (.ofBase base) s document vars wire).1.requests).length ≤ 1
  /-- Without a token it asks for pages only. -/
  untokened : ∀ f, (ensureToken net (.ofBase base) s wire).1.result = .error f →
    ∀ r ∈ (query net (.ofBase base) s document vars wire).1.requests, r.AsksForPage
  /-- So it does with a token that no header can carry, or when the host is not reached. It fails
  then, over the error that the network names. -/
  unsent : ∀ token, (ensureToken net (.ofBase base) s wire).1.result = .ok token →
    isHeaderValue token = false ∨ net.reaches (base.endpoint "graphql") = false →
    (∀ r ∈ (query net (.ofBase base) s document vars wire).1.requests, r.AsksForPage) ∧
    (query net (.ofBase base) s document vars wire).1.result =
      .error (unanswered (net.cause (queryCall (.ofBase base) token document vars)
        (ensureToken net (.ofBase base) s wire).1.wire) (base.endpoint "graphql"))
  /-- With any other token it posts the query, once the session has the token. -/
  sent : ∀ token, (ensureToken net (.ofBase base) s wire).1.result = .ok token →
    isHeaderValue token = true → net.reaches (base.endpoint "graphql") = true →
    (query net (.ofBase base) s document vars wire).2.token = some token ∧
    ∃ before post after,
      (query net (.ofBase base) s document vars wire).1.requests = before ++ post :: after ∧
      before = (ensureToken net (.ofBase base) s wire).1.requests ∧
      (∀ r ∈ before ++ after, r.AsksForPage) ∧ Posts base token document vars post

theorem postsOnce_query (net : Network) (base : Url) (s : Session) (document : String)
    {vars : Option Json} (wire : Wire) (hvars : ∀ v, vars = some v → v.IsExact) :
    PostsOnce net base s document vars wire := by
  have hpages := ensureToken_pages net (.ofBase base) s wire
  refine ⟨?_, ?_, ?_, ?_⟩
  · rcases posted_query net base s document wire hvars with h | ⟨_, _, h, _⟩
    · simp [h]
    · simp [h]
  · intro f h
    rw [query_untokened document vars h]
    exact hpages
  · intro token h hunsent
    obtain ⟨hrequests, hresult⟩ := query_unsent document vars h hunsent
    rw [hrequests]
    exact ⟨hpages, hresult⟩
  · intro token h htoken hreach
    obtain ⟨post, after, hrequests, hpost, hafter⟩ :=
      query_sent document hvars h htoken hreach
    refine ⟨?_, _, post, after, hrequests, rfl, ?_, hpost⟩
    · rw [query_session]
      exact ensureToken_token net (.ofBase base) s wire h
    · intro r hr
      rcases List.mem_append.mp hr with hr | hr
      · exact hpages r hr
      · exact hafter r hr

/-- Whatever the replies are, a query is posted once at most, and as it was given: variables that
are not given are null, and queries that are posted with one body are one query. -/
theorem a_query_is_posted_once_and_as_given (net : Network) (base : Url) (s : Session)
    (document : String) (vars : Option Json) (wire : Wire)
    (hvars : ∀ v, vars = some v → v.IsExact) :
    PostsOnce net base s document vars wire ∧
    query net (.ofBase base) s document none wire =
      query net (.ofBase base) s document (some .null) wire ∧
    ∀ (net' : Network) (base' : Url) (s' : Session) (document' : String) (vars' : Option Json)
      (wire' : Wire), (∀ v, vars' = some v → v.IsExact) →
      ∀ post ∈ posted (query net (.ofBase base) s document vars wire).1.requests,
      ∀ post' ∈ posted (query net' (.ofBase base') s' document' vars' wire').1.requests,
        post.body = post'.body → document = document' ∧ vars.getD .null = vars'.getD .null := by
  refine ⟨postsOnce_query net base s document wire hvars, rfl, ?_⟩
  intro net' base' s' document' vars' wire' hvars' post hpost post' hpost' hbody
  rcases posted_query net base s document wire hvars with h | ⟨token, sent, h, hsent⟩
  · rw [h] at hpost
    cases hpost
  · rcases posted_query net' base' s' document' wire' hvars' with h' | ⟨token', sent', h', hsent'⟩
    · rw [h'] at hpost'
      cases hpost'
    · rw [h, List.mem_singleton] at hpost
      rw [h', List.mem_singleton] at hpost'
      subst hpost hpost'
      exact hsent.eq_of_body hsent' hbody

/-! ## A query with variables -/

def sampleVariables : Json := .obj [("ids", .arr [.int 1, .str "\"\n"])]

theorem isExact_sampleVariables : sampleVariables.IsExact := by
  refine ⟨⟨trivial, ⟨⟨by decide, by decide⟩, trivial, trivial⟩, trivial⟩, 2, .obj ?_⟩
  intro member hmember
  rw [List.mem_singleton.mp hmember]
  refine .arr ?_
  intro item hitem
  simp only [List.mem_cons, List.not_mem_nil, or_false] at hitem
  rcases hitem with rfl | rfl
  · exact .num ⟨1, rfl, by decide, by decide⟩
  · exact .str _

theorem a_query_with_variables_is_posted : sampleVariables.IsExact ∧
    ∃ post after, (query sampleNetwork (.ofBase sampleBase) ⟨some " t", .empty⟩ "q"
        (some sampleVariables) ⟨[], []⟩).1.requests = post :: after ∧
      Posts sampleBase " t" "q" (some sampleVariables) post ∧ post.token = some "t" := by
  have hexact : ∀ v, some sampleVariables = some v → v.IsExact := by
    rintro _ ⟨⟩
    exact isExact_sampleVariables
  obtain ⟨honce, -, -⟩ := a_query_is_posted_once_and_as_given sampleNetwork sampleBase
    ⟨some " t", .empty⟩ "q" (some sampleVariables) ⟨[], []⟩ hexact
  obtain ⟨-, before, post, after, hrequests, hbefore, -, hpost⟩ :=
    honce.sent " t" rfl (by decide) rfl
  have hnone : before = [] := hbefore
  rw [hnone] at hrequests
  refine ⟨isExact_sampleVariables, post, after, hrequests, hpost, ?_⟩
  rw [hpost.token]
  decide

end ResultGateway.Gateway
