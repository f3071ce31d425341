-- What the calls of the API and of the run server are made of. A query is
-- an exchange for a token, unless the session has one, and then an
-- exchange for the query. Each call is described here once.
import ResultGateway.Gateway.Client
import ResultGateway.Proofs.Http.Exchange

namespace ResultGateway.Gateway

open Http (Network Wire Exchange Call Reply)
open Json (Reader)

variable (net : Network) (e : Endpoints) (s : Session) (wire : Wire)

/-! ## Tokens -/

theorem fetchToken_result : (fetchToken net e wire).result =
    readReply GraphQl.tokenShape.reader (net.cause (tokenCall e) wire) e.token
      (Http.send net (tokenCall e) wire).result := by
  unfold fetchToken
  dsimp only
  split <;> rfl

theorem fetchToken_requests :
    (fetchToken net e wire).requests = (Http.send net (tokenCall e) wire).requests := by
  unfold fetchToken
  dsimp only
  split <;> rfl

theorem fetchToken_wire :
    (fetchToken net e wire).wire = (Http.send net (tokenCall e) wire).wire := by
  unfold fetchToken
  dsimp only
  split <;> rfl

theorem fetchToken_pages : ∀ r ∈ (fetchToken net e wire).requests, r.AsksForPage := by
  rw [fetchToken_requests]
  exact Http.send_pages ⟨rfl, rfl⟩

/-- Only a host that is reached gives a token. -/
theorem reaches_of_fetchToken {token : String} (h : (fetchToken net e wire).result = .ok token) :
    net.reaches e.token = true := by
  rw [fetchToken_result] at h
  cases hres : (Http.send net (tokenCall e) wire).result with
  | none =>
    rw [hres] at h
    cases h
  | some reply => exact Http.reaches_of_send hres

/-- A session gives its token without a request; one without a token fetches one, which it keeps
when there is one to keep. -/
theorem ensureToken_cases :
    (∃ token, s.token = some token ∧ ensureToken net e s wire = (⟨.ok token, [], wire, []⟩, s)) ∨
    (s.token = none ∧ ∃ f, (fetchToken net e wire).result = .error f ∧
      ensureToken net e s wire = (fetchToken net e wire, s)) ∨
    (s.token = none ∧ ∃ token, (fetchToken net e wire).result = .ok token ∧
      ensureToken net e s wire = (fetchToken net e wire, s.withToken token)) := by
  unfold ensureToken
  cases s.token with
  | some token => exact .inl ⟨token, rfl, rfl⟩
  | none =>
    cases hres : (fetchToken net e wire).result with
    | error f => exact .inr (.inl ⟨rfl, f, rfl, by simp only [hres]⟩)
    | ok token => exact .inr (.inr ⟨rfl, token, rfl, by simp only [hres]⟩)

/-- Without a token, getting one is fetching one. -/
theorem ensureToken_eq_fetchToken (h : s.token = none) :
    (ensureToken net e s wire).1 = fetchToken net e wire := by
  rcases ensureToken_cases net e s wire with ⟨_, hs, -⟩ | ⟨-, _, -, heq⟩ | ⟨-, _, -, heq⟩
  · rw [h] at hs
    cases hs
  · rw [heq]
  · rw [heq]

/-- Getting a token leaves the store of the session. -/
theorem ensureToken_store : (ensureToken net e s wire).2.store = s.store := by
  rcases ensureToken_cases net e s wire with ⟨_, -, h⟩ | ⟨-, _, -, h⟩ | ⟨-, _, -, h⟩
  · rw [h]
  · rw [h]
  · rw [h]
    rfl

/-- Getting a token asks for pages only. -/
theorem ensureToken_pages : ∀ r ∈ (ensureToken net e s wire).1.requests, r.AsksForPage := by
  rcases ensureToken_cases net e s wire with ⟨_, -, h⟩ | ⟨-, _, -, h⟩ | ⟨-, _, -, h⟩
  · rw [h]
    exact fun _ hr => nomatch hr
  · rw [h]
    exact fetchToken_pages net e wire
  · rw [h]
    exact fetchToken_pages net e wire

/-- The session holds the token that a call goes on with. -/
theorem ensureToken_token {token : String}
    (h : (ensureToken net e s wire).1.result = .ok token) :
    (ensureToken net e s wire).2.token = some token := by
  rcases ensureToken_cases net e s wire with
    ⟨held, hs, heq⟩ | ⟨-, f, hf, heq⟩ | ⟨-, fetched, hok, heq⟩
  · rw [heq] at h ⊢
    cases h
    exact hs
  · rw [heq] at h
    rw [hf] at h
    cases h
  · rw [heq] at h ⊢
    rw [hok] at h
    cases h
    rfl

/-! ## Queries -/

variable (token document : String) (vars : Option Json)

theorem postQuery_requests : (postQuery net e token document vars wire).requests =
    (Http.send net (queryCall e token document vars) wire).requests := by
  unfold postQuery
  dsimp only
  split
  · rfl
  · split <;> rfl

/-- A hint changes no part of a failure but the hint. -/
theorem hintRejected_eq (f : Failure) : ∃ hint, hintRejected f = { f with hint } := by
  unfold hintRejected
  split
  · exact ⟨some rejectedHint, rfl⟩
  · exact ⟨f.hint, rfl⟩

@[simp] theorem hintRejected_kind (f : Failure) : (hintRejected f).kind = f.kind := by
  obtain ⟨hint, heq⟩ := hintRejected_eq f
  rw [heq]

@[simp] theorem hintRejected_message (f : Failure) : (hintRejected f).message = f.message := by
  obtain ⟨hint, heq⟩ := hintRejected_eq f
  rw [heq]

@[simp] theorem hintRejected_status (f : Failure) : (hintRejected f).status = f.status := by
  obtain ⟨hint, heq⟩ := hintRejected_eq f
  rw [heq]

/-- A query ends as its reply says, with a hint where a failure may be due to the token. -/
theorem postQuery_result : (postQuery net e token document vars wire).result =
    (readReply GraphQl.Reply.shape.reader
      (net.cause (queryCall e token document vars) wire) e.query
      (Http.send net (queryCall e token document vars) wire).result).mapError hintRejected := by
  show _ = (perform net GraphQl.Reply.shape.reader (queryCall e token document vars)
    wire).result.mapError hintRejected
  unfold postQuery
  dsimp only
  split
  · rename_i f hf
    rw [hf]
    rfl
  · rename_i reply hok
    rw [hok]
    split
    · rfl
    · exact hok

theorem postQuery_error {f : Failure} (h : (postQuery net e token document vars wire).result =
    .error f) : ∃ g, readReply GraphQl.Reply.shape.reader
      (net.cause (queryCall e token document vars) wire) e.query
      (Http.send net (queryCall e token document vars) wire).result = .error g ∧
      f = hintRejected g := by
  rw [postQuery_result] at h
  generalize readReply GraphQl.Reply.shape.reader
    (net.cause (queryCall e token document vars) wire) e.query
    (Http.send net (queryCall e token document vars) wire).result = x at h ⊢
  cases x with
  | error g =>
    cases h
    exact ⟨g, rfl, rfl⟩
  | ok reply => cases h

/-- A query ends with the failure of its token, or goes on with the token. -/
theorem query_cases :
    (∃ f, (ensureToken net e s wire).1.result = .error f ∧
      (query net e s document vars wire).1.result = .error f ∧
      (query net e s document vars wire).1.requests = (ensureToken net e s wire).1.requests) ∨
    (∃ token, (ensureToken net e s wire).1.result = .ok token ∧
      (query net e s document vars wire).1.result =
        (postQuery net e token document vars (ensureToken net e s wire).1.wire).result ∧
      (query net e s document vars wire).1.requests = (ensureToken net e s wire).1.requests ++
        (postQuery net e token document vars (ensureToken net e s wire).1.wire).requests) := by
  unfold query
  cases hres : (ensureToken net e s wire).1.result with
  | error f => exact .inl ⟨f, rfl, by simp only [hres], by simp only [hres]⟩
  | ok token => exact .inr ⟨token, rfl, by simp only [hres], by simp only [hres]⟩

theorem readReply_decoded {α : Type} {read : Reader α} {cause : Failure.Cause} {url : Url}
    {final : Option Reply} {a : α} (h : readReply read cause url final = .ok a) :
    ∃ body, read.decode body = .ok a := by
  unfold readReply at h
  split at h
  · cases h
  · split at h
    · cases h
    · split at h
      · cases h
      · rename_i body _
        split at h
        · rename_i hdecode
          cases h
          exact ⟨body, hdecode⟩
        · cases h

/-- What a query gives is decoded from some text. -/
theorem query_decoded {reply : GraphQl.Reply}
    (h : (query net e s document vars wire).1.result = .ok reply) :
    ∃ body, GraphQl.Reply.shape.reader.decode body = .ok reply := by
  rcases query_cases net e s wire document vars with ⟨f, -, hf, -⟩ | ⟨token, -, hpost, -⟩
  · rw [hf] at h
    cases h
  · rw [hpost, postQuery_result] at h
    cases hread : readReply GraphQl.Reply.shape.reader
        (net.cause (queryCall e token document vars) (ensureToken net e s wire).1.wire) e.query
        (Http.send net (queryCall e token document vars)
          (ensureToken net e s wire).1.wire).result with
    | error f =>
      rw [hread] at h
      cases h
    | ok found =>
      rw [hread] at h
      cases h
      exact readReply_decoded hread

theorem query_session :
    (query net e s document vars wire).2 = (ensureToken net e s wire).2 := by
  unfold query
  dsimp only
  split <;> rfl

/-! ## Runs -/

theorem run_result (r : Runner) (code : String) (graph : Json) (port : Option Nat) {url : Url}
    (h : r.url port = .ok url) : (r.run net code graph port wire).result =
      readReply Reader.value (net.cause (runCall url code graph) wire) url
        (Http.send net (runCall url code graph) wire).result := by
  unfold Runner.run
  rw [h]
  rfl

/-! ## First calls -/

/-- An outcome whose requests start with that of a call. If the host of the call is not reached, no
request is made at all, and the failure is that of the call, over the error of the network. -/
structure Outcome.StartsWith {α : Type} (o : Outcome α) (net : Network) (call : Call)
    (wire : Wire) : Prop where
  reached : net.reaches call.url = true → ∃ later, o.requests = call.request wire.jar :: later
  unreached : net.reaches call.url = false →
    o.requests = [] ∧ o.result = .error (unanswered (net.cause call wire) call.url)

variable {net s wire}

theorem startsWith_of_send {α : Type} {read : Reader α} {o : Outcome α} {call : Call}
    (htoken : call.token = none) (hrequests : o.requests = (Http.send net call wire).requests)
    (hresult : o.result =
      readReply read (net.cause call wire) call.url (Http.send net call wire).result) :
    o.StartsWith net call wire := by
  refine ⟨?_, ?_⟩
  · intro hreached
    obtain ⟨later, hsent, -⟩ := Http.send_sent call wire (by simp [htoken]) hreached
    exact ⟨later, hrequests.trans hsent⟩
  · intro hunreached
    rw [hrequests, hresult, Http.send_unsent call wire (.inr hunreached)]
    exact ⟨rfl, rfl⟩

/-- A query in a session without a token starts with the call for one. -/
theorem query_startsWith (h : s.token = none) :
    (query net e s document vars wire).1.StartsWith net (tokenCall e) wire := by
  have hfetch : (fetchToken net e wire).StartsWith net (tokenCall e) wire :=
    startsWith_of_send rfl (fetchToken_requests net e wire) (fetchToken_result net e wire)
  have hcases := query_cases net e s wire document vars
  rw [ensureToken_eq_fetchToken net e s wire h] at hcases
  rcases hcases with ⟨f, hf, hresult, hrequests⟩ | ⟨token, hok, -, hrequests⟩
  · refine ⟨?_, ?_⟩
    · rw [hrequests]
      exact hfetch.reached
    · intro hunreached
      obtain ⟨hnone, hfailed⟩ := hfetch.unreached hunreached
      rw [hf] at hfailed
      cases hfailed
      exact ⟨hrequests.trans hnone, hresult⟩
  · refine ⟨?_, ?_⟩
    · intro hreached
      obtain ⟨later, hlater⟩ := hfetch.reached hreached
      rw [hrequests, hlater]
      exact ⟨_, rfl⟩
    · intro hunreached
      rw [(hfetch.unreached hunreached).2] at hok
      cases hok

theorem run_startsWith {r : Runner} {port : Option Nat} {url : Url} (h : r.url port = .ok url)
    (code : String) (graph : Json) :
    (r.run net code graph port wire).StartsWith net (runCall url code graph) wire := by
  refine startsWith_of_send rfl ?_ (run_result net wire r code graph port h)
  unfold Runner.run
  rw [h]
  rfl

/-! ## A small world -/

/-- The base URL `http://a/`. -/
def sampleBase : Url := ⟨.http, "", none, .name "a", none, [""], none, none⟩

/-- A network that reaches every host. -/
def sampleNetwork : Network := { reaches := fun _ => true, now := 0 }

end ResultGateway.Gateway
