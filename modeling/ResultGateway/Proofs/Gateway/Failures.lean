-- The shape of failures. A failed call tells of the phase that failed: the
-- URL that the phase was started for, the status of the reply it ended
-- with, and the kind that this reply stands for. Only a refused query has a
-- hint.
import Mathlib
import ResultGateway.Proofs.Gateway.Calls

namespace ResultGateway.Gateway

open Http (Network Wire Call Reply)
open Json (Reader)

/-! ## Phases -/

/-- A phase of a call: the URL it is started for, whether it sends a query, and the reply it ends
with, if there is one. -/
structure Phase where
  url : Url
  isQuery : Bool
  final : Option Reply

/-- The phase that asks the API under a base URL for a token. -/
def tokenPhase (net : Network) (base : Url) (wire : Wire) : Phase :=
  ⟨base.endpoint "csrf", false, (Http.send net (tokenCall (.ofBase base)) wire).result⟩

def queryPhase (net : Network) (base : Url) (token document : String) (vars : Option Json)
    (wire : Wire) : Phase :=
  ⟨base.endpoint "graphql", true,
    (Http.send net (queryCall (.ofBase base) token document vars) wire).result⟩

def runPhase (net : Network) (url : Url) (code : String) (graph : Json) (wire : Wire) : Phase :=
  ⟨url, false, (Http.send net (runCall url code graph) wire).result⟩

/-- What a failure tells of the phase that failed. -/
structure Phase.Explains (p : Phase) (f : Failure) : Prop where
  url : f.url = some p.url.text
  status : ∀ s, f.status = some s ↔ ∃ reply, p.final = some reply ∧ reply.status = s ∧ 400 ≤ s
  kind : ∀ s, f.status = some s → f.kind = kindOfStatus s
  unanswered : p.final = none → f.kind = .io
  unread : ∀ reply, p.final = some reply → f.status = none → reply.text? = none → f.kind = .io
  undecoded : ∀ reply body, p.final = some reply → f.status = none → reply.text? = some body →
    f.kind = .internal
  hint : f.hint.isSome ↔ p.isQuery = true ∧
    ∃ reply, p.final = some reply ∧ (reply.status = 401 ∨ reply.status = 403)

/-! ## Kinds -/

theorem kindOfStatus_eq_permission {s : Nat} :
    kindOfStatus s = .permission ↔ s = 401 ∨ s = 403 := by
  unfold kindOfStatus
  split
  · rename_i h
    simp only [Bool.or_eq_true, decide_eq_true_eq] at h
    constructor
    · intro hk
      cases hk
    · omega
  · split
    · rename_i h
      simp only [Bool.or_eq_true, decide_eq_true_eq] at h
      exact ⟨fun _ => h, fun _ => rfl⟩
    · rename_i h
      simp only [Bool.or_eq_true, decide_eq_true_eq] at h
      constructor
      · intro hk
        split at hk
        · cases hk
        · split at hk <;> cases hk
      · exact fun hs => absurd hs h

/-- A failure without a hint is one of permission when its reply has one of two statuses. -/
theorem Phase.Explains.permission {p : Phase} {f : Failure} (h : p.Explains f) :
    f.kind = .permission ↔
      ∃ reply, p.final = some reply ∧ (reply.status = 401 ∨ reply.status = 403) := by
  constructor
  · intro hk
    cases hs : f.status with
    | some s =>
      obtain ⟨reply, hfinal, rfl, _⟩ := (h.status s).1 hs
      refine ⟨reply, hfinal, kindOfStatus_eq_permission.1 ?_⟩
      rw [← h.kind _ hs, hk]
    | none =>
      exfalso
      cases hfinal : p.final with
      | none =>
        rw [h.unanswered hfinal] at hk
        cases hk
      | some reply =>
        cases htext : reply.text? with
        | none =>
          rw [h.unread reply hfinal hs htext] at hk
          cases hk
        | some body =>
          rw [h.undecoded reply body hfinal hs htext] at hk
          cases hk
  · rintro ⟨reply, hfinal, hs⟩
    have hstatus : f.status = some reply.status :=
      (h.status reply.status).2 ⟨reply, hfinal, rfl, by omega⟩
    rw [h.kind _ hstatus]
    exact kindOfStatus_eq_permission.2 hs

/-! ## Reading replies -/

/-- The failure of a call that gets no reply explains that, whatever the error below it is. -/
theorem explains_unanswered (url : Url) (cause : Failure.Cause) :
    (⟨url, false, none⟩ : Phase).Explains (unanswered cause url) := by
  have hstatus : (unanswered cause url).status = none := rfl
  have hhint : (unanswered cause url).hint = none := rfl
  exact ⟨rfl, by simp [hstatus], by simp [hstatus], fun _ => rfl, by simp, by simp, by simp [hhint]⟩

/-- A reply of a failed status gives a failure that explains it. -/
theorem explains_failedReply {url : Url} {reply : Reply} (hs : 400 ≤ reply.status) :
    (⟨url, false, some reply⟩ : Phase).Explains (failedReply reply url) := by
  refine ⟨rfl, ?_, ?_, by simp, ?_, ?_, by simp [failedReply]⟩
  · intro s
    simp only [failedReply, Option.some.injEq]
    constructor
    · rintro rfl
      exact ⟨reply, rfl, rfl, hs⟩
    · rintro ⟨_, rfl, hrs, _⟩
      exact hrs
  · rintro s ⟨⟩
    rfl
  · intro _ _ hnone
    cases hnone
  · intro _ _ _ hnone
    cases hnone

/-- A reply of another status gives a failure without one, of the kind of what is wrong with it. -/
theorem explains_unreadable {url : Url} {reply : Reply} {f : Failure} (hs : reply.status < 400)
    (hurl : f.url = some url.text) (hstatus : f.status = none) (hhint : f.hint = none)
    (hunread : reply.text? = none → f.kind = .io)
    (hundecoded : ∀ body, reply.text? = some body → f.kind = .internal) :
    (⟨url, false, some reply⟩ : Phase).Explains f := by
  refine ⟨hurl, ?_, ?_, by simp, ?_, ?_, by simp [hhint]⟩
  · intro s
    rw [hstatus]
    constructor
    · rintro ⟨⟩
    · rintro ⟨_, ⟨⟩, rfl, hle⟩
      omega
  · intro s hsome
    rw [hstatus] at hsome
    cases hsome
  · rintro _ ⟨⟩ _ htext
    exact hunread htext
  · rintro _ body ⟨⟩ _ htext
    exact hundecoded body htext

/-- A reply that cannot be read gives a failure that explains it. -/
theorem readReply_explains {α : Type} {read : Reader α} {cause : Failure.Cause} {url : Url}
    {final : Option Reply} {f : Failure} (h : readReply read cause url final = .error f) :
    (⟨url, false, final⟩ : Phase).Explains f := by
  unfold readReply at h
  split at h
  · cases h
    exact explains_unanswered url cause
  · rename_i reply
    split at h
    · rename_i hfailed
      cases h
      exact explains_failedReply (by simpa [Reply.isFailed] using hfailed)
    · rename_i hfailed
      have hs : reply.status < 400 := by simpa [Reply.isFailed] using hfailed
      split at h
      · rename_i htext
        cases h
        exact explains_unreadable hs rfl rfl rfl (fun _ => rfl) (by simp [htext])
      · rename_i body htext
        split at h
        · cases h
        · cases h
          exact explains_unreadable hs rfl rfl rfl (by simp [htext]) fun _ _ => rfl

/-- A refused query gets its hint, and no other does. -/
theorem Phase.Explains.hintRejected {url : Url} {final : Option Reply} {f : Failure}
    (h : (⟨url, false, final⟩ : Phase).Explains f) :
    (⟨url, true, final⟩ : Phase).Explains (hintRejected f) := by
  have hhint : f.hint = none := by
    have := h.hint
    simpa using this
  unfold Gateway.hintRejected
  split
  · rename_i hk
    refine ⟨h.url, h.status, h.kind, h.unanswered, h.unread, h.undecoded, ?_⟩
    exact ⟨fun _ => ⟨rfl, h.permission.1 hk⟩, fun _ => rfl⟩
  · rename_i hk
    refine ⟨h.url, h.status, h.kind, h.unanswered, h.unread, h.undecoded, ?_⟩
    rw [hhint]
    constructor
    · intro hn
      cases hn
    · intro hr
      exact absurd (h.permission.2 hr.2) hk

/-! ## Calls -/

theorem fetchToken_explains {net : Network} {base : Url} {wire : Wire} {f : Failure}
    (h : (fetchToken net (.ofBase base) wire).result = .error f) :
    (tokenPhase net base wire).Explains f := by
  rw [fetchToken_result] at h
  exact readReply_explains h

theorem ensureToken_explains {net : Network} {base : Url} {s : Session} {wire : Wire} {f : Failure}
    (h : (ensureToken net (.ofBase base) s wire).1.result = .error f) :
    s.token = none ∧ (tokenPhase net base wire).Explains f := by
  rcases ensureToken_cases net (.ofBase base) s wire with
    ⟨token, _, he⟩ | ⟨hs, g, hg, he⟩ | ⟨_, token, ht, he⟩
  · rw [he] at h
    cases h
  · rw [he] at h
    exact ⟨hs, fetchToken_explains h⟩
  · rw [he] at h
    rw [ht] at h
    cases h

theorem postQuery_explains {net : Network} {base : Url} {token document : String}
    {vars : Option Json} {wire : Wire} {f : Failure}
    (h : (postQuery net (.ofBase base) token document vars wire).result = .error f) :
    (queryPhase net base token document vars wire).Explains f := by
  obtain ⟨g, hg, rfl⟩ := postQuery_error net _ wire token document vars h
  exact (readReply_explains hg).hintRejected

/-! ## The law -/

/-- Whatever the replies are, a call that fails tells of the phase that failed. A fetch fails in
its only phase; a query fails in the phase of the token, which it only has when the session has
none, or in the phase of the query, which starts where that of the token ended. -/
theorem every_failure_tells_of_its_phase (net : Network) (base : Url) (s : Session)
    (document : String) (vars : Option Json) (wire : Wire) (f : Failure) :
    ((fetchToken net (.ofBase base) wire).result = .error f →
      (tokenPhase net base wire).Explains f) ∧
    ((ensureToken net (.ofBase base) s wire).1.result = .error f →
      s.token = none ∧ (tokenPhase net base wire).Explains f) ∧
    ((query net (.ofBase base) s document vars wire).1.result = .error f →
      (s.token = none ∧ (fetchToken net (.ofBase base) wire).result = .error f ∧
        (tokenPhase net base wire).Explains f) ∨
      ∃ token, (ensureToken net (.ofBase base) s wire).1.result = .ok token ∧
        (queryPhase net base token document vars
          (ensureToken net (.ofBase base) s wire).1.wire).Explains f) ∧
    (∀ (r : Runner) (code : String) (graph : Json) (port : Option Nat) (url : Url),
      r.url port = .ok url → (r.run net code graph port wire).result = .error f →
      (runPhase net url code graph wire).Explains f) := by
  refine ⟨fetchToken_explains, ensureToken_explains, ?_, ?_⟩
  · intro h
    rcases query_cases net (.ofBase base) s wire document vars with
      ⟨g, hg, hres, _⟩ | ⟨token, ht, hres, _⟩
    · rw [hres] at h
      cases h
      obtain ⟨hs, hexp⟩ := ensureToken_explains hg
      refine .inl ⟨hs, ?_, hexp⟩
      rcases ensureToken_cases net (.ofBase base) s wire with
        ⟨token, ht, _⟩ | ⟨_, _, _, he⟩ | ⟨_, _, _, he⟩
      · rw [hs] at ht
        cases ht
      · rw [he] at hg
        exact hg
      · rw [he] at hg
        exact hg
    · rw [hres] at h
      exact .inr ⟨token, ht, postQuery_explains h⟩
  · intro r code graph port url hurl h
    rw [run_result net wire r code graph port hurl] at h
    exact readReply_explains h

/-! ## Refusals -/

/-- A reply that refuses, and no more after it. -/
def refusingWire : Http.Wire := ⟨[⟨403, [], [], 0⟩], []⟩

/-- How a refusal fails, at a URL. -/
def refusedAt (url : Url) : Failure := failedReply ⟨403, [], [], 0⟩ url

/-- A run server at an address. -/
def sampleRunner : Runner := ⟨"[::1]", 7590⟩

def sampleRunUrl : Url :=
  ⟨.http, "", none, .ipv6 [0, 0, 0, 0, 0, 0, 0, 1], some 7590, ["run"], none, none⟩

theorem every_refusal_tells_of_its_phase :
    (tokenPhase sampleNetwork sampleBase refusingWire).Explains
      (refusedAt (sampleBase.endpoint "csrf")) ∧
    (({} : Session).token = none ∧ (tokenPhase sampleNetwork sampleBase refusingWire).Explains
      (refusedAt (sampleBase.endpoint "csrf"))) ∧
    (queryPhase sampleNetwork sampleBase "t" "q" none refusingWire).Explains
      (hintRejected (refusedAt (sampleBase.endpoint "graphql"))) ∧
    (hintRejected (refusedAt (sampleBase.endpoint "graphql"))).hint.isSome ∧
    (runPhase sampleNetwork sampleRunUrl "c" .null refusingWire).Explains
      (refusedAt sampleRunUrl) := by
  have hlaw := every_failure_tells_of_its_phase sampleNetwork sampleBase
  have hfetch : (fetchToken sampleNetwork (.ofBase sampleBase) refusingWire).result =
      .error (refusedAt (sampleBase.endpoint "csrf")) := by cbv
  have hensure : (ensureToken sampleNetwork (.ofBase sampleBase) {} refusingWire).1.result =
      .error (refusedAt (sampleBase.endpoint "csrf")) := by cbv
  have hquery : (query sampleNetwork (.ofBase sampleBase) ⟨some "t", .empty⟩ "q" none
      refusingWire).1.result =
      .error (hintRejected (refusedAt (sampleBase.endpoint "graphql"))) := by cbv
  have hurl : sampleRunner.url none = .ok sampleRunUrl := by cbv
  have hrun : (sampleRunner.run sampleNetwork "c" .null none refusingWire).result =
      .error (refusedAt sampleRunUrl) := by cbv
  refine ⟨(hlaw {} "q" none refusingWire _).1 hfetch,
    (hlaw {} "q" none refusingWire _).2.1 hensure, ?_, rfl, ?_⟩
  · rcases (hlaw ⟨some "t", .empty⟩ "q" none refusingWire _).2.2.1 hquery with
      ⟨⟨⟩, -⟩ | ⟨token, htoken, hexplains⟩
    cases htoken
    exact hexplains
  · exact (hlaw {} "q" none refusingWire _).2.2.2 sampleRunner "c" .null none sampleRunUrl hurl hrun

end ResultGateway.Gateway
