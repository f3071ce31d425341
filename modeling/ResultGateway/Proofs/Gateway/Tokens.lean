-- The life of the token of a session. A call that needs a token asks for
-- one if and only if the slot is empty; the slot then holds what was
-- fetched until it is cleared. The laws hold for every run of a session,
-- whatever the network does in it.
import Mathlib
import ResultGateway.Proofs.Gateway.Calls
import ResultGateway.Proofs.Store.Run

namespace ResultGateway.Gateway

open Http (Network Wire Reply Request Jar)

/-! ## Runs of a session -/

/-- What may be done in a session. Each call of the API meets a network and replies of its own. -/
inductive Action where
  | query (net : Network) (replies : List Reply) (document : String) (vars : Option Json)
  | ensureToken (net : Network) (replies : List Reply)
  | fetchToken (net : Network) (replies : List Reply)
  | setToken (token : String)
  | clearToken
  | store (op : Result.Operation)

/-- A session, the cookies of its client, and the supply of ids for its store. -/
structure State where
  session : Session
  jar : Jar
  ids : FreshIds

/-- What an action leaves: the state after it, the requests it made, and how it failed. -/
structure Effect where
  state : State
  requests : List Request := []
  failure : Option Failure := none

def failure? {α : Type} : Except Failure α → Option Failure
  | .ok _ => none
  | .error f => some f

/-- The effect of a call that left an outcome and a session. -/
def State.called {α : Type} (s : State) (outcome : Outcome α) (session : Session) : Effect :=
  ⟨{ s with session, jar := outcome.wire.jar }, outcome.requests, failure? outcome.result⟩

/-- Does one action with the API under a base URL. -/
def State.act (base : Url) (s : State) : Action → Effect
  | .query net replies document vars =>
    let (outcome, session) :=
      Gateway.query net (.ofBase base) s.session document vars ⟨replies, s.jar⟩
    s.called outcome session
  | .ensureToken net replies =>
    let (outcome, session) := Gateway.ensureToken net (.ofBase base) s.session ⟨replies, s.jar⟩
    s.called outcome session
  | .fetchToken net replies =>
    s.called (Gateway.fetchToken net (.ofBase base) ⟨replies, s.jar⟩) s.session
  | .setToken token => { state := { s with session := s.session.withToken token } }
  | .clearToken => { state := { s with session := s.session.clearToken } }
  | .store op =>
    let after := (⟨s.session.store, s.ids⟩ : Result.State).step op
    { state := { s with session.store := after.store, ids := after.ids } }

/-- One action of a run. -/
structure Turn where
  before : State
  action : Action
  effect : Effect

namespace Turn

def after (t : Turn) : State := t.effect.state

def tokenBefore (t : Turn) : Option String := t.before.session.token

def tokenAfter (t : Turn) : Option String := t.after.session.token

/-- Whether the action is a call that needs the token of the session. -/
def needsToken (t : Turn) : Bool :=
  match t.action with
  | .query .. | .ensureToken .. => true
  | _ => false

end Turn

/-- The turns of a run. -/
def turns (base : Url) : State → List Action → List Turn
  | _, [] => []
  | s, a :: rest => ⟨s, a, s.act base a⟩ :: turns base (s.act base a).state rest

/-! ## The laws -/

/-- Requests that start with the one for a token. -/
def AskForToken (base : Url) (requests : List Request) : Prop :=
  ∃ r, requests.head? = some r ∧ r.method = .get ∧ r.url = base.endpoint "csrf"

/-- What a call that needs a token does once it has one: its requests, and how it fails. -/
def Action.goOn (base : Url) (token : String) (wire : Wire) : Action → List Request × Option Failure
  | .query net _ document vars =>
    let outcome := postQuery net (.ofBase base) token document vars wire
    (outcome.requests, failure? outcome.result)
  | _ => ([], none)

/-- The fetch that a call starts with, when it needs a token that is not there. -/
def Turn.fetch (base : Url) (net : Network) (replies : List Reply) (t : Turn) : Outcome String :=
  Gateway.fetchToken net (.ofBase base) ⟨replies, t.before.jar⟩

/-- How a call that needs a token deals with the slot. -/
structure Turn.MindsSlot (base : Url) (net : Network) (replies : List Reply) (t : Turn) : Prop where
  /-- It asks for a token when the slot is empty, as soon as the host is reached, and only then. -/
  asks : AskForToken base t.effect.requests ↔
    t.tokenBefore = none ∧ net.reaches (base.endpoint "csrf") = true
  /-- When the fetch fails, so does the call, and it does nothing else. -/
  unfetched : t.tokenBefore = none → ∀ f, (t.fetch base net replies).result = .error f →
    t.effect.requests = (t.fetch base net replies).requests ∧ t.effect.failure = some f ∧
    t.tokenAfter = none ∧ ∀ r ∈ t.effect.requests, r.method = .get
  /-- When the fetch succeeds, the slot holds its token, however the call goes on. -/
  fetched : t.tokenBefore = none → ∀ token, (t.fetch base net replies).result = .ok token →
    t.tokenAfter = some token ∧
    (t.effect.requests, t.effect.failure) =
      ((t.fetch base net replies).requests ++
        (t.action.goOn base token (t.fetch base net replies).wire).1,
      (t.action.goOn base token (t.fetch base net replies).wire).2)
  /-- With a token in the slot the call goes on right away, and the token stays. -/
  cached : ∀ token, t.tokenBefore = some token →
    t.tokenAfter = some token ∧
    (t.effect.requests, t.effect.failure) = t.action.goOn base token ⟨replies, t.before.jar⟩
  store : t.after.session.store = t.before.session.store

/-- What each action does to the slot and to the store of the session. -/
def Turn.Lawful (base : Url) (t : Turn) : Prop :=
  match t.action with
  | .query net replies _ _ | .ensureToken net replies => t.MindsSlot base net replies
  | .fetchToken _ _ => t.after.session = t.before.session
  | .setToken token =>
    t.tokenAfter = some token ∧ t.after.session.store = t.before.session.store
  | .clearToken => t.tokenAfter = none ∧ t.after.session.store = t.before.session.store
  | .store _ => t.tokenAfter = t.tokenBefore ∧ t.effect.requests = []

/-- A call that needs a token, and asks for one. -/
def Turn.Fetches (base : Url) (t : Turn) : Prop :=
  t.needsToken = true ∧ AskForToken base t.effect.requests

/-- Once a call has fetched a token, no later one fetches any, until the slot is cleared. -/
def FetchOnce (base : Url) (ts : List Turn) : Prop :=
  ∀ (i j : Nat) (first later : Turn), i < j → ts[i]? = some first → ts[j]? = some later →
    (∀ (k : Nat) (t : Turn), i < k → k < j → ts[k]? = some t → t.action ≠ .clearToken) →
    first.Fetches base → first.tokenAfter.isSome → ¬ later.Fetches base

/-! ## One turn -/

theorem fetchToken_get {net : Network} {base : Url} {wire : Wire} :
    ∀ r ∈ (Gateway.fetchToken net (.ofBase base) wire).requests, r.method = .get :=
  fun r hr => (fetchToken_pages net (.ofBase base) wire r hr).1

theorem fetchToken_head (net : Network) (base : Url) (wire : Wire) :
    (Gateway.fetchToken net (.ofBase base) wire).requests.head? =
      if net.reaches (base.endpoint "csrf") then
        some ((tokenCall (.ofBase base)).request wire.jar) else none := by
  rw [fetchToken_requests]
  exact Http.send_head rfl

/-- A fetch starts with the request for a token, as soon as the host is reached. -/
theorem askForToken_fetch (net : Network) (base : Url) (wire : Wire) (more : List Request)
    (hmore : net.reaches (base.endpoint "csrf") = false → more = []) :
    AskForToken base ((Gateway.fetchToken net (.ofBase base) wire).requests ++ more) ↔
      net.reaches (base.endpoint "csrf") = true := by
  have hhead := fetchToken_head net base wire
  unfold AskForToken
  rw [List.head?_append]
  cases hr : net.reaches (base.endpoint "csrf") with
  | true =>
    rw [hr] at hhead
    simp only [hhead]
    exact ⟨fun _ => trivial, fun _ => ⟨_, rfl, rfl, rfl⟩⟩
  | false =>
    rw [hr] at hhead
    simp [hhead, hmore hr]

/-- What a call does with a token never starts with the request for one. -/
theorem not_askForToken_goOn (base : Url) (token : String) (wire : Wire) (a : Action) :
    ¬ AskForToken base (a.goOn base token wire).1 := by
  rintro ⟨r, hhead, hget, -⟩
  cases a with
  | query net replies document vars =>
    simp only [Action.goOn, postQuery_requests] at hhead
    rcases Http.send_requests net (queryCall (.ofBase base) token document vars) wire with
      h | ⟨later, h, -⟩
    · rw [h] at hhead
      cases hhead
    · rw [h] at hhead
      cases hhead
      cases hget
  | _ => cases hhead

section

variable {base : Url} {net : Network} {replies : List Reply} {t : Turn}
  (hstore : t.after.session.store = t.before.session.store)

include hstore

/-- A call that finds a token and goes on with it minds the slot. -/
theorem mindsSlot_of_cached {token : String} (hbefore : t.tokenBefore = some token)
    (hafter : t.tokenAfter = some token) (heq : (t.effect.requests, t.effect.failure) =
      t.action.goOn base token ⟨replies, t.before.jar⟩) : t.MindsSlot base net replies := by
  have hrequests : t.effect.requests = (t.action.goOn base token ⟨replies, t.before.jar⟩).1 :=
    congrArg Prod.fst heq
  refine ⟨?_, by simp [hbefore], by simp [hbefore], ?_, hstore⟩
  · rw [hrequests, hbefore]
    constructor
    · exact fun hask => absurd hask (not_askForToken_goOn base token _ _)
    · rintro ⟨⟨⟩, -⟩
  · intro token' htoken
    rw [hbefore] at htoken
    cases htoken
    exact ⟨hafter, heq⟩

/-- So does a call that ends with the failure of its fetch. -/
theorem mindsSlot_of_unfetched {f : Failure} (hbefore : t.tokenBefore = none)
    (hfetch : (t.fetch base net replies).result = .error f) (hafter : t.tokenAfter = none)
    (hrequests : t.effect.requests = (t.fetch base net replies).requests)
    (hfailure : t.effect.failure = some f) : t.MindsSlot base net replies := by
  refine ⟨?_, ?_, ?_, by simp [hbefore], hstore⟩
  · have hask := askForToken_fetch net base ⟨replies, t.before.jar⟩ [] fun _ => rfl
    rw [List.append_nil] at hask
    rw [hrequests, Turn.fetch, hask, hbefore]
    simp
  · intro _ g hg
    rw [hfetch] at hg
    cases hg
    refine ⟨hrequests, hfailure, hafter, ?_⟩
    rw [hrequests]
    exact fetchToken_get
  · intro _ token htoken
    rw [hfetch] at htoken
    cases htoken

/-- And so does one that keeps the token of its fetch, and goes on with it. -/
theorem mindsSlot_of_fetched {token : String} (hbefore : t.tokenBefore = none)
    (hfetch : (t.fetch base net replies).result = .ok token) (hafter : t.tokenAfter = some token)
    (heq : (t.effect.requests, t.effect.failure) =
      ((t.fetch base net replies).requests ++
        (t.action.goOn base token (t.fetch base net replies).wire).1,
      (t.action.goOn base token (t.fetch base net replies).wire).2)) :
    t.MindsSlot base net replies := by
  have hrequests : t.effect.requests = (t.fetch base net replies).requests ++
      (t.action.goOn base token (t.fetch base net replies).wire).1 := congrArg Prod.fst heq
  have hreach : net.reaches (base.endpoint "csrf") = true :=
    reaches_of_fetchToken net (.ofBase base) _ hfetch
  refine ⟨?_, ?_, ?_, by simp [hbefore], hstore⟩
  · rw [hrequests, Turn.fetch, askForToken_fetch _ _ _ _ (by simp [hreach]), hbefore]
    simp
  · intro _ f hf
    rw [hfetch] at hf
    cases hf
  · intro _ token' htoken
    rw [hfetch] at htoken
    cases htoken
    exact ⟨hafter, heq⟩

end

theorem lawful_ensureToken (base : Url) (s : State) (net : Network) (replies : List Reply) :
    (⟨s, .ensureToken net replies, s.act base (.ensureToken net replies)⟩ : Turn).Lawful base := by
  have hstore := ensureToken_store net (.ofBase base) s.session ⟨replies, s.jar⟩
  rcases ensureToken_cases net (.ofBase base) s.session ⟨replies, s.jar⟩ with
    ⟨token, hs, heq⟩ | ⟨hs, f, hf, heq⟩ | ⟨hs, token, hok, heq⟩
  · refine mindsSlot_of_cached hstore hs ?_ ?_ <;>
      simp only [Turn.tokenAfter, Turn.after, State.act, heq]
    · exact hs
    · rfl
  · refine mindsSlot_of_unfetched hstore hs hf ?_ ?_ ?_ <;>
      simp only [Turn.tokenAfter, Turn.after, State.act, heq]
    · exact hs
    · rfl
    · simp only [State.called, hf, failure?]
  · refine mindsSlot_of_fetched hstore hs hok ?_ ?_ <;>
      simp only [Turn.tokenAfter, Turn.after, State.act, heq]
    · rfl
    · simp only [State.called, hok, failure?, Action.goOn, List.append_nil]
      rfl

theorem lawful_query (base : Url) (s : State) (net : Network) (replies : List Reply)
    (document : String) (vars : Option Json) :
    (⟨s, .query net replies document vars, s.act base (.query net replies document vars)⟩ :
      Turn).Lawful base := by
  have hsession := query_session net (.ofBase base) s.session ⟨replies, s.jar⟩ document vars
  have hcases := query_cases net (.ofBase base) s.session ⟨replies, s.jar⟩ document vars
  have hstore : (Gateway.query net (.ofBase base) s.session document vars
      ⟨replies, s.jar⟩).2.store = s.session.store := by
    rw [hsession]
    exact ensureToken_store net (.ofBase base) s.session ⟨replies, s.jar⟩
  rcases ensureToken_cases net (.ofBase base) s.session ⟨replies, s.jar⟩ with
    ⟨token, hs, heq⟩ | ⟨hs, f, hf, heq⟩ | ⟨hs, token, hok, heq⟩
  all_goals
    rw [heq] at hsession hcases
  · rcases hcases with ⟨g, hg, -⟩ | ⟨token', htoken, hresult, hrequests⟩
    · cases hg
    · cases htoken
      refine mindsSlot_of_cached hstore hs ?_ ?_ <;>
        simp only [Turn.tokenAfter, Turn.after, State.act, State.called, hsession, hresult,
          hrequests]
      · exact hs
      · rfl
  · rcases hcases with ⟨g, hg, hresult, hrequests⟩ | ⟨token', htoken, -⟩
    · rw [hf] at hg
      cases hg
      refine mindsSlot_of_unfetched hstore hs hf ?_ hrequests ?_ <;>
        simp only [Turn.tokenAfter, Turn.after, State.act, State.called, hsession, hresult]
      · exact hs
      · rfl
    · rw [hf] at htoken
      cases htoken
  · rcases hcases with ⟨g, hg, -⟩ | ⟨token', htoken, hresult, hrequests⟩
    · rw [hok] at hg
      cases hg
    · rw [hok] at htoken
      cases htoken
      refine mindsSlot_of_fetched hstore hs hok ?_ ?_ <;>
        simp only [Turn.tokenAfter, Turn.after, State.act, State.called, hsession, hresult,
          hrequests]
      · rfl
      · rfl

theorem lawful_act (base : Url) (s : State) (a : Action) :
    (⟨s, a, s.act base a⟩ : Turn).Lawful base := by
  cases a with
  | query net replies document vars => exact lawful_query base s net replies document vars
  | ensureToken net replies => exact lawful_ensureToken base s net replies
  | fetchToken net replies => rfl
  | setToken token => exact ⟨rfl, rfl⟩
  | clearToken => exact ⟨rfl, rfl⟩
  | store op => exact ⟨rfl, rfl⟩

/-! ## Runs -/

/-- Every turn of a run is what its action does to some state. -/
theorem lawful_of_mem_turns {base : Url} {t : Turn} (s : State) (actions : List Action)
    (h : t ∈ turns base s actions) : t.Lawful base := by
  induction actions generalizing s with
  | nil => cases h
  | cons a rest ih =>
    rcases List.mem_cons.mp h with rfl | hrest
    · exact lawful_act base s a
    · exact ih (s.act base a).state hrest

/-- A token that is held is dropped by clearing the slot only. -/
theorem Turn.Lawful.tokenAfter_isSome {base : Url} {t : Turn} (h : t.Lawful base)
    (hclear : t.action ≠ .clearToken) (hheld : t.tokenBefore.isSome) : t.tokenAfter.isSome := by
  obtain ⟨token, htoken⟩ := Option.isSome_iff_exists.mp hheld
  unfold Turn.Lawful at h
  split at h
  · rw [(h.cached token htoken).1]
    rfl
  · rw [(h.cached token htoken).1]
    rfl
  · rw [Turn.tokenAfter, h]
    exact hheld
  · rw [h.1]
    rfl
  · contradiction
  · rw [h.1]
    exact hheld

/-- A call that needs a token and finds one does not ask for it. -/
theorem Turn.Lawful.not_fetches {base : Url} {t : Turn} (h : t.Lawful base)
    (hheld : t.tokenBefore.isSome) : ¬ t.Fetches base := by
  rintro ⟨hneeds, hask⟩
  unfold Turn.Lawful at h
  unfold Turn.needsToken at hneeds
  split at h
  · rw [(h.asks.mp hask).1] at hheld
    cases hheld
  · rw [(h.asks.mp hask).1] at hheld
    cases hheld
  all_goals simp_all

theorem turns_head_before {base : Url} {s : State} {actions : List Action} {t : Turn}
    (h : (turns base s actions)[0]? = some t) : t.before = s := by
  cases actions with
  | nil => cases h
  | cons a rest =>
    cases h
    rfl

/-- A token that is held when a run starts is held as long as the slot is not cleared. -/
theorem held_along {base : Url} (s : State) (actions : List Action) (j : Nat) {t : Turn}
    (hheld : s.session.token.isSome) (ht : (turns base s actions)[j]? = some t)
    (hclear : ∀ (k : Nat) (u : Turn), k < j → (turns base s actions)[k]? = some u →
      u.action ≠ .clearToken) : t.tokenBefore.isSome := by
  induction j generalizing s actions with
  | zero =>
    rw [Turn.tokenBefore, turns_head_before ht]
    exact hheld
  | succ j ih =>
    cases actions with
    | nil => cases ht
    | cons a rest =>
      refine ih (s.act base a).state rest ?_ ht ?_
      · exact (lawful_act base s a).tokenAfter_isSome (hclear 0 _ (Nat.zero_lt_succ j) rfl) hheld
      · exact fun k u hk hu => hclear (k + 1) u (Nat.succ_lt_succ hk) hu

theorem fetchOnce_turns (base : Url) (s : State) (actions : List Action) :
    FetchOnce base (turns base s actions) := by
  intro i j first later hij hfirst hlater hclear hfetches hheld
  -- The run is cut at its first fetch; the rest of it starts with the token that was fetched.
  induction i generalizing s actions j with
  | zero =>
    cases actions with
    | nil => cases hfirst
    | cons a rest =>
      cases hfirst
      obtain ⟨j, rfl⟩ := Nat.exists_eq_succ_of_ne_zero (Nat.ne_of_gt hij)
      apply (lawful_of_mem_turns _ rest (List.mem_of_getElem? hlater)).not_fetches
      apply held_along (s.act base a).state rest j hheld hlater
      exact fun k u hk hu => hclear (k + 1) u (Nat.zero_lt_succ k) (Nat.succ_lt_succ hk) hu
  | succ i ih =>
    cases actions with
    | nil => cases hfirst
    | cons a rest =>
      obtain ⟨j, rfl⟩ := Nat.exists_eq_succ_of_ne_zero (Nat.ne_of_gt (Nat.zero_lt_of_lt hij))
      apply ih (s.act base a).state rest j (Nat.lt_of_succ_lt_succ hij) hfirst hlater
      exact fun k u hik hk hu =>
        hclear (k + 1) u (Nat.succ_lt_succ hik) (Nat.succ_lt_succ hk) hu

/-- In every run of a session, whatever its network does, the token lives by the laws of its
slot. -/
theorem the_token_lives_in_its_slot (base : Url) (s : State) (actions : List Action) :
    (∀ t ∈ turns base s actions, t.Lawful base) ∧ FetchOnce base (turns base s actions) :=
  ⟨fun _ h => lawful_of_mem_turns s actions h, fetchOnce_turns base s actions⟩

/-! ## A refused query -/

def sampleState : State := ⟨{}, [], .countingFrom 0⟩

/-- The body of a reply that gives a token. -/
def sampleGrant : List UInt8 := "\x7b\"csrfToken\":\"t\"\x7d".toUTF8.data.toList

/-- A fetch that succeeds. -/
def fetchTurn : Turn :=
  let a := .ensureToken sampleNetwork [⟨200, [], sampleGrant, 0⟩]
  ⟨sampleState, a, sampleState.act sampleBase a⟩

/-- A query with the token, which is refused. -/
def refusedTurn : Turn :=
  let a := .query sampleNetwork [⟨403, [], [], 0⟩] "q" none
  ⟨fetchTurn.after, a, fetchTurn.after.act sampleBase a⟩

theorem the_token_outlives_a_refused_query :
    turns sampleBase sampleState [fetchTurn.action, refusedTurn.action] =
      [fetchTurn, refusedTurn] ∧
    fetchTurn.Fetches sampleBase ∧ fetchTurn.tokenAfter = some "t" ∧
    refusedTurn.Lawful sampleBase ∧ ¬ refusedTurn.Fetches sampleBase ∧
    refusedTurn.tokenAfter = some "t" := by
  have hrun : turns sampleBase sampleState [fetchTurn.action, refusedTurn.action] =
      [fetchTurn, refusedTurn] := rfl
  have hheld : fetchTurn.tokenAfter = some "t" := by cbv
  have hkept : refusedTurn.tokenAfter = some "t" := by cbv
  obtain ⟨hlawful, honce⟩ :=
    the_token_lives_in_its_slot sampleBase sampleState [fetchTurn.action, refusedTurn.action]
  rw [hrun] at hlawful honce
  have hfetch : fetchTurn.Fetches sampleBase :=
    ⟨rfl, (hlawful fetchTurn (.head _)).asks.mpr ⟨rfl, rfl⟩⟩
  refine ⟨hrun, hfetch, hheld, hlawful refusedTurn (.tail _ (.head _)), ?_, hkept⟩
  apply honce 0 1 fetchTurn refusedTurn Nat.zero_lt_one rfl rfl (by omega) hfetch
  rw [hheld]
  rfl

end ResultGateway.Gateway
