-- What a client sends. A call starts with its own request, when its host
-- can be reached; every request after that is one that a reply led to, and
-- asks for a page. The reply it ends with is one of the replies to come.
import ResultGateway.Http.Exchange

namespace ResultGateway.Http

/-! ## One request -/

/-- One request gets no answer from a host that is not reached, nor when no reply is left; else it
gets the next reply. -/
theorem sendOnce_cases (net : Network) (call : Call) (wire : Wire) :
    (net.reaches call.url = false ∧ sendOnce net call wire = ⟨none, [], wire⟩) ∨
    (net.reaches call.url = true ∧ wire.replies = [] ∧
      sendOnce net call wire = ⟨none, [call.request wire.jar], wire⟩) ∨
    (net.reaches call.url = true ∧ ∃ reply replies jar, wire.replies = reply :: replies ∧
      sendOnce net call wire = ⟨some reply, [call.request wire.jar], ⟨replies, jar⟩⟩) := by
  unfold sendOnce
  cases net.reaches call.url with
  | false => exact .inl ⟨rfl, rfl⟩
  | true =>
    simp only [Bool.not_true, Bool.false_eq_true, if_false]
    cases wire.replies with
    | nil => exact .inr (.inl ⟨trivial, rfl, rfl⟩)
    | cons reply replies => exact .inr (.inr ⟨trivial, reply, replies, _, rfl, rfl⟩)

/-! ## Being sent elsewhere -/

/-- A request for a page: it hands over nothing. -/
def Request.AsksForPage (r : Request) : Prop := r.method = .get ∧ r.body = ""

/-- Whoever is sent elsewhere asks for a page there. -/
theorem Call.next_page {call call' : Call} {reply : Reply} (h : call.next reply = .go call') :
    call'.method = .get ∧ call'.body = "" := by
  unfold Call.next at h
  have hget : ∀ m s m', nextMethod? m s = some m' → m' = .get := by
    intro m s m' hm
    unfold nextMethod? at hm
    split at hm
    · simpa using hm.symm
    · split at hm
      · simpa using hm.symm
      · cases hm
  split at h
  · cases h
  · split at h
    all_goals try cases h
    exact ⟨hget _ _ _ ‹_›, rfl⟩

/-- What a call may send, may leave of the network, and may end with. -/
structure Sends (net : Network) (call : Call) (wire : Wire) (x : Exchange (Option Reply)) :
    Prop where
  unreached : net.reaches call.url = false → x = ⟨none, [], wire⟩
  requests : net.reaches call.url = true →
    ∃ later, x.requests = call.request wire.jar :: later ∧ ∀ r ∈ later, r.AsksForPage
  replies : x.wire.replies <:+ wire.replies
  result : ∀ reply, x.result = some reply → reply ∈ wire.replies

theorem sends_sendOnce (net : Network) (call : Call) (wire : Wire) :
    Sends net call wire (sendOnce net call wire) := by
  rcases sendOnce_cases net call wire with ⟨hr, h⟩ | ⟨hr, hw, h⟩ | ⟨hr, reply, replies, jar, hw, h⟩
  · rw [h]
    exact ⟨fun _ => rfl, fun ht => by simp [hr] at ht, List.suffix_refl _, fun _ hn => by cases hn⟩
  · rw [h]
    exact ⟨fun hf => by simp [hr] at hf, fun _ => ⟨[], rfl, by simp⟩, List.suffix_refl _,
      fun _ hn => by cases hn⟩
  · rw [h]
    refine ⟨fun hf => by simp [hr] at hf, fun _ => ⟨[], rfl, by simp⟩, ?_, ?_⟩
    · rw [hw]
      exact List.suffix_cons reply replies
    · rintro _ ⟨⟩
      rw [hw]
      exact List.mem_cons_self

/-- A call that fails after all has still sent what it sent. -/
theorem Sends.fail {net : Network} {call : Call} {wire : Wire} {x : Exchange (Option Reply)}
    (h : Sends net call wire x) (hr : net.reaches call.url = true) :
    Sends net call wire { x with result := none } :=
  ⟨fun hf => by simp [hr] at hf, h.requests, h.replies, fun _ hn => by cases hn⟩

/-- A call that is sent elsewhere goes on from what the first request left. -/
theorem Sends.follow {net : Network} {call call' : Call} {wire : Wire}
    {x y : Exchange (Option Reply)} (h : Sends net call wire x)
    (hr : net.reaches call.url = true) (hc : call'.method = .get ∧ call'.body = "")
    (hy : Sends net call' x.wire y) :
    Sends net call wire { y with requests := x.requests ++ y.requests } := by
  obtain ⟨later, hx, hlater⟩ := h.requests hr
  refine ⟨fun hf => by simp [hr] at hf, fun _ => ⟨later ++ y.requests, ?_, ?_⟩,
    hy.replies.trans h.replies, fun reply hreply => h.replies.subset (hy.result reply hreply)⟩
  · simp only [hx, List.cons_append]
  · intro r hmem
    rcases List.mem_append.1 hmem with hmem | hmem
    · exact hlater r hmem
    · cases hr' : net.reaches call'.url with
      | false =>
        rw [hy.unreached hr'] at hmem
        cases hmem
      | true =>
        obtain ⟨later', hy', hlater'⟩ := hy.requests hr'
        rw [hy'] at hmem
        rcases List.mem_cons.1 hmem with rfl | hmem
        · exact hc
        · exact hlater' r hmem

theorem reaches_of_answer {net : Network} {call : Call} {wire : Wire} {reply : Reply}
    (h : (sendOnce net call wire).result = some reply) : net.reaches call.url = true := by
  cases hr : net.reaches call.url with
  | true => rfl
  | false =>
    rw [(sends_sendOnce net call wire).unreached hr] at h
    cases h

theorem sends_sendFollowing (net : Network) (left : Nat) (call : Call) (wire : Wire) :
    Sends net call wire (sendFollowing net left call wire) := by
  have hfirst := sends_sendOnce net call wire
  induction left generalizing call wire with
  | zero =>
    unfold sendFollowing
    cases hres : (sendOnce net call wire).result with
    | none =>
      simp only [hres]
      exact hfirst
    | some reply =>
      simp only [hres]
      split
      · exact hfirst
      · exact hfirst.fail (reaches_of_answer hres)
  | succ left ih =>
    unfold sendFollowing
    cases hres : (sendOnce net call wire).result with
    | none =>
      simp only [hres]
      exact hfirst
    | some reply =>
      have hr := reaches_of_answer hres
      simp only [hres]
      split
      · exact hfirst
      · cases hnext : call.next reply with
        | read => exact hfirst
        | fail => exact hfirst.fail hr
        | go call' =>
          exact hfirst.follow hr (Call.next_page hnext)
            (ih call' _ (sends_sendOnce net call' _))

/-! ## Whole calls -/

/-- A call sends nothing when no header can carry its token; else it sends as `Sends` says. -/
theorem send_cases (net : Network) (call : Call) (wire : Wire) :
    (call.token.all isHeaderValue = false ∧ send net call wire = ⟨none, [], wire⟩) ∨
    (call.token.all isHeaderValue = true ∧ Sends net call wire (send net call wire)) := by
  unfold send
  cases call.token.all isHeaderValue with
  | false => exact .inl ⟨rfl, rfl⟩
  | true => exact .inr ⟨rfl, sends_sendFollowing net greatestFollowed call wire⟩

theorem send_replies (net : Network) (call : Call) (wire : Wire) :
    (send net call wire).wire.replies <:+ wire.replies := by
  rcases send_cases net call wire with ⟨_, h⟩ | ⟨_, h⟩
  · simp only [h, List.suffix_refl]
  · exact h.replies

theorem mem_replies_of_send {net : Network} {call : Call} {wire : Wire} {reply : Reply}
    (h : (send net call wire).result = some reply) : reply ∈ wire.replies := by
  rcases send_cases net call wire with ⟨_, he⟩ | ⟨_, hs⟩
  · rw [he] at h
    cases h
  · exact hs.result reply h

theorem reaches_of_send {net : Network} {call : Call} {wire : Wire} {reply : Reply}
    (h : (send net call wire).result = some reply) : net.reaches call.url = true := by
  cases hr : net.reaches call.url with
  | true => rfl
  | false =>
    rcases send_cases net call wire with ⟨_, he⟩ | ⟨_, hs⟩
    · rw [he] at h
      cases h
    · rw [hs.unreached hr] at h
      cases h

/-- A call whose token no header can carry, or whose host is not reached, sends nothing. -/
theorem send_unsent {net : Network} (call : Call) (wire : Wire)
    (h : call.token.all isHeaderValue = false ∨ net.reaches call.url = false) :
    send net call wire = ⟨none, [], wire⟩ := by
  rcases send_cases net call wire with ⟨_, he⟩ | ⟨ht, hs⟩
  · exact he
  · rcases h with h | h
    · rw [ht] at h
      cases h
    · exact hs.unreached h

/-- Any other call sends its own request first; all others ask for pages. -/
theorem send_sent {net : Network} (call : Call) (wire : Wire)
    (ht : call.token.all isHeaderValue = true) (hr : net.reaches call.url = true) :
    ∃ later, (send net call wire).requests = call.request wire.jar :: later ∧
      ∀ r ∈ later, r.AsksForPage := by
  rcases send_cases net call wire with ⟨hf, _⟩ | ⟨_, hs⟩
  · rw [ht] at hf
    cases hf
  · exact hs.requests hr

/-- The first request of a call is its own; all others ask for pages. -/
theorem send_requests (net : Network) (call : Call) (wire : Wire) :
    (send net call wire).requests = [] ∨
    ∃ later, (send net call wire).requests = call.request wire.jar :: later ∧
      ∀ r ∈ later, r.AsksForPage := by
  rcases send_cases net call wire with ⟨_, h⟩ | ⟨_, h⟩
  · exact .inl (by rw [h])
  · cases hr : net.reaches call.url with
    | false => exact .inl (by rw [h.unreached hr])
    | true => exact .inr (h.requests hr)

/-- A call that hands over nothing asks for pages only. -/
theorem send_pages {net : Network} {call : Call} {wire : Wire}
    (hc : call.method = .get ∧ call.body = "") :
    ∀ r ∈ (send net call wire).requests, r.AsksForPage := by
  intro r hr
  rcases send_requests net call wire with h | ⟨later, h, hlater⟩
  · rw [h] at hr
    cases hr
  · rw [h] at hr
    rcases List.mem_cons.1 hr with rfl | hr
    · exact hc
    · exact hlater r hr

/-- A call without a token makes its request if and only if the host is reached. -/
theorem send_head {net : Network} {call : Call} {wire : Wire} (hc : call.token = none) :
    (send net call wire).requests.head? =
      if net.reaches call.url then some (call.request wire.jar) else none := by
  have hs : Sends net call wire (send net call wire) := by
    rcases send_cases net call wire with ⟨h, _⟩ | ⟨_, h⟩
    · simp [hc] at h
    · exact h
  cases hr : net.reaches call.url with
  | false => simp [hs.unreached hr]
  | true =>
    obtain ⟨later, h, _⟩ := hs.requests hr
    simp [h]

end ResultGateway.Http
