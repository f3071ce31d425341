-- Which replies fail a call. The last reply of a phase fails the call, with
-- its status, if and only if this is 400 or more. A reply of any other
-- status is taken for what its body holds, also one that sends the client
-- elsewhere where it does not go. A body that is too long holds nothing.
import ResultGateway.Proofs.Gateway.Failures

namespace ResultGateway.Gateway

open Http (Network Wire Reply)
open Json (Reader)

variable {α : Type}

/-! ## How a reply decides -/

/-- A result that fails as a reply of a status does. -/
def TellsStatus (status : Nat) (x : Except Failure α) : Prop :=
  ∃ f, x = .error f ∧ f.status = some status ∧ f.kind = kindOfStatus status

/-- What the reply that a phase ends with makes of its result. -/
structure Phase.Decides (p : Phase) (read : Reader α) (x : Except Failure α) : Prop where
  /-- Whatever its body is, the reply fails the phase if and only if its status is 400 or more. -/
  fails : ∀ reply, p.final = some reply → (TellsStatus reply.status x ↔ 400 ≤ reply.status)
  /-- With a lesser status its body alone decides. -/
  taken : ∀ reply, p.final = some reply → reply.status < 400 → ∀ a, x = .ok a ↔
    ∃ body, reply.text? = some body ∧ read.decode body = .ok a

theorem not_tellsStatus {status : Nat} {x : Except Failure α}
    (h : ∀ f, x = .error f → f.status = none) : ¬ TellsStatus status x := by
  rintro ⟨f, hf, hstatus, -⟩
  rw [h f hf] at hstatus
  cases hstatus

/-- A reply of a failed status gives the failure of that status. -/
theorem readReply_failed (read : Reader α) (cause : Failure.Cause) (url : Url) {reply : Reply}
    (h : 400 ≤ reply.status) :
    readReply read cause url (some reply) = .error (failedReply reply url) := by
  have hfailed : reply.isFailed = true := by simpa [Reply.isFailed] using h
  simp only [readReply, hfailed, if_true]

/-- A reply of another status is decoded from the text of its body. -/
theorem readReply_text (read : Reader α) (cause : Failure.Cause) (url : Url) {reply : Reply}
    {body : String} (h : reply.status < 400) (htext : reply.text? = some body) :
    (∀ a, read.decode body = .ok a → readReply read cause url (some reply) = .ok a) ∧
    ∀ e, read.decode body = .error e →
      ∃ f, readReply read cause url (some reply) = .error f ∧ f.status = none ∧
        f.kind = .internal ∧ f.message = some "invalid response json" := by
  have hpassed : reply.isFailed = false := by simpa [Reply.isFailed] using h
  simp only [readReply, hpassed, Bool.false_eq_true, if_false, htext]
  refine ⟨fun a hok => ?_, fun e herror => ?_⟩
  · rw [hok]
  · rw [herror]
    exact ⟨_, rfl, rfl, rfl, rfl⟩

/-- A reply of another status fails when its body has no text. -/
theorem readReply_noText (read : Reader α) (cause : Failure.Cause) (url : Url) {reply : Reply}
    (h : reply.status < 400) (htext : reply.text? = none) :
    ∃ f, readReply read cause url (some reply) = .error f ∧ f.status = none ∧
      f.kind = .io ∧ f.message = some "failed to read response body" := by
  have hpassed : reply.isFailed = false := by simpa [Reply.isFailed] using h
  simp only [readReply, hpassed, Bool.false_eq_true, if_false, htext]
  exact ⟨_, rfl, rfl, rfl, rfl⟩

/-- A reply of another status never gives a failure with a status, and gives what its body
holds. -/
theorem readReply_taken (read : Reader α) (cause : Failure.Cause) (url : Url) {reply : Reply}
    (h : reply.status < 400) :
    (∀ f, readReply read cause url (some reply) = .error f → f.status = none) ∧
    ∀ a, readReply read cause url (some reply) = .ok a ↔
      ∃ body, reply.text? = some body ∧ read.decode body = .ok a := by
  cases htext : reply.text? with
  | none =>
    obtain ⟨f, hf, hstatus, -⟩ := readReply_noText read cause url h htext
    rw [hf]
    refine ⟨?_, by simp⟩
    rintro _ ⟨⟩
    exact hstatus
  | some body =>
    obtain ⟨hgives, hfails⟩ := readReply_text read cause url h htext
    cases hbody : read.decode body with
    | error e =>
      obtain ⟨f, hf, hstatus, -⟩ := hfails e hbody
      rw [hf]
      refine ⟨?_, by simp [hbody]⟩
      rintro _ ⟨⟩
      exact hstatus
    | ok a =>
      rw [hgives a hbody]
      refine ⟨?_, by simp [hbody]⟩
      intro _ hf
      cases hf

theorem readReply_decides (read : Reader α) (cause : Failure.Cause) (p : Phase) :
    p.Decides read (readReply read cause p.url p.final) := by
  refine ⟨?_, ?_⟩
  · intro reply hfinal
    rw [hfinal]
    by_cases h : 400 ≤ reply.status
    · rw [readReply_failed read cause p.url h]
      exact ⟨fun _ => h, fun _ => ⟨_, rfl, rfl, rfl⟩⟩
    · have hnone := (readReply_taken read cause p.url (Nat.lt_of_not_le h)).1
      exact ⟨fun htells => absurd htells (not_tellsStatus hnone), fun hle => absurd hle h⟩
  · intro reply hfinal h
    rw [hfinal]
    exact (readReply_taken read cause p.url h).2

/-- A hint changes neither whether a phase fails nor the status that it tells. -/
theorem Phase.Decides.hintRejected {p : Phase} {read : Reader α} {x : Except Failure α}
    (h : p.Decides read x) : p.Decides read (x.mapError Gateway.hintRejected) := by
  cases x with
  | ok a => exact h
  | error f =>
    have htells : ∀ status,
        TellsStatus status (.error (Gateway.hintRejected f) : Except Failure α) ↔
          TellsStatus status (.error f : Except Failure α) := by
      intro status
      simp [TellsStatus]
    refine ⟨fun reply hfinal => ?_, fun reply hfinal hs a => ?_⟩
    · exact (htells reply.status).trans (h.fails reply hfinal)
    · have htaken := h.taken reply hfinal hs a
      exact ⟨fun hok => (nomatch hok), fun hbody => (nomatch htaken.mpr hbody)⟩

/-! ## Lengths of bodies -/

/-- A reply that brings a text: a body may go with its status, all of it arrives, and the text is
what it holds. -/
structure Brings (reply : Reply) (text : String) : Prop where
  allowed : reply.hasNoBody = false
  arrived : reply.missing = 0
  content : reply.content = text

/-- What the length of a body decides: something holds if the body is short enough to be read, and
something else if it is not. -/
structure ByLength (reply : Reply) (P Q : Prop) : Prop where
  short : reply.body.length ≤ Reply.greatestBody → P
  long : Reply.greatestBody < reply.body.length → Q

/-- A failure to read a body. -/
def FailsUnread (x : Except Failure α) : Prop :=
  ∃ f, x = .error f ∧ f.kind = .io ∧ f.message = some "failed to read response body"

section

variable {reply : Reply} {text : String} (h : Brings reply text)

include h

theorem Brings.text?_eq_some (hshort : reply.body.length ≤ Reply.greatestBody) :
    reply.text? = some text := by
  unfold Reply.text?
  rw [h.allowed, if_neg Bool.false_ne_true, if_pos ⟨hshort, h.arrived⟩, h.content]

theorem Brings.text?_eq_none (hlong : Reply.greatestBody < reply.body.length) :
    reply.text? = none := by
  unfold Reply.text?
  rw [h.allowed, if_neg Bool.false_ne_true, if_neg fun hshort => Nat.not_le_of_lt hlong hshort.1]

/-- A body that is too long fails a call whose reply has no failed status. -/
theorem Brings.failsUnread (hstatus : reply.status < 400)
    (hlong : Reply.greatestBody < reply.body.length) (read : Reader α) (cause : Failure.Cause)
    (url : Url) : FailsUnread (readReply read cause url (some reply)) := by
  obtain ⟨f, hf, -, hkind, hmessage⟩ :=
    readReply_noText read cause url hstatus (h.text?_eq_none hlong)
  exact ⟨f, hf, hkind, hmessage⟩

end

theorem FailsUnread.hintRejected {x : Except Failure α} (h : FailsUnread x) :
    FailsUnread (x.mapError Gateway.hintRejected) := by
  obtain ⟨f, rfl, hkind, hmessage⟩ := h
  exact ⟨Gateway.hintRejected f, rfl, by rw [hintRejected_kind, hkind],
    by rw [hintRejected_message, hmessage]⟩

/-! ## Calls -/

section

variable {net : Network} {base : Url} {s : Session} {document : String} {vars : Option Json}
  {wire : Wire}

/-- A fetch of a token gives what its phase ends with. -/
theorem fetchToken_of_phase (net : Network) (base : Url) (wire : Wire) :
    (fetchToken net (.ofBase base) wire).result = readReply GraphQl.tokenShape.reader
      (net.cause (tokenCall (.ofBase base)) wire) (tokenPhase net base wire).url
      (tokenPhase net base wire).final :=
  fetchToken_result net (.ofBase base) wire

/-- A query with a token gives what its second phase ends with, where a refusal gets its hint. -/
theorem query_of_phase {token : String}
    (h : (ensureToken net (.ofBase base) s wire).1.result = .ok token) :
    let later := (ensureToken net (.ofBase base) s wire).1.wire
    let phase := queryPhase net base token document vars later
    (query net (.ofBase base) s document vars wire).1.result =
      (readReply GraphQl.Reply.shape.reader
        (net.cause (queryCall (.ofBase base) token document vars) later) phase.url
        phase.final).mapError Gateway.hintRejected := by
  rcases query_cases net (.ofBase base) s wire document vars with
    ⟨f, hf, _, _⟩ | ⟨token', ht, hresult, _⟩
  · rw [h] at hf
    cases hf
  · rw [h] at ht
    cases ht
    rw [hresult, postQuery_result]
    rfl

theorem fetchToken_decides :
    (tokenPhase net base wire).Decides GraphQl.tokenShape.reader
      (fetchToken net (.ofBase base) wire).result := by
  rw [fetchToken_of_phase]
  exact readReply_decides GraphQl.tokenShape.reader _ (tokenPhase net base wire)

/-- A session without a token asks for one, and keeps what it is given. -/
theorem ensureToken_of_none (net : Network) (base : Url) (wire : Wire) (h : s.token = none) :
    (ensureToken net (.ofBase base) s wire).1.result =
      (fetchToken net (.ofBase base) wire).result ∧
    ∀ token, (ensureToken net (.ofBase base) s wire).2.token = some token ↔
      (fetchToken net (.ofBase base) wire).result = .ok token := by
  rcases ensureToken_cases net (.ofBase base) s wire with
    ⟨token, hs, _⟩ | ⟨_, f, hf, heq⟩ | ⟨_, fetched, hok, heq⟩
  · rw [h] at hs
    cases hs
  · rw [heq, hf, h]
    exact ⟨rfl, fun token => ⟨fun hs => (nomatch hs), fun hs => (nomatch hs)⟩⟩
  · rw [heq, hok]
    refine ⟨rfl, fun token => ?_⟩
    show some fetched = some token ↔ _
    simp

theorem query_decides {token : String}
    (h : (ensureToken net (.ofBase base) s wire).1.result = .ok token) :
    (queryPhase net base token document vars
        (ensureToken net (.ofBase base) s wire).1.wire).Decides GraphQl.Reply.shape.reader
      (query net (.ofBase base) s document vars wire).1.result := by
  rw [query_of_phase h]
  exact (readReply_decides GraphQl.Reply.shape.reader _ (queryPhase net base token document vars
    (ensureToken net (.ofBase base) s wire).1.wire)).hintRejected

/-- A query without a token fails as the fetch of its token. -/
theorem query_of_unfetched {f : Failure} (hs : s.token = none)
    (hf : (fetchToken net (.ofBase base) wire).result = .error f) :
    (query net (.ofBase base) s document vars wire).1.result = .error f := by
  have hresult := (ensureToken_of_none net base wire hs).1
  rcases query_cases net (.ofBase base) s wire document vars with
    ⟨g, hg, hquery, _⟩ | ⟨token, ht, _, _⟩
  · rw [hresult, hf] at hg
    cases hg
    exact hquery
  · rw [hresult, hf] at ht
    cases ht

/-- A query whose token is refused fails as the refusal, and the slot stays empty. -/
theorem query_of_refused {reply : Reply} (hs : s.token = none)
    (hfinal : (tokenPhase net base wire).final = some reply) (hstatus : 400 ≤ reply.status) :
    TellsStatus reply.status (query net (.ofBase base) s document vars wire).1.result ∧
    (query net (.ofBase base) s document vars wire).2.token = none := by
  obtain ⟨-, hkept⟩ := ensureToken_of_none net base wire hs
  obtain ⟨f, hf, htells⟩ := (fetchToken_decides.fails reply hfinal).mpr hstatus
  rw [query_session]
  refine ⟨⟨f, query_of_unfetched hs hf, htells⟩, ?_⟩
  rw [hf] at hkept
  cases htoken : (ensureToken net (.ofBase base) s wire).2.token with
  | none => rfl
  | some token => exact nomatch (hkept token).mp htoken

end

/-! ## The law -/

/-- Whatever the replies are, the last reply of a phase fails the call with its status, and leaves
no token, if and only if that status is 400 or more; below that its body alone decides. -/
theorem a_reply_fails_from_400_on (net : Network) (base : Url) (s : Session) (document : String)
    (vars : Option Json) (wire : Wire) :
    (tokenPhase net base wire).Decides GraphQl.tokenShape.reader
      (fetchToken net (.ofBase base) wire).result ∧
    (s.token = none →
      (tokenPhase net base wire).Decides GraphQl.tokenShape.reader
        (ensureToken net (.ofBase base) s wire).1.result ∧
      (∀ token, (ensureToken net (.ofBase base) s wire).2.token = some token ↔
        (fetchToken net (.ofBase base) wire).result = .ok token) ∧
      ∀ reply, (tokenPhase net base wire).final = some reply → 400 ≤ reply.status →
        TellsStatus reply.status (query net (.ofBase base) s document vars wire).1.result ∧
        (query net (.ofBase base) s document vars wire).2.token = none) ∧
    (∀ token, (ensureToken net (.ofBase base) s wire).1.result = .ok token →
      (queryPhase net base token document vars
          (ensureToken net (.ofBase base) s wire).1.wire).Decides GraphQl.Reply.shape.reader
        (query net (.ofBase base) s document vars wire).1.result) ∧
    ∀ (r : Runner) (code : String) (graph : Json) (port : Option Nat) (url : Url),
      r.url port = .ok url → (runPhase net url code graph wire).Decides Reader.value
        (r.run net code graph port wire).result := by
  refine ⟨fetchToken_decides, ?_, fun token h => query_decides h, ?_⟩
  · intro hs
    obtain ⟨hresult, hkept⟩ := ensureToken_of_none net base wire hs
    refine ⟨?_, hkept, fun reply hfinal hstatus => query_of_refused hs hfinal hstatus⟩
    rw [hresult]
    exact fetchToken_decides
  · intro r code graph port url hurl
    rw [run_result net wire r code graph port hurl]
    exact readReply_decides Reader.value _ (runPhase net url code graph wire)

/-! ## Replies that lead elsewhere -/

/-- A reply to a post that sends the client elsewhere, and also has data. -/
def movedReply : Reply := ⟨307, [], "\x7b\"data\":1\x7d".toUTF8.data.toList, 0⟩

/-- A reply with a choice of places, and also with a token. -/
def choiceReply : Reply := ⟨300, [], "\x7b\"csrfToken\":\"t\"\x7d".toUTF8.data.toList, 0⟩

/-- Such replies are no success, and yet a query succeeds with the one, and a session keeps the
token of the other. -/
theorem a_reply_that_leads_elsewhere_passes_for_success :
    (queryPhase sampleNetwork sampleBase "t" "q" none ⟨[movedReply], []⟩).final =
      some movedReply ∧
    (query sampleNetwork (.ofBase sampleBase) ⟨some "t", .empty⟩ "q" none
      ⟨[movedReply], []⟩).1.result = .ok ⟨some (.int 1), none⟩ ∧
    (tokenPhase sampleNetwork sampleBase ⟨[choiceReply], []⟩).final = some choiceReply ∧
    (ensureToken sampleNetwork (.ofBase sampleBase) {} ⟨[choiceReply], []⟩).2.token =
      some "t" := by
  refine ⟨?_, ?_, ?_, ?_⟩
  · cbv
  · cbv
  · cbv
  · cbv

end ResultGateway.Gateway
