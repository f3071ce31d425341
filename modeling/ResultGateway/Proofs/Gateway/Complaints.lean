-- What a failed reply says. The failure has the message of the first error
-- in the body, as long as each error of the body can be read. One error
-- without a message is enough for the body to say nothing but its status,
-- and so is a body that is too long or does not arrive whole.
import ResultGateway.Proofs.Gateway.Replies
import ResultGateway.Proofs.GraphQl.Meanings
import ResultGateway.Proofs.Json.SoleTexts

namespace ResultGateway.Gateway

open GraphQl (HoldsComplaints complaintShape complaintsShape)
open Http (Network Wire Reply)
open Json (Denotes IsAlone IsListText IsSoleText Reader ReadsTexts SpellsText greatestDepth)

/-! ## Texts of errors -/

/-- The texts of an error: of an object with one message, whatever else it has, or of a list of one
text. -/
def IsComplaintText : String → List Char → Prop := IsSoleText "message" SpellsText

/-- The texts of errors: of an object with one list of them, whatever else it has, or of a list of
such a list alone. -/
def IsComplaintsText : List String → List Char → Prop :=
  IsSoleText "errors" (IsListText IsComplaintText)

/-- A body that is a text of errors with these messages, with blanks around it. -/
def Complains (body : String) (messages : List String) : Prop :=
  IsAlone IsComplaintsText messages body

theorem readsTexts_complaints (depth : Nat) :
    ReadsTexts (complaintsShape.reader (depth + 3)) IsComplaintsText := by
  have hentry : ReadsTexts (complaintShape.reader (depth + 1)) IsComplaintText :=
    .sole GraphQl.complaintShape_fields (Json.readsTexts_text depth)
  exact .sole GraphQl.complaintsShape_fields hentry.list

theorem decode_complaints {body : String} {messages : List String} :
    complaintsShape.reader.decode body = .ok messages ↔ Complains body messages :=
  (readsTexts_complaints 124).decode_eq_ok

/-- A body that denotes a value says what the value holds. -/
theorem complains_iff_holds {body : String} {j : Json} (h : Denotes body j)
    (messages : List String) : Complains body messages ↔ HoldsComplaints j messages := by
  have hdecode := GraphQl.complaintsMeaning.meaning.toOption_decode h
  have hmade : GraphQl.complaintsMeaning.meaning.made greatestDepth j = some messages ↔
      HoldsComplaints j messages := GraphQl.complaintsMeaning_made
  rw [← decode_complaints, ← hmade, ← hdecode]
  cases complaintsShape.reader.decode body <;> simp

/-! ## Messages -/

/-- The text that stands for a status when the body says nothing. -/
def statusText (status : Nat) : String := "remote error status " ++ String.ofList (Text.decimal status)

/-- A reply that says messages: its body is short enough to be read, arrives whole, and is a text
of errors with them. -/
structure Says (reply : Reply) (messages : List String) : Prop where
  short : reply.body.length ≤ Reply.greatestBody
  arrived : reply.missing = 0
  complains : Complains reply.content messages

/-- The message of a failed reply: the first that it says, or else its status. -/
structure IsMessageOf (reply : Reply) (text : String) : Prop where
  said : ∀ message messages, Says reply (message :: messages) → text = message
  unsaid : (∀ message messages, ¬ Says reply (message :: messages)) →
    text = statusText reply.status

/-- A result that fails with the message of a reply. -/
def FailsAs {α : Type} (reply : Reply) (x : Except Failure α) : Prop :=
  ∃ f text, x = .error f ∧ f.message = some text ∧ IsMessageOf reply text

theorem not_complains_empty (messages : List String) : ¬ Complains "" messages := by
  rintro ⟨lead, v, trail, -, -, hv, htext⟩
  have hlength := ((readsTexts_complaints 0).form hv).length_pos
  simp only [String.toList_empty, List.nil_eq, List.append_eq_nil_iff] at htext
  rw [htext.2.1] at hlength
  exact Nat.lt_irrefl 0 hlength

theorem complaint_eq (status : Nat) (body : String) :
    (∀ message messages, Complains body (message :: messages) →
      complaint status body = message) ∧
    ((∀ message messages, ¬ Complains body (message :: messages)) →
      complaint status body = statusText status) := by
  have hdecode : ∀ messages, complaintsShape.reader.decode body = .ok messages ↔
      Complains body messages := fun _ => decode_complaints
  unfold complaint
  generalize complaintsShape.reader.decode body = decoded at hdecode
  refine ⟨fun message messages h => by rw [(hdecode _).mpr h], fun h => ?_⟩
  match decoded, hdecode with
  | .ok (message :: messages), hdecode => exact absurd ((hdecode _).mp rfl) (h message messages)
  | .ok [], _ => rfl
  | .error _, _ => rfl

/-- A body may go with a failed status, and is read if it is short and arrives whole. -/
theorem text?_of_failed {reply : Reply} (h : 400 ≤ reply.status) :
    reply.text? = if reply.body.length ≤ Reply.greatestBody ∧ reply.missing = 0
      then some reply.content else none := by
  have hbody : reply.hasNoBody = false := by
    simp only [Reply.hasNoBody, Bool.or_eq_false_iff, beq_eq_false_iff_ne]
    omega
  unfold Reply.text?
  rw [hbody, if_neg Bool.false_ne_true]

theorem isMessageOf_complaint {reply : Reply} (h : 400 ≤ reply.status) :
    IsMessageOf reply (complaint reply.status (reply.text?.getD "")) := by
  rw [text?_of_failed h]
  by_cases hread : reply.body.length ≤ Reply.greatestBody ∧ reply.missing = 0
  · rw [if_pos hread]
    obtain ⟨hsaid, hunsaid⟩ := complaint_eq reply.status reply.content
    refine ⟨?_, fun hnone => hunsaid fun message messages hcomplains => ?_⟩
    · intro message messages hsaying
      exact hsaid message messages hsaying.complains
    · exact hnone message messages ⟨hread.1, hread.2, hcomplains⟩
  · rw [if_neg hread]
    refine ⟨?_, fun _ => (complaint_eq reply.status "").2 fun _ _ => not_complains_empty _⟩
    intro message messages hsaying
    exact absurd ⟨hsaying.short, hsaying.arrived⟩ hread

/-! ## Calls -/

section

variable {α : Type} {reply : Reply}

theorem failsAs_readReply (read : Reader α) (cause : Failure.Cause) (url : Url)
    (h : 400 ≤ reply.status) : FailsAs reply (readReply read cause url (some reply)) :=
  ⟨failedReply reply url, _, readReply_failed read cause url h, rfl, isMessageOf_complaint h⟩

theorem FailsAs.hintRejected {x : Except Failure α} (h : FailsAs reply x) :
    FailsAs reply (x.mapError Gateway.hintRejected) := by
  obtain ⟨f, text, rfl, hmessage, htext⟩ := h
  exact ⟨Gateway.hintRejected f, text, rfl, (hintRejected_message f).trans hmessage, htext⟩

variable {net : Network} {base : Url} {s : Session} {document : String} {vars : Option Json}
  {wire : Wire}

theorem failsAs_fetchToken (hfinal : (tokenPhase net base wire).final = some reply)
    (h : 400 ≤ reply.status) : FailsAs reply (fetchToken net (.ofBase base) wire).result := by
  rw [fetchToken_of_phase, hfinal]
  exact failsAs_readReply _ _ _ h

theorem failsAs_query {token : String}
    (htoken : (ensureToken net (.ofBase base) s wire).1.result = .ok token)
    (hfinal : (queryPhase net base token document vars
      (ensureToken net (.ofBase base) s wire).1.wire).final = some reply)
    (h : 400 ≤ reply.status) :
    FailsAs reply (query net (.ofBase base) s document vars wire).1.result := by
  rw [query_of_phase htoken, hfinal]
  exact (failsAs_readReply _ _ _ h).hintRejected

end

/-! ## The law -/

/-- Whatever the replies are, a reply that fails a call gives it the first message that it says, or
else its status. A body that denotes a value is a text of errors with some messages if and only if
the value holds them: each entry of its only list of errors has exactly one message. -/
theorem a_failed_reply_gives_its_first_message_if_each_error_has_one (net : Network) (base : Url)
    (s : Session) (document : String) (vars : Option Json) (wire : Wire) :
    (∀ reply, (tokenPhase net base wire).final = some reply → 400 ≤ reply.status →
      FailsAs reply (fetchToken net (.ofBase base) wire).result ∧
      (s.token = none → FailsAs reply (ensureToken net (.ofBase base) s wire).1.result ∧
        FailsAs reply (query net (.ofBase base) s document vars wire).1.result)) ∧
    (∀ token reply, (ensureToken net (.ofBase base) s wire).1.result = .ok token →
      (queryPhase net base token document vars
        (ensureToken net (.ofBase base) s wire).1.wire).final = some reply →
      400 ≤ reply.status → FailsAs reply (query net (.ofBase base) s document vars wire).1.result) ∧
    (∀ (r : Runner) (code : String) (graph : Json) (port : Option Nat) (url : Url) (reply : Reply),
      r.url port = .ok url → (runPhase net url code graph wire).final = some reply →
      400 ≤ reply.status → FailsAs reply (r.run net code graph port wire).result) ∧
    ∀ body j, Denotes body j → ∀ messages, Complains body messages ↔ HoldsComplaints j messages := by
  refine ⟨fun reply hfinal h => ?_, fun token reply htoken hfinal h => failsAs_query htoken hfinal h,
    fun r code graph port url reply hurl hfinal h => ?_, fun body j h => complains_iff_holds h⟩
  · have hfetch := failsAs_fetchToken hfinal h
    refine ⟨hfetch, fun hs => ⟨?_, ?_⟩⟩
    · rw [(ensureToken_of_none net base wire hs).1]
      exact hfetch
    · obtain ⟨f, text, hf, htold⟩ := hfetch
      exact ⟨f, text, query_of_unfetched hs hf, htold⟩
  · change (Http.send net (runCall url code graph) wire).result = some reply at hfinal
    rw [run_result net wire r code graph port hurl, hfinal]
    exact failsAs_readReply _ _ _ h

/-- A body with one error. -/
def oneError : Json := .obj [("errors", .arr [.obj [("message", .str "m")]])]

/-- A body with an error that has a message, and with one that has none. -/
def twoErrors : Json := .obj [("errors", .arr [.obj [("message", .str "m")], .obj []])]

def oneErrorReply : Reply := ⟨500, [], oneError.compact.toUTF8.data.toList, 0⟩

def twoErrorsReply : Reply := ⟨500, [], twoErrors.compact.toUTF8.data.toList, 0⟩

theorem denotes_oneError : Denotes oneError.compact oneError := by
  refine Json.denotes_compact ⟨3, .obj (List.forall_mem_singleton.mpr (.arr ?_))⟩
  exact List.forall_mem_singleton.mpr (.obj (List.forall_mem_singleton.mpr (.str "m")))

theorem holdsComplaints_oneError : HoldsComplaints oneError ["m"] := by
  refine .inl ⟨_, _, rfl, rfl, _, rfl, .cons (.inl ⟨_, _, rfl, rfl, rfl⟩) .nil⟩

theorem each_call_tells_the_message_of_one_error :
    (tokenPhase sampleNetwork sampleBase ⟨[oneErrorReply], []⟩).final = some oneErrorReply ∧
    400 ≤ oneErrorReply.status ∧ Denotes oneError.compact oneError ∧
    (∃ f, (fetchToken sampleNetwork (.ofBase sampleBase) ⟨[oneErrorReply], []⟩).result =
      .error f ∧ f.message = some "m") ∧
    (∃ f, (query sampleNetwork (.ofBase sampleBase) ⟨some "t", .empty⟩ "q" none
      ⟨[oneErrorReply], []⟩).1.result = .error f ∧ f.message = some "m") ∧
    ∃ f, (sampleRunner.run sampleNetwork "c" .null none ⟨[oneErrorReply], []⟩).result = .error f ∧
      f.message = some "m" := by
  have hcontent : oneErrorReply.content = oneError.compact := by cbv
  have hstatus : 400 ≤ oneErrorReply.status := by decide
  have htoken : (tokenPhase sampleNetwork sampleBase ⟨[oneErrorReply], []⟩).final =
      some oneErrorReply := by cbv
  have hquery : (queryPhase sampleNetwork sampleBase "t" "q" none ⟨[oneErrorReply], []⟩).final =
      some oneErrorReply := by cbv
  have hrun : (runPhase sampleNetwork sampleRunUrl "c" .null ⟨[oneErrorReply], []⟩).final =
      some oneErrorReply := by cbv
  have hurl : sampleRunner.url none = .ok sampleRunUrl := by cbv
  obtain ⟨hfetched, hqueried, hran, hholds⟩ :=
    a_failed_reply_gives_its_first_message_if_each_error_has_one sampleNetwork sampleBase
      ⟨some "t", .empty⟩ "q" none ⟨[oneErrorReply], []⟩
  have hcomplains : Complains oneErrorReply.content ["m"] := by
    rw [hcontent]
    exact (hholds _ _ denotes_oneError ["m"]).mpr holdsComplaints_oneError
  have hsaying : Says oneErrorReply ["m"] := ⟨by decide, rfl, hcomplains⟩
  have htold : ∀ {α : Type} {x : Except Failure α}, FailsAs oneErrorReply x →
      ∃ f, x = .error f ∧ f.message = some "m" := by
    rintro α x ⟨f, text, hf, hmessage, hmessageOf⟩
    rw [hmessageOf.said "m" [] hsaying] at hmessage
    exact ⟨f, hf, hmessage⟩
  exact ⟨htoken, hstatus, denotes_oneError, htold (hfetched _ htoken hstatus).1,
    htold (hqueried "t" _ rfl hquery hstatus),
    htold (hran sampleRunner "c" .null none sampleRunUrl _ hurl hrun hstatus)⟩

theorem denotes_twoErrors : Denotes twoErrors.compact twoErrors := by
  refine Json.denotes_compact ⟨3, .obj (List.forall_mem_singleton.mpr (.arr ?_))⟩
  refine List.forall_mem_cons.mpr ⟨.obj (List.forall_mem_singleton.mpr (.str "m")), ?_⟩
  exact List.forall_mem_singleton.mpr (.obj (List.forall_mem_nil _))

/-- The first error of the body has a message, and yet a query tells only the status. -/
theorem a_later_error_hides_the_message_of_the_first :
    twoErrorsReply.text? = some twoErrors.compact ∧ Denotes twoErrors.compact twoErrors ∧
    (queryPhase sampleNetwork sampleBase "t" "q" none ⟨[twoErrorsReply], []⟩).final =
      some twoErrorsReply ∧ twoErrorsReply.status = 500 ∧
    ∃ f, (query sampleNetwork (.ofBase sampleBase) ⟨some "t", .empty⟩ "q" none
      ⟨[twoErrorsReply], []⟩).1.result = .error f ∧ f.message = some "remote error status 500" := by
  refine ⟨?_, denotes_twoErrors, ?_, rfl,
    failedReply twoErrorsReply (sampleBase.endpoint "graphql"), ?_, ?_⟩
  · cbv
  · cbv
  · cbv
  · cbv

end ResultGateway.Gateway
