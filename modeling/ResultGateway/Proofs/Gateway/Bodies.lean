-- What the body of a reply decides, if it is short enough to be read. A
-- token is taken from an object, or from a list, that holds it, and a query
-- is answered by an object, or by a list in its place. In the object that
-- answers a query a null stands for a missing member, but the places of an
-- error must not be null.
import Mathlib
import ResultGateway.Proofs.Gateway.Replies
import ResultGateway.Proofs.GraphQl.Meanings

namespace ResultGateway.Gateway

open GraphQl (HoldsToken tokenMeaning)
open Http (Network Wire Reply)
open Json (Denotes Meaning Reader greatestDepth)

variable {α : Type}

/-! ## Bodies -/

/-- A reply that did not fail, and whose body, of any length, denotes a value. -/
def Answers (reply : Reply) (j : Json) : Prop :=
  reply.status < 400 ∧ ∃ text, Brings reply text ∧ Denotes text j

/-- What a call ends with, when of a failure only its kind counts. -/
def outcome (x : Except Failure α) : Except Failure.Kind α := x.mapError Failure.kind

/-- What is made of a body, or the kind of failure when nothing is made of it. -/
def settled : Option α → Except Failure.Kind α
  | some a => .ok a
  | none => .error .internal

/-- A call gives the things for which something holds, and fails with kind Internal when it holds
for none. -/
structure Settles (x : Except Failure α) (P : α → Prop) : Prop where
  gives : ∀ a, x = .ok a ↔ P a
  fails : (∀ a, ¬ P a) → ∃ f, x = .error f ∧ f.kind = .internal

theorem settles_of_outcome {x : Except Failure α} {made : Option α} {P : α → Prop}
    (h : outcome x = settled made) (hmade : ∀ a, made = some a ↔ P a) : Settles x P := by
  cases made with
  | none =>
    cases x with
    | ok a => cases h
    | error f =>
      have hkind : f.kind = .internal := Except.error.inj h
      exact ⟨fun a => ⟨nofun, fun hP => nomatch (hmade a).mpr hP⟩, fun _ => ⟨f, rfl, hkind⟩⟩
  | some a =>
    cases x with
    | error f => cases h
    | ok b =>
      obtain rfl : b = a := Except.ok.inj h
      refine ⟨fun c => ?_, fun hnone => absurd ((hmade b).mp rfl) (hnone b)⟩
      rw [← hmade c, Except.ok.injEq, Option.some.injEq]

/-- A short body is taken as its value says. -/
theorem outcome_readReply {read : Reader α} (m : Meaning read) (cause : Failure.Cause) (url : Url)
    {reply : Reply} {j : Json} (h : Answers reply j)
    (hshort : reply.body.length ≤ Reply.greatestBody) :
    outcome (readReply read cause url (some reply)) = settled (m.made greatestDepth j) := by
  obtain ⟨hstatus, text, hbrings, hdenotes⟩ := h
  obtain ⟨hgives, hfails⟩ :=
    readReply_text read cause url hstatus (hbrings.text?_eq_some hshort)
  rw [← m.toOption_decode hdenotes]
  cases hdecode : read.decode text with
  | ok a =>
    rw [hgives a hdecode]
    rfl
  | error e =>
    obtain ⟨f, hf, -, hkind, -⟩ := hfails e hdecode
    rw [hf]
    exact congrArg Except.error hkind

/-- A long body is not taken for anything. -/
theorem Answers.failsUnread {reply : Reply} {j : Json} (h : Answers reply j)
    (hlong : Reply.greatestBody < reply.body.length) (read : Reader α) (cause : Failure.Cause)
    (url : Url) : FailsUnread (readReply read cause url (some reply)) := by
  obtain ⟨hstatus, text, hbrings, -⟩ := h
  exact hbrings.failsUnread hstatus hlong read cause url

theorem outcome_hintRejected (x : Except Failure α) :
    outcome (x.mapError hintRejected) = outcome x := by
  cases x with
  | ok a => rfl
  | error f => exact congrArg Except.error (hintRejected_kind f)

/-! ## Calls -/

section

variable {net : Network} {base : Url} {s : Session} {document : String} {vars : Option Json}
  {wire : Wire} {reply : Reply} {j : Json}

/-- A fetch takes a token from a body that is short enough, if it holds one. -/
theorem fetchToken_byLength (hfinal : (tokenPhase net base wire).final = some reply)
    (h : Answers reply j) :
    ByLength reply (Settles (fetchToken net (.ofBase base) wire).result (HoldsToken j))
      (FailsUnread (fetchToken net (.ofBase base) wire).result) := by
  rw [fetchToken_of_phase, hfinal]
  refine ⟨fun hshort => ?_, fun hlong => h.failsUnread hlong _ _ _⟩
  exact settles_of_outcome (outcome_readReply tokenMeaning.meaning _ _ h hshort)
    fun _ => GraphQl.tokenMeaning_made

/-- A token is fetched if and only if the body is short enough and holds it. -/
theorem fetchToken_eq_ok (hfinal : (tokenPhase net base wire).final = some reply)
    (h : Answers reply j) (token : String) :
    (fetchToken net (.ofBase base) wire).result = .ok token ↔
      reply.body.length ≤ Reply.greatestBody ∧ HoldsToken j token := by
  have hfetch := fetchToken_byLength hfinal h
  by_cases hshort : reply.body.length ≤ Reply.greatestBody
  · rw [(hfetch.short hshort).gives token, and_iff_right hshort]
  · obtain ⟨f, hf, -⟩ := hfetch.long (Nat.lt_of_not_le hshort)
    rw [hf]
    exact ⟨nofun, fun held => absurd held.1 hshort⟩

/-- A query makes of a body what its value says, if the body is short enough. -/
theorem query_byLength {token : String}
    (htoken : (ensureToken net (.ofBase base) s wire).1.result = .ok token)
    (hfinal : (queryPhase net base token document vars
      (ensureToken net (.ofBase base) s wire).1.wire).final = some reply) (h : Answers reply j) :
    ByLength reply
      (outcome (query net (.ofBase base) s document vars wire).1.result =
        settled (GraphQl.Reply.meaning.made greatestDepth j))
      (FailsUnread (query net (.ofBase base) s document vars wire).1.result) := by
  rw [query_of_phase htoken, hfinal, outcome_hintRejected]
  refine ⟨fun hshort => ?_, fun hlong => (h.failsUnread hlong _ _ _).hintRejected⟩
  exact outcome_readReply GraphQl.Reply.meaning.meaning _ _ h hshort

end

theorem fails_of_outcome {x : Except Failure α} (h : outcome x = settled none) :
    ∃ f, x = .error f ∧ f.kind = .internal :=
  (settles_of_outcome h fun _ => ⟨nofun, False.elim⟩).fails fun _ => id

/-! ## Lists and objects -/

/-- Whatever value a body denotes, a token is taken if and only if the value holds it, and a query
fails on what is neither an object nor a list of at most two values. Such a list is taken for the
object that has its values as data and as errors. A body that is too long to be read fails them,
whatever it denotes. -/
theorem a_body_is_an_object_or_a_list_in_its_place (net : Network) (base : Url) (s : Session)
    (document : String) (vars : Option Json) (wire : Wire) :
    (∀ reply j, (tokenPhase net base wire).final = some reply → Answers reply j →
      ByLength reply (Settles (fetchToken net (.ofBase base) wire).result (HoldsToken j))
        (FailsUnread (fetchToken net (.ofBase base) wire).result) ∧
      (s.token = none →
        ByLength reply (Settles (ensureToken net (.ofBase base) s wire).1.result (HoldsToken j))
          (FailsUnread (ensureToken net (.ofBase base) s wire).1.result) ∧
        ∀ token, (ensureToken net (.ofBase base) s wire).2.token = some token ↔
          reply.body.length ≤ Reply.greatestBody ∧ HoldsToken j token)) ∧
    ∀ token reply j, (ensureToken net (.ofBase base) s wire).1.result = .ok token →
      (queryPhase net base token document vars
        (ensureToken net (.ofBase base) s wire).1.wire).final = some reply → Answers reply j →
      ByLength reply
        ((j.kind ≠ .list → j.kind ≠ .object →
          ∃ f, (query net (.ofBase base) s document vars wire).1.result = .error f ∧
            f.kind = .internal) ∧
        ∀ items, j = .arr items →
          (2 < items.length →
            ∃ f, (query net (.ofBase base) s document vars wire).1.result = .error f ∧
              f.kind = .internal) ∧
          ∀ text, items.length ≤ 2 → Denotes text (.obj (["data", "errors"].zip items)) →
            outcome (query net (.ofBase base) s document vars wire).1.result =
              settled (GraphQl.Reply.shape.reader.decode text).toOption)
        (FailsUnread (query net (.ofBase base) s document vars wire).1.result) := by
  refine ⟨fun reply j hfinal hanswers => ?_, fun token reply j htoken hfinal hanswers => ?_⟩
  · have hfetch := fetchToken_byLength hfinal hanswers
    refine ⟨hfetch, fun hs => ?_⟩
    obtain ⟨hresult, hkept⟩ := ensureToken_of_none net base wire hs
    rw [hresult]
    exact ⟨hfetch, fun token => (hkept token).trans (fetchToken_eq_ok hfinal hanswers token)⟩
  · have hlength := query_byLength htoken hfinal hanswers
    refine ⟨fun hshort => ?_, hlength.long⟩
    have hquery := hlength.short hshort
    refine ⟨fun hlist hobject => ?_, ?_⟩
    · rw [Json.ShapeMeaning.made_scalar _ hlist hobject] at hquery
      exact fails_of_outcome hquery
    · rintro items rfl
      rw [GraphQl.Reply.made_list] at hquery
      refine ⟨fun hlong => ?_, fun text hshort hdenotes => ?_⟩
      · rw [if_neg (Nat.not_le_of_lt hlong)] at hquery
        exact fails_of_outcome hquery
      · rw [if_pos hshort] at hquery
        rw [GraphQl.Reply.meaning.meaning.toOption_decode hdenotes]
        exact hquery

/-- A list of one text. -/
def listedToken : Reply := ⟨200, [], "[\"t\"]".toUTF8.data.toList, 0⟩

def emptyList : Reply := ⟨200, [], "[]".toUTF8.data.toList, 0⟩

theorem answers_listedToken : Answers listedToken (.arr [.str "t"]) :=
  ⟨by decide, Json.compact (.arr [.str "t"]), ⟨rfl, rfl, by cbv⟩,
    Json.denotes_compact ⟨1, .arr (List.forall_mem_singleton.mpr (.str "t"))⟩⟩

theorem a_token_in_a_list_is_taken :
    (tokenPhase sampleNetwork sampleBase ⟨[listedToken], []⟩).final = some listedToken ∧
    Answers listedToken (.arr [.str "t"]) ∧
    listedToken.body.length ≤ Reply.greatestBody ∧
    Settles (fetchToken sampleNetwork (.ofBase sampleBase) ⟨[listedToken], []⟩).result
      (HoldsToken (.arr [.str "t"])) := by
  have hfinal : (tokenPhase sampleNetwork sampleBase ⟨[listedToken], []⟩).final =
      some listedToken := by cbv
  have hshort : listedToken.body.length ≤ Reply.greatestBody := by decide
  refine ⟨hfinal, answers_listedToken, hshort, ?_⟩
  exact ((a_body_is_an_object_or_a_list_in_its_place sampleNetwork sampleBase {} "q" none
    ⟨[listedToken], []⟩).1 listedToken _ hfinal answers_listedToken).1.short hshort

theorem answers_emptyList : Answers emptyList (.arr []) :=
  ⟨by decide, Json.compact (.arr []), ⟨rfl, rfl, by cbv⟩,
    Json.denotes_compact ⟨1, .arr (List.forall_mem_nil _)⟩⟩

/-- Neither body is an object, and yet a session keeps the token of the one, and a query is
answered by the other. -/
theorem a_list_passes_for_an_object :
    Answers listedToken (.arr [.str "t"]) ∧ Answers emptyList (.arr []) ∧
    (ensureToken sampleNetwork (.ofBase sampleBase) {} ⟨[listedToken], []⟩).2.token = some "t" ∧
    (query sampleNetwork (.ofBase sampleBase) ⟨some "t", .empty⟩ "q" none
      ⟨[emptyList], []⟩).1.result = .ok ⟨none, none⟩ := by
  refine ⟨answers_listedToken, answers_emptyList, ?_, ?_⟩
  · cbv
  · cbv

/-! ## Nulls -/

/-- A null in a reply to a query stands for a missing member, so that it may be left out. Only
where an error has null places, or the name of a null stands twice, the query fails. So it does
where the body is too long to be read, with nulls or without. -/
theorem a_null_is_a_missing_member_but_for_places (net : Network) (base : Url) (s : Session)
    (document : String) (vars : Option Json) (wire : Wire) :
    ∀ token reply members, (ensureToken net (.ofBase base) s wire).1.result = .ok token →
      (queryPhase net base token document vars
        (ensureToken net (.ofBase base) s wire).1.wire).final = some reply →
      Answers reply (.obj members) →
      ByLength reply
        ((GraphQl.Reply.TakesNulls members →
          ∀ other token' reply', (ensureToken net (.ofBase base) s other).1.result = .ok token' →
            (queryPhase net base token' document vars
              (ensureToken net (.ofBase base) s other).1.wire).final = some reply' →
            Answers reply' (.obj (GraphQl.replyWithoutNulls members)) →
            ByLength reply'
              (outcome (query net (.ofBase base) s document vars wire).1.result =
                outcome (query net (.ofBase base) s document vars other).1.result)
              (FailsUnread (query net (.ofBase base) s document vars other).1.result)) ∧
        (¬ GraphQl.Reply.TakesNulls members →
          ∃ f, (query net (.ofBase base) s document vars wire).1.result = .error f ∧
            f.kind = .internal))
        (FailsUnread (query net (.ofBase base) s document vars wire).1.result) := by
  intro token reply members htoken hfinal hanswers
  have hlength := query_byLength htoken hfinal hanswers
  refine ⟨fun hshort => ?_, hlength.long⟩
  have hquery := hlength.short hshort
  refine ⟨fun htakes other token' reply' htoken' hfinal' hanswers' => ?_, fun hrefused => ?_⟩
  · have hother := query_byLength htoken' hfinal' hanswers'
    rw [GraphQl.Reply.made_withoutNulls htakes, ← hquery] at hother
    exact ⟨fun hshort' => (hother.short hshort').symm, hother.long⟩
  · rw [GraphQl.Reply.made_none hrefused] at hquery
    exact fails_of_outcome hquery

/-- Data that is null. -/
def nullData : Reply := ⟨200, [], "\x7b\"data\":null\x7d".toUTF8.data.toList, 0⟩

/-- No data. -/
def noData : Reply := ⟨200, [], "\x7b\x7d".toUTF8.data.toList, 0⟩

theorem answers_nullData : Answers nullData (.obj [("data", .null)]) :=
  ⟨by decide, Json.compact (.obj [("data", .null)]), ⟨rfl, rfl, by cbv⟩,
    Json.denotes_compact ⟨1, .obj (List.forall_mem_singleton.mpr .null)⟩⟩

theorem answers_noData : Answers noData (.obj []) :=
  ⟨by decide, Json.compact (.obj []), ⟨rfl, rfl, by cbv⟩,
    Json.denotes_compact ⟨1, .obj (List.forall_mem_nil _)⟩⟩

theorem null_data_is_missing_data :
    Answers nullData (.obj [("data", .null)]) ∧ Answers noData (.obj []) ∧
    nullData.body.length ≤ Reply.greatestBody ∧ noData.body.length ≤ Reply.greatestBody ∧
    GraphQl.Reply.TakesNulls [("data", .null)] ∧
    outcome (query sampleNetwork (.ofBase sampleBase) ⟨some "t", .empty⟩ "q" none
      ⟨[nullData], []⟩).1.result =
    outcome (query sampleNetwork (.ofBase sampleBase) ⟨some "t", .empty⟩ "q" none
      ⟨[noData], []⟩).1.result := by
  have htoken : ∀ wire, (ensureToken sampleNetwork (.ofBase sampleBase) ⟨some "t", .empty⟩
      wire).1.result = .ok "t" := fun _ => rfl
  have hnull : (queryPhase sampleNetwork sampleBase "t" "q" none ⟨[nullData], []⟩).final =
      some nullData := by cbv
  have hnone : (queryPhase sampleNetwork sampleBase "t" "q" none ⟨[noData], []⟩).final =
      some noData := by cbv
  have htakes : GraphQl.Reply.TakesNulls [("data", .null)] :=
    ⟨fun _ => rfl, fun h => by simp at h, fun _ h => by simp at h⟩
  have hshort : nullData.body.length ≤ Reply.greatestBody := by decide
  have hshort' : noData.body.length ≤ Reply.greatestBody := by decide
  refine ⟨answers_nullData, answers_noData, hshort, hshort', htakes, ?_⟩
  obtain ⟨hsame, -⟩ := (a_null_is_a_missing_member_but_for_places sampleNetwork sampleBase
    ⟨some "t", .empty⟩ "q" none ⟨[nullData], []⟩ "t" nullData _ (htoken _) hnull
    answers_nullData).short hshort
  exact (hsame htakes ⟨[noData], []⟩ "t" noData (htoken _) hnone answers_noData).short hshort'

/-- An error whose places are null. -/
def nullPlaces : Reply where
  status := 200
  headers := []
  body := "\x7b\"errors\":[\x7b\"message\":\"m\",\"locations\":null\x7d]\x7d".toUTF8.data.toList
  missing := 0

/-- An error without places. -/
def noPlaces : Reply :=
  ⟨200, [], "\x7b\"errors\":[\x7b\"message\":\"m\"\x7d]\x7d".toUTF8.data.toList, 0⟩

/-- The value of its body. -/
def nullPlacesBody : List (String × Json) :=
  [("errors", .arr [.obj [("message", .str "m"), ("locations", .null)]])]

theorem answers_nullPlaces : Answers nullPlaces (.obj nullPlacesBody) := by
  refine ⟨by decide, Json.compact (.obj nullPlacesBody), ⟨rfl, rfl, by cbv⟩,
    Json.denotes_compact ⟨3, ?_⟩⟩
  refine .obj (List.forall_mem_singleton.mpr (.arr (List.forall_mem_singleton.mpr (.obj ?_))))
  exact List.forall_mem_cons.mpr ⟨.str "m", List.forall_mem_singleton.mpr .null⟩

theorem answers_noPlaces : Answers noPlaces (.obj (GraphQl.replyWithoutNulls nullPlacesBody)) := by
  have hbody : GraphQl.replyWithoutNulls nullPlacesBody =
      [("errors", .arr [.obj [("message", .str "m")]])] := rfl
  rw [hbody]
  refine ⟨by decide, Json.compact (.obj [("errors", .arr [.obj [("message", .str "m")]])]),
    ⟨rfl, rfl, by cbv⟩, Json.denotes_compact ⟨3, ?_⟩⟩
  refine .obj (List.forall_mem_singleton.mpr (.arr (List.forall_mem_singleton.mpr (.obj ?_))))
  exact List.forall_mem_singleton.mpr (.str "m")

/-- The reply with the places fails, and the same reply without them is an answer. -/
theorem null_places_are_no_missing_places :
    Answers nullPlaces (.obj nullPlacesBody) ∧
    Answers noPlaces (.obj (GraphQl.replyWithoutNulls nullPlacesBody)) ∧
    outcome (query sampleNetwork (.ofBase sampleBase) ⟨some "t", .empty⟩ "q" none
      ⟨[nullPlaces], []⟩).1.result = .error .internal ∧
    outcome (query sampleNetwork (.ofBase sampleBase) ⟨some "t", .empty⟩ "q" none
      ⟨[noPlaces], []⟩).1.result = .ok ⟨none, some [⟨"m", [], none, none⟩]⟩ := by
  have hfinal : (queryPhase sampleNetwork sampleBase "t" "q" none ⟨[nullPlaces], []⟩).final =
      some nullPlaces := by cbv
  have htoken : (ensureToken sampleNetwork (.ofBase sampleBase) ⟨some "t", .empty⟩
      ⟨[nullPlaces], []⟩).1.result = .ok "t" := rfl
  have hrefused : ¬ GraphQl.Reply.TakesNulls nullPlacesBody := fun h =>
    (h.entries _ List.mem_cons_self _ List.mem_cons_self).locations
      (List.mem_cons_of_mem _ List.mem_cons_self)
  refine ⟨answers_nullPlaces, answers_noPlaces, ?_, ?_⟩
  · rw [(query_byLength htoken hfinal answers_nullPlaces).short (by decide),
      GraphQl.Reply.made_none hrefused]
    rfl
  · cbv

end ResultGateway.Gateway
