-- Where the status of a failure comes from. Only a reply has one: a failure
-- before the first request, or after the last reply, has none, and one of a
-- call has that of a reply it got.
import ResultGateway.Proofs.CommandLine.Origins
import ResultGateway.Proofs.Gateway.Calls

namespace ResultGateway.CommandLine

open Http (Network Reply Wire)
open Gateway (Endpoints Runner Session)
open Result (Keys)

variable {α β : Type} {replies : List Reply}

/-! ## Statuses -/

/-- A computation that fails with the status of a reply, if with any. -/
def StatusFrom (replies : List Reply) (x : Except Failure α) : Prop :=
  ∀ f status, x = .error f → f.status = some status → ∃ reply ∈ replies, reply.status = status

theorem statusFrom_ok (a : α) : StatusFrom replies (.ok a) := fun _ _ h => nomatch h

theorem statusFrom_error {f : Failure} (h : f.status = none) :
    StatusFrom replies (.error f : Except Failure α) := by
  rintro _ status ⟨⟩ hstatus
  rw [h] at hstatus
  cases hstatus

theorem StatusFrom.error {x : Except Failure α} {f : Failure} (h : StatusFrom replies x)
    (hx : x = .error f) : StatusFrom replies (.error f : Except Failure β) := by
  rintro _ status ⟨⟩ hstatus
  exact h f status hx hstatus

theorem StatusFrom.subset {x : Except Failure α} {more : List Reply} (h : StatusFrom replies x)
    (hmore : ∀ reply ∈ replies, reply ∈ more) : StatusFrom more x := by
  intro f status hx hstatus
  obtain ⟨reply, hreply, heq⟩ := h f status hx hstatus
  exact ⟨reply, hmore reply hreply, heq⟩

theorem FailsBy.statusFrom {P : Failure → Prop} {x : Except Failure α} (h : FailsBy P x)
    (hP : ∀ f, P f → f.status = none) : StatusFrom replies x := by
  intro f status hx hstatus
  rw [hP f (h f hx)] at hstatus
  cases hstatus

/-! ## Calls -/

theorem statusFrom_readReply (read : Json.Reader α) (cause : Failure.Cause) (url : Url)
    {final : Option Reply} (h : ∀ reply, final = some reply → reply ∈ replies) :
    StatusFrom replies (Gateway.readReply read cause url final) := by
  unfold Gateway.readReply
  split
  · exact statusFrom_error rfl
  · rename_i reply
    split
    · rintro _ status ⟨⟩ hstatus
      cases hstatus
      exact ⟨reply, h reply rfl, rfl⟩
    · split
      · exact statusFrom_error rfl
      · split
        · exact statusFrom_ok _
        · exact statusFrom_error rfl

variable (net : Network) (e : Endpoints) (s : Session) (wire : Wire)

theorem statusFrom_fetchToken :
    StatusFrom wire.replies (Gateway.fetchToken net e wire).result := by
  rw [Gateway.fetchToken_result]
  exact statusFrom_readReply _ _ _ fun _ h => Http.mem_replies_of_send h

theorem statusFrom_postQuery (token document : String) (vars : Option Json) :
    StatusFrom wire.replies (Gateway.postQuery net e token document vars wire).result := by
  intro f status hf hstatus
  obtain ⟨g, hg, rfl⟩ := Gateway.postQuery_error net e wire token document vars hf
  refine statusFrom_readReply GraphQl.Reply.shape.reader _ e.query
    (fun _ h => Http.mem_replies_of_send h) g status hg ?_
  rwa [Gateway.hintRejected_status] at hstatus

theorem ensureToken_replies :
    ∀ reply ∈ (Gateway.ensureToken net e s wire).1.wire.replies, reply ∈ wire.replies := by
  have hfetch : (Gateway.fetchToken net e wire).wire.replies <:+ wire.replies := by
    rw [Gateway.fetchToken_wire]
    exact Http.send_replies net _ wire
  rcases Gateway.ensureToken_cases net e s wire with ⟨_, -, heq⟩ | ⟨-, _, -, heq⟩ | ⟨-, _, -, heq⟩
  · rw [heq]
    exact fun _ h => h
  · rw [heq]
    exact fun _ h => hfetch.subset h
  · rw [heq]
    exact fun _ h => hfetch.subset h

theorem statusFrom_ensureToken :
    StatusFrom wire.replies (Gateway.ensureToken net e s wire).1.result := by
  rcases Gateway.ensureToken_cases net e s wire with ⟨_, -, heq⟩ | ⟨-, _, -, heq⟩ | ⟨-, _, -, heq⟩
  · rw [heq]
    exact statusFrom_ok _
  · rw [heq]
    exact statusFrom_fetchToken net e wire
  · rw [heq]
    exact statusFrom_fetchToken net e wire

theorem statusFrom_query (document : String) (vars : Option Json) :
    StatusFrom wire.replies (Gateway.query net e s document vars wire).1.result := by
  rcases Gateway.query_cases net e s wire document vars with
    ⟨f, hf, heq, -⟩ | ⟨token, -, heq, -⟩
  · rw [heq]
    exact (statusFrom_ensureToken net e s wire).error hf
  · rw [heq]
    exact (statusFrom_postQuery net e _ token document vars).subset
      (ensureToken_replies net e s wire)

theorem statusFrom_run (r : Runner) (code : String) (graph : Json) (port : Option Nat) :
    StatusFrom wire.replies (r.run net code graph port wire).result := by
  cases hurl : r.url port with
  | error f =>
    unfold Runner.run
    rw [hurl]
    exact statusFrom_error (own_runnerUrl r port f hurl).status
  | ok url =>
    rw [Gateway.run_result net wire r code graph port hurl]
    exact statusFrom_readReply _ _ _ fun _ h => Http.mem_replies_of_send h

/-! ## Commands -/

theorem statusFrom_executeQuery (w : World) (apiUrl : Option String) (document : Source)
    (vars field : Option String) :
    StatusFrom w.replies (executeQuery w apiUrl document vars field).result := by
  unfold executeQuery
  split
  · rename_i f hf
    exact statusFrom_error (local_planQuery w apiUrl document vars f hf).status
  · rename_i plan _
    dsimp only
    split
    · rename_i f hf
      exact (statusFrom_query w.network plan.endpoints {} ⟨w.replies, []⟩ plan.document
        plan.vars).error hf
    · exact ((own_loadOptional _ field w.ids).map _).statusFrom fun _ => IsOwn.status

theorem statusFrom_executeRun (w : World) (apiUrl : Option String) (code graph : Source)
    (port : Option Nat) (host : String) :
    StatusFrom w.replies (executeRun w apiUrl code graph port host).result := by
  unfold executeRun
  split
  · rename_i f hf
    exact statusFrom_error (local_planRun w apiUrl code graph port host f hf).status
  · rename_i plan _
    exact statusFrom_run w.network ⟨w.replies, []⟩ plan.runner plan.code plan.graph none

theorem statusFrom_executeResults (w : World) (path : String) (keys : Option Keys) :
    StatusFrom w.replies (executeResults w path keys).result :=
  (local_executeResults w path keys).statusFrom fun _ => IsLocal.status

end ResultGateway.CommandLine
