/-
# Negotiation.Proofs.AuthenticationRuns -- one attempt over any connection

A connection is free in what it answers, so a run is told by what went over the wire.
The recorded connection keeps a log of the commands with their outcomes and is else
the same connection. On the log, an attempt is one round trip or two: the loop that
drives a conversation has no bound of its own and ends because the conversation takes
no more than two outcomes.
-/

import Negotiation.ChallengeResponse.Authenticate
import Negotiation.Proofs.ConversationRuns

namespace Negotiation

/-! ## Recorded connections -/

/-- What went over a connection: the commands with their outcomes, first to last. -/
abbrev Log := List (Command × Outcome Document)

namespace Connection

variable {σ : Type}

/-- The same connection, keeping a log. -/
def recorded (connection : Connection σ) : Connection (σ × Log) where
  id s := connection.id s.1
  send command s :=
    let answered := connection.send command s.1
    (answered.1, answered.2, s.2 ++ [(command, answered.1)])

end Connection

namespace Exchange

variable {α σ : Type}

/-- Recording changes nothing that an operation or its connection can tell. -/
theorem run_recorded (connection : Connection σ) (e : Exchange α) (s : σ) (log : Log) :
    (e.run connection.recorded (s, log)).value.1 = (e.run connection s).value.1
      ∧ (e.run connection.recorded (s, log)).value.2.1 = (e.run connection s).value.2
      ∧ (e.run connection.recorded (s, log)).events = (e.run connection s).events := by
  induction e generalizing s log with
  | done result => exact ⟨rfl, rfl, rfl⟩
  | identify next ih => exact ih _ _ _
  | send command next ih => exact ih _ _ _
  | report event next ih =>
    obtain ⟨hresult, hstate, hevents⟩ := ih s log
    exact ⟨hresult, hstate, congrArg (event :: ·) hevents⟩

end Exchange

/-! ## The two loops -/

namespace Conversation

variable {σ : Type}

/-- One round of the suspending loop, run on a connection. -/
theorem run_exchange_eq (connection : Connection σ) (c : Conversation) (command : Command) (s : σ) :
    (c.exchange command).run connection s =
      match c.handle (connection.send command s).1 with
      | (.ok (.send next), after) =>
        (after.exchange next).run connection (connection.send command s).2
      | (.ok .done, _) => .quiet (.ok (), (connection.send command s).2)
      | (.error e, _) => .quiet (.error e, (connection.send command s).2) := by
  rw [exchange, Exchange.run]
  dsimp only
  split <;> rename_i h <;> rw [h] <;> rfl

/-- One round of the blocking loop. -/
theorem exchangeBlocking_eq (connection : Connection σ) (c : Conversation) (command : Command)
    (s : σ) :
    c.exchangeBlocking connection command s =
      match c.handle (connection.send command s).1 with
      | (.ok (.send next), after) =>
        after.exchangeBlocking connection next (connection.send command s).2
      | (.ok .done, _) => (.ok (), (connection.send command s).2)
      | (.error e, _) => (.error e, (connection.send command s).2) := by
  rw [exchangeBlocking]
  split <;> rename_i h <;> rw [h]

/-- The suspending loop, run on a connection, does what the blocking loop does. -/
theorem run_exchange (connection : Connection σ) (c : Conversation) (command : Command) (s : σ) :
    (c.exchange command).run connection s =
      .quiet (c.exchangeBlocking connection command s) := by
  fun_induction c.exchangeBlocking connection command s with
  | case1 c command s answered next after h ih =>
    rw [run_exchange_eq, h]
    exact ih
  | case2 c command s answered after h => rw [run_exchange_eq, h]
  | case3 c command s answered e after h => rw [run_exchange_eq, h]

end Conversation

namespace ChallengeResponse

variable {σ : Type}

/-- Both forms of authentication do the same on every connection. -/
theorem run_authenticate (client : ChallengeResponse) (connection : Connection σ) (s : σ) :
    client.authenticate.run connection s = client.authenticateBlocking connection s := by
  simp only [authenticate, authenticateBlocking, Exchange.run, Exchange.run_bind,
    Conversation.run_exchange]
  rfl

/-! ## Attempts -/

open Conversation (nonceIn?)

/-- How an attempt goes: what goes over the wire, and how it ends. -/
inductive Attempt (client : ChallengeResponse) (connection : ConnectionId) :
    Log → Outcome Unit → Prop
  /-- The request for a nonce fails. -/
  | unanswered {request cause e} : client.IsNonceRequest request →
      client.IsFailure (some connection) cause e →
      Attempt client connection [(request, .error cause)] (.error e)
  /-- The reply grants no nonce. -/
  | refused {request reply e} : client.IsNonceRequest request →
      reply.text? "nonce" = none → client.IsFailure (some connection) .noNonce e →
      Attempt client connection [(request, .ok reply)] (.error e)
  /-- The answer to the nonce fails. -/
  | rejected {request reply nonce answer cause e} : client.IsNonceRequest request →
      reply.text? "nonce" = some nonce → client.IsAnswer nonce answer →
      client.IsFailure (some connection) cause e →
      Attempt client connection [(request, .ok reply), (answer, .error cause)] (.error e)
  /-- The answer to the nonce is accepted. -/
  | accepted {request reply nonce answer verdict} : client.IsNonceRequest request →
      reply.text? "nonce" = some nonce → client.IsAnswer nonce answer →
      Attempt client connection [(request, .ok reply), (answer, .ok verdict)] (.ok ())

/-- The loop on a fresh conversation is an attempt, on any connection. -/
theorem attempt_exchangeBlocking (client : ChallengeResponse) (id : ConnectionId)
    (connection : Connection σ) (s : σ) :
    let conversation := client.conversation (some id)
    let finished := conversation.exchangeBlocking connection.recorded conversation.firstCommand
      (s, [])
    client.Attempt id finished.2.2 finished.1 := by
  intro conversation finished
  have hc : conversation.phase = .awaitingNonce := rfl
  have hrequest := client.isNonceRequest_nonceCommand
  have hfailure : ∀ cause, client.IsFailure (some id) cause (conversation.failure cause) :=
    conversation.isFailure_failure
  simp only [finished]
  -- the first round: the request and its outcome
  rw [Conversation.exchangeBlocking_eq]
  dsimp only [Connection.recorded]
  cases hfirst : (connection.send conversation.firstCommand s).1 with
  | error cause =>
    rw [Conversation.handle_no_reply hc]
    exact .unanswered hrequest (hfailure cause)
  | ok reply =>
    cases hn : reply.text? "nonce" with
    | none =>
      rw [Conversation.handle_no_nonce hc hn]
      exact .refused hrequest hn (hfailure .noNonce)
    | some nonce =>
      rw [Conversation.handle_nonce hc hn]
      have hanswer : client.IsAnswer nonce (conversation.client.answerCommand nonce) :=
        client.isAnswer_answerCommand nonce
      have hverdict : (conversation.enter .awaitingVerdict).phase = .awaitingVerdict := rfl
      dsimp only
      -- the second round: the answer to the nonce, and no third one
      rw [Conversation.exchangeBlocking_eq]
      dsimp only
      cases hsecond : (connection.send (conversation.client.answerCommand nonce)
          (connection.send conversation.firstCommand s).2).1 with
      | error cause =>
        rw [Conversation.handle_rejected hverdict]
        exact .rejected hrequest hn hanswer (hfailure cause)
      | ok verdict =>
        rw [Conversation.handle_accepted hverdict]
        exact .accepted hrequest hn hanswer

/-- A run of the authentication on any connection is an attempt. -/
theorem attempt_authenticate (client : ChallengeResponse) (connection : Connection σ) (s : σ) :
    let attempt := client.authenticate.run connection.recorded (s, [])
    client.Attempt (connection.id s) attempt.value.2.2 attempt.value.1 := by
  intro attempt
  simp only [attempt, run_authenticate]
  exact client.attempt_exchangeBlocking (connection.id s) connection s

/-! ## What an attempt amounts to -/

section Attempt

variable {client : ChallengeResponse} {id : ConnectionId} {log : Log} {result : Outcome Unit}

/-- One command or two: the nonce is asked for, and answered only if there is one. -/
theorem Attempt.commands (h : client.Attempt id log result) :
    (∃ first, log = [first] ∧ client.IsNonceRequest first.1 ∧ nonceIn? first.2 = none)
      ∨ ∃ first second nonce, log = [first, second] ∧ client.IsNonceRequest first.1
        ∧ nonceIn? first.2 = some nonce ∧ client.IsAnswer nonce second.1 := by
  cases h with
  | unanswered hrequest _ => exact Or.inl ⟨_, rfl, hrequest, rfl⟩
  | refused hrequest hn _ => exact Or.inl ⟨_, rfl, hrequest, hn⟩
  | rejected hrequest hn hanswer _ => exact Or.inr ⟨_, _, _, rfl, hrequest, hn, hanswer⟩
  | accepted hrequest hn hanswer => exact Or.inr ⟨_, _, _, rfl, hrequest, hn, hanswer⟩

/-- An attempt succeeds exactly if a nonce was granted and its answer accepted. -/
theorem Attempt.ok_iff (h : client.Attempt id log result) :
    result = .ok () ↔ ∃ first second nonce verdict, log = [first, second]
      ∧ nonceIn? first.2 = some nonce ∧ second.2 = .ok verdict := by
  constructor
  · rintro rfl
    cases h with
    | accepted _ hn _ => exact ⟨_, _, _, _, rfl, hn, rfl⟩
  · rintro ⟨first, second, nonce, verdict, rfl, _, hverdict⟩
    cases h with
    | rejected _ _ _ _ => cases hverdict
    | accepted _ _ _ => rfl

/-- A failed attempt names the connection and keeps the error of the outcome that
failed; a reply without a nonce is complained about. -/
theorem Attempt.failure {e : Error} (h : client.Attempt id log (.error e)) :
    ∃ cause, client.IsFailure (some id) cause e
      ∧ ((∃ command, log.getLast? = some (command, .error cause))
        ∨ cause = .noNonce ∧ ∃ command reply, log = [(command, .ok reply)]
          ∧ reply.text? "nonce" = none) := by
  cases h with
  | unanswered _ hfailure => exact ⟨_, hfailure, Or.inl ⟨_, rfl⟩⟩
  | refused _ hn hfailure => exact ⟨_, hfailure, Or.inr ⟨rfl, _, _, rfl, hn⟩⟩
  | rejected _ _ _ hfailure => exact ⟨_, hfailure, Or.inl ⟨_, rfl⟩⟩

end Attempt

theorem IsFailure.not_internal {client : ChallengeResponse} {connection : Option ConnectionId}
    {cause e : Error} (h : client.IsFailure connection cause e) (problem : InternalProblem) :
    e.fault ≠ .internal problem := by
  intro hfault
  have hkind := h.isAuthentication
  rw [Error.isAuthentication, hfault] at hkind
  cases hkind

/-- Authentication over any connection, which may answer each command as it likes:

* both forms send the same commands, leave the connection in the same state, and give
  and report the same, on the connection itself and on its recording;
* at most two commands are sent, the answer only to a nonce that was granted;
* the result is success exactly if the answer was accepted, and else a failure with
  the error of the outcome that failed as its cause;
* the loop never hands a reply to a conversation that is over. -/
theorem authenticates (client : ChallengeResponse) (connection : Connection σ) (s : σ) :
    let attempt := client.authenticate.run connection.recorded (s, [])
    let result := attempt.value.1
    let log := attempt.value.2.2
    client.authenticate.run connection s = client.authenticateBlocking connection s
      ∧ attempt = client.authenticateBlocking connection.recorded (s, [])
      ∧ (result = (client.authenticate.run connection s).value.1
          ∧ attempt.value.2.1 = (client.authenticate.run connection s).value.2
          ∧ attempt.events = (client.authenticate.run connection s).events)
      ∧ ((∃ first, log = [first] ∧ client.IsNonceRequest first.1 ∧ nonceIn? first.2 = none)
        ∨ ∃ first second nonce, log = [first, second] ∧ client.IsNonceRequest first.1
          ∧ nonceIn? first.2 = some nonce ∧ client.IsAnswer nonce second.1)
      ∧ (result = .ok () ↔ ∃ first second nonce verdict, log = [first, second]
          ∧ nonceIn? first.2 = some nonce ∧ second.2 = .ok verdict)
      ∧ (∀ e, result = .error e →
          (∃ cause, client.IsFailure (some (connection.id s)) cause e
            ∧ ((∃ command, log.getLast? = some (command, .error cause))
              ∨ cause = .noNonce ∧ ∃ command reply, log = [(command, .ok reply)]
                ∧ reply.text? "nonce" = none))
          ∧ ∀ problem, e.fault ≠ .internal problem) := by
  intro attempt result log
  have hattempt : client.Attempt (connection.id s) log result := by
    simp only [log, result, attempt, run_authenticate]
    exact client.attempt_exchangeBlocking (connection.id s) connection s
  refine ⟨client.run_authenticate connection s, client.run_authenticate _ _,
    Exchange.run_recorded connection client.authenticate s [], hattempt.commands,
    hattempt.ok_iff, ?_⟩
  intro e he
  rw [he] at hattempt
  obtain ⟨cause, hfailure, hcause⟩ := hattempt.failure
  exact ⟨⟨cause, hfailure, hcause⟩, hfailure.not_internal⟩

end ChallengeResponse

end Negotiation
