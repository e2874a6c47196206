/-
# Negotiation.Proofs.HandshakeRuns -- handshakes and version requests over any connection

Like an authentication, these operations come in a suspending and a blocking form. Run on
a connection, both forms of each do the same. A recorded handshake has the hello in front
of its log, and behind it one authentication attempt if the hello was answered. This holds
of clients that change the hello as well, since an attempt does not depend on the hello.
-/

import Negotiation.BuildInfo
import Negotiation.Handshake
import Negotiation.Proofs.AuthenticationRuns

namespace Negotiation

variable {α σ : Type}

/-! ## The two forms -/

namespace Handshake

/-- A handshake ends with an unanswered hello, and goes on with its authenticator else. -/
theorem run_eq (h : Handshake) (a : Authenticator) (connection : Connection σ) (s : σ) :
    (h.run a).run connection s =
      match connection.send (h.authenticatedCommand a) s with
      | (.error e, after) => .quiet (.error e, after)
      | (.ok reply, after) =>
        let authenticated := a.authenticate.run connection after
        ⟨(authenticated.value.1.map fun _ => reply, authenticated.value.2),
          authenticated.events⟩ := by
  rw [run, Exchange.run]
  cases connection.send (h.authenticatedCommand a) s with
  | mk outcome after =>
    cases outcome with
    | error e => rfl
    | ok reply =>
      dsimp only
      rw [Exchange.run_bind]
      simp only [Exchange.run, Reported.quiet, List.append_nil]

/-- Both forms of a handshake do the same if both forms of its authenticator do. -/
theorem run_run (h : Handshake) (a : Authenticator) (connection : Connection σ)
    (ha : ∀ s, a.authenticate.run connection s = a.authenticateBlocking connection s) (s : σ) :
    (h.run a).run connection s = h.runBlocking a connection s := by
  rw [run_eq, runBlocking]
  rcases connection.send (h.authenticatedCommand a) s with ⟨e | reply, after⟩
  · rfl
  · simp only [ha]

end Handshake

theorem ChallengeResponse.run_handshake (client : ChallengeResponse) (h : Handshake)
    (connection : Connection σ) (s : σ) :
    (h.run client.authenticator).run connection s =
      h.runBlocking client.authenticator connection s :=
  h.run_run client.authenticator connection (client.run_authenticate connection) s

theorem run_serverVersion (connection : Connection σ) (s : σ) :
    serverVersion.run connection s = serverVersionBlocking connection s := by
  rw [serverVersion, serverVersionBlocking, Exchange.run]
  cases connection.send BuildInfo.command s with
  | mk outcome after => cases outcome <;> rfl

/-! ## Logs -/

theorem Connection.send_recorded {connection : Connection σ} {command : Command} {s after : σ}
    {outcome : Outcome Document} (h : connection.send command s = (outcome, after)) (log : Log) :
    connection.recorded.send command (s, log) =
      (outcome, after, log ++ [(command, outcome)]) := by
  simp only [recorded, h]

/-- A recording goes on where the log ends. -/
theorem Exchange.log_run_recorded (connection : Connection σ) (e : Exchange α) (s : σ)
    (log : Log) :
    (e.run connection.recorded (s, log)).value.2.2 =
      log ++ (e.run connection.recorded (s, [])).value.2.2 := by
  induction e generalizing s log with
  | done result => simp [run, Reported.quiet]
  | identify next ih => exact ih _ _ _
  | send command next ih =>
    rcases hsend : connection.send command s with ⟨outcome, after⟩
    have hstep : ∀ log, (run connection.recorded (.send command next) (s, log)).value.2.2 =
        (log ++ [(command, outcome)])
          ++ (run connection.recorded (next outcome) (after, [])).value.2.2 := by
      intro log
      rw [run, Connection.send_recorded hsend]
      exact ih outcome after _
    rw [hstep log, hstep [], List.nil_append, List.append_assoc]
  | report event next ih => exact ih _ _

/-- All that a recording shows is told by the one that starts with an empty log. -/
theorem Exchange.run_recorded_append (connection : Connection σ) (e : Exchange α) (s : σ)
    (log : Log) :
    e.run connection.recorded (s, log) =
      let fresh := e.run connection.recorded (s, [])
      ⟨(fresh.value.1, fresh.value.2.1, log ++ fresh.value.2.2), fresh.events⟩ := by
  obtain ⟨hresult, hstate, hevents⟩ := Exchange.run_recorded connection e s log
  obtain ⟨hresult', hstate', hevents'⟩ := Exchange.run_recorded connection e s []
  have hlog := Exchange.log_run_recorded connection e s log
  rw [← hresult'] at hresult
  rw [← hstate'] at hstate
  rw [← hevents'] at hevents
  dsimp only
  rw [← hresult, ← hstate, ← hevents, ← hlog]

namespace Handshake

variable {h : Handshake} {a : Authenticator} {connection : Connection σ} {s after : σ}

/-- A handshake whose hello fails is over, without an event. -/
theorem run_recorded_of_error {e : Error}
    (hsend : connection.send (h.authenticatedCommand a) s = (.error e, after)) :
    (h.run a).run connection.recorded (s, []) =
      .quiet (.error e, after, [(h.authenticatedCommand a, .error e)]) := by
  rw [run_eq, Connection.send_recorded hsend]
  rfl

/-- A handshake whose hello is answered goes on with one run of its authenticator, in the
state that the hello leaves, and with nothing else. -/
theorem run_recorded_of_ok {reply : Document}
    (hsend : connection.send (h.authenticatedCommand a) s = (.ok reply, after)) :
    (h.run a).run connection.recorded (s, []) =
      let attempt := a.authenticate.run connection.recorded (after, [])
      ⟨(attempt.value.1.map fun _ => reply, attempt.value.2.1,
          (h.authenticatedCommand a, .ok reply) :: attempt.value.2.2), attempt.events⟩ := by
  rw [run_eq, Connection.send_recorded hsend]
  dsimp only
  rw [Exchange.run_recorded_append]
  rfl

end Handshake

/-! ## Clients that rewrite the hello -/

/-- The challenge-response mechanism, changing the hello in any way before it is sent. -/
def ChallengeResponse.rewriting (client : ChallengeResponse) (rewrite : Document → Document) :
    Authenticator :=
  { client.authenticator with customizeHello := rewrite }

/-- The plain client leaves the hello as it is. -/
theorem ChallengeResponse.rewriting_id (client : ChallengeResponse) :
    client.rewriting id = client.authenticator :=
  rfl

/-- What goes over the wire in a handshake: the hello, and one attempt if it is answered. -/
theorem ChallengeResponse.log_handshake (client : ChallengeResponse)
    (rewrite : Document → Document) (h : Handshake) (connection : Connection σ) (s : σ) :
    let a := client.rewriting rewrite
    let log := ((h.run a).run connection.recorded (s, [])).value.2.2
    (∃ e, log = [(h.authenticatedCommand a, .error e)])
      ∨ ∃ reply attempt id result, log = (h.authenticatedCommand a, .ok reply) :: attempt
        ∧ client.Attempt id attempt result := by
  intro a log
  rcases hsend : connection.send (h.authenticatedCommand a) s with ⟨e | reply, after⟩
  · exact Or.inl ⟨e, by simp only [log, Handshake.run_recorded_of_error hsend, Reported.quiet]⟩
  · refine Or.inr ⟨reply, _, _, _, ?_, client.attempt_authenticate connection after⟩
    simp only [log, Handshake.run_recorded_of_ok hsend]
    rfl

/-- A handshake says hello first, in one of its two forms. -/
theorem Handshake.name_command (h : Handshake) :
    h.command.name = "hello" ∨ h.command.name = "isMaster" := by
  simp only [command, helloCommand]
  split <;> simp

namespace ChallengeResponse

variable {client : ChallengeResponse} {id : ConnectionId} {log : Log} {result : Outcome Unit}

theorem Attempt.length_le (h : client.Attempt id log result) : log.length ≤ 2 := by
  rcases h.commands with ⟨_, rfl, -⟩ | ⟨_, _, _, rfl, -⟩ <;> simp

/-- An attempt never says hello. -/
theorem Attempt.name_ne (h : client.Attempt id log result) (hello : Handshake) :
    ∀ entry ∈ log, entry.1.name ≠ hello.command.name := by
  have hnames : ∀ entry ∈ log, entry.1.name = "getnonce" ∨ entry.1.name = "authenticate" := by
    rcases h.commands with ⟨first, rfl, hrequest, -⟩ | ⟨first, second, _, rfl, hrequest, -, hanswer⟩
    · simp [hrequest.name]
    · simp [hrequest.name, hanswer.name]
  intro entry hentry
  rcases hnames entry hentry with hname | hname <;>
    rcases hello.name_command with hhello | hhello <;>
    rw [hname, hhello] <;> decide

end ChallengeResponse

/-! ## Handshakes -/

/-- A handshake over any connection, which may answer each command as it likes, by a client
that may change the hello in any way before it is sent:

* both forms send the same commands, leave the connection in the same state, and give and
  report the same, on the connection itself and on its recording;
* if the hello fails, its error is the result as it is, and nothing else is sent or
  reported;
* if the hello is answered, one authentication follows, in the state that the hello left
  the connection in, and nothing else: its failure is the result if it fails, and else the
  reply to the hello is;
* the hello is not said again, and at most three commands are sent. -/
theorem Handshake.greets_then_authenticates (h : Handshake) (client : ChallengeResponse)
    (rewrite : Document → Document) (connection : Connection σ) (s : σ) :
    let a := client.rewriting rewrite
    let hello := h.authenticatedCommand a
    let handshake := (h.run a).run connection.recorded (s, [])
    let result := handshake.value.1
    let log := handshake.value.2.2
    (h.run a).run connection s = h.runBlocking a connection s
      ∧ handshake = h.runBlocking a connection.recorded (s, [])
      ∧ (result = ((h.run a).run connection s).value.1
          ∧ handshake.value.2.1 = ((h.run a).run connection s).value.2
          ∧ handshake.events = ((h.run a).run connection s).events)
      ∧ (∀ e after, connection.send hello s = (.error e, after) →
          result = .error e ∧ log = [(hello, .error e)] ∧ handshake.value.2.1 = after
            ∧ handshake.events = [])
      ∧ (∀ reply after, connection.send hello s = (.ok reply, after) →
          let attempt := a.authenticate.run connection.recorded (after, [])
          log = (hello, .ok reply) :: attempt.value.2.2
            ∧ handshake.value.2.1 = attempt.value.2.1
            ∧ handshake.events = attempt.events
            ∧ (∀ e, attempt.value.1 = .error e → result = .error e ∧ e.isAuthentication = true)
            ∧ (attempt.value.1 = .ok () → result = .ok reply))
      ∧ (∀ entry ∈ log.tail, entry.1.name ≠ hello.name)
      ∧ log.length ≤ 3 := by
  intro a hello handshake result log
  have hlog := client.log_handshake rewrite h connection s
  refine ⟨h.run_run a connection (client.run_authenticate connection) s,
    h.run_run a connection.recorded (client.run_authenticate connection.recorded) (s, []),
    Exchange.run_recorded connection (h.run a) s [], ?_, ?_, ?_, ?_⟩
  · intro e after hsend
    have hrun : handshake = _ := run_recorded_of_error hsend
    exact ⟨congrArg (·.value.1) hrun, congrArg (·.value.2.2) hrun,
      congrArg (·.value.2.1) hrun, congrArg (·.events) hrun⟩
  · intro reply after hsend attempt
    have hrun : handshake = _ := run_recorded_of_ok hsend
    have hattempt : client.Attempt (connection.id after) attempt.value.2.2 attempt.value.1 :=
      client.attempt_authenticate connection after
    refine ⟨congrArg (·.value.2.2) hrun, congrArg (·.value.2.1) hrun,
      congrArg (·.events) hrun, ?_, ?_⟩
    · intro e he
      rw [he] at hattempt
      obtain ⟨cause, hfailure, -⟩ := hattempt.failure
      refine ⟨?_, hfailure.isAuthentication⟩
      calc result = attempt.value.1.map fun _ => reply := congrArg (·.value.1) hrun
        _ = .error e := by rw [he]; rfl
    · intro hok
      calc result = attempt.value.1.map fun _ => reply := congrArg (·.value.1) hrun
        _ = .ok reply := by rw [hok]; rfl
  · rcases hlog with ⟨e, hlog⟩ | ⟨reply, attempt, id, result, hlog, hattempt⟩
    · simp only [log, handshake, a, hlog, List.tail_cons, List.not_mem_nil, false_implies,
        implies_true]
    · simp only [log, handshake, a, hlog, List.tail_cons]
      exact hattempt.name_ne h
  · rcases hlog with ⟨e, hlog⟩ | ⟨reply, attempt, id, result, hlog, hattempt⟩
    · simp only [log, handshake, a, hlog, List.length_singleton]
      decide
    · simp only [log, handshake, a, hlog, List.length_cons]
      exact Nat.succ_le_succ hattempt.length_le

end Negotiation
