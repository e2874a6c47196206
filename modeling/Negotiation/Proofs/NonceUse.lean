/-
# Negotiation.Proofs.NonceUse -- no nonce is answered twice

A connection is used again and again, for handshakes, authentications and requests for
the version, by any clients. Nothing in the connection keeps an old nonce from being
answered; that none is follows from what a single use sends. Its entries in the log are
orderly: every answer stands directly behind the request that granted its nonce, and both
come from one client. Orderly logs stay orderly when they are put one behind the other,
so the log of all uses is orderly too.
-/

import Negotiation.Proofs.HandshakeRuns

namespace Negotiation

variable {α σ : Type}

/-! ## Uses of a connection -/

/-- The forms that an operation over a connection comes in. -/
inductive Form where
  | suspending
  | blocking

/-- A use of a connection. -/
inductive Use where
  | handshake (form : Form) (h : Handshake) (client : ChallengeResponse)
  | authenticate (form : Form) (client : ChallengeResponse)
  | serverVersion (form : Form)

/-- The client that a connection is used by, if it is used by one. -/
def Use.caller? : Use → Option ChallengeResponse
  | handshake _ _ client => some client
  | authenticate _ client => some client
  | serverVersion _ => none

/-- The state that a use leaves a connection in. -/
def Use.after (connection : Connection σ) (s : σ) : Use → σ
  | handshake .suspending h client => ((h.run client.authenticator).run connection s).value.2
  | handshake .blocking h client => (h.runBlocking client.authenticator connection s).value.2
  | authenticate .suspending client => (client.authenticate.run connection s).value.2
  | authenticate .blocking client => (client.authenticateBlocking connection s).value.2
  | serverVersion .suspending => (Negotiation.serverVersion.run connection s).value.2
  | serverVersion .blocking => (serverVersionBlocking connection s).value.2

/-! ## Signed logs -/

/-- A command that went over a connection, with its outcome and the client that sent it. -/
structure Entry where
  caller : Option ChallengeResponse
  command : Command
  outcome : Outcome Document

/-- The same connection, keeping a log that this client signs. -/
def Connection.signed (connection : Connection σ) (caller : Option ChallengeResponse) :
    Connection (σ × List Entry) where
  id s := connection.id s.1
  send command s :=
    let answered := connection.send command s.1
    (answered.1, answered.2, s.2 ++ [⟨caller, command, answered.1⟩])

/-- Uses of one connection in turn, each signing what it sends. -/
def session (connection : Connection σ) : List Use → σ × List Entry → σ × List Entry
  | [], s => s
  | use :: rest, s => session connection rest (use.after (connection.signed use.caller?) s)

/-- The entries that a client adds to a log. -/
def Log.signedBy (caller : Option ChallengeResponse) (log : Log) : List Entry :=
  log.map fun entry => ⟨caller, entry.1, entry.2⟩

/-- A signed log is the recorded one with the name of the client on every entry. -/
theorem Exchange.run_signed (connection : Connection σ) (caller : Option ChallengeResponse)
    (e : Exchange α) (s : σ) (log : List Entry) :
    (e.run (connection.signed caller) (s, log)).value.2 =
      ((e.run connection s).value.2,
        log ++ Log.signedBy caller (e.run connection.recorded (s, [])).value.2.2) := by
  induction e generalizing s log with
  | done result => simp [run, Reported.quiet, Log.signedBy]
  | identify next ih => exact ih _ _ _
  | send command next ih =>
    rcases hsend : connection.send command s with ⟨outcome, after⟩
    have hsigned : (connection.signed caller).send command (s, log) =
        (outcome, after, log ++ [⟨caller, command, outcome⟩]) := by
      simp only [Connection.signed, hsend]
    rw [run, run, run, hsend, hsigned, Connection.send_recorded hsend]
    dsimp only
    rw [ih, log_run_recorded _ _ _ ([] ++ _)]
    simp [Log.signedBy]
  | report event next ih => exact ih _ _

/-! ## Orderly logs -/

/-- An answer that uses the nonce that a request was granted, by one client and hence for
one database. -/
structure Entry.Grants (request : Entry) (client : ChallengeResponse) (nonce : String)
    (answer : Entry) : Prop where
  asker : request.caller = some client
  answerer : answer.caller = some client
  asks : client.IsNonceRequest request.command
  grants : ∃ reply, request.outcome = .ok reply ∧ reply.text? "nonce" = some nonce
  answers : client.IsAnswer nonce answer.command

/-- Every answer in a log stands directly behind the request that granted its nonce. -/
def Orderly (log : List Entry) : Prop :=
  ∀ place answer, log[place]? = some answer → answer.command.name = "authenticate" →
    ∃ before request client nonce, place = before + 1 ∧ log[before]? = some request
      ∧ request.Grants client nonce answer

theorem Orderly.nil : Orderly [] := by
  intro place answer hanswer
  simp at hanswer

theorem Orderly.single {entry : Entry} (h : entry.command.name ≠ "authenticate") :
    Orderly [entry] := by
  intro place answer hanswer hname
  cases place with
  | zero =>
    obtain rfl := Option.some.inj hanswer
    exact absurd hname h
  | succ place => simp at hanswer

theorem Orderly.append {log new : List Entry} (hlog : Orderly log) (hnew : Orderly new) :
    Orderly (log ++ new) := by
  intro place answer hanswer hname
  by_cases hplace : place < log.length
  · rw [List.getElem?_append_left hplace] at hanswer
    obtain ⟨before, request, client, nonce, rfl, hrequest, hgrants⟩ := hlog _ _ hanswer hname
    refine ⟨before, request, client, nonce, rfl, ?_, hgrants⟩
    rwa [List.getElem?_append_left (by omega)]
  · -- in the new part the request is in it as well, as no answer comes first
    have hle : log.length ≤ place := Nat.le_of_not_lt hplace
    rw [List.getElem?_append_right hle] at hanswer
    obtain ⟨before, request, client, nonce, hbefore, hrequest, hgrants⟩ := hnew _ _ hanswer hname
    refine ⟨log.length + before, request, client, nonce, by omega, ?_, hgrants⟩
    rw [List.getElem?_append_right (by omega), Nat.add_sub_cancel_left]
    exact hrequest

/-! ## What one use adds -/

theorem Handshake.name_command_ne (h : Handshake) : h.command.name ≠ "authenticate" := by
  rcases h.name_command with hname | hname <;> rw [hname] <;> decide

theorem ChallengeResponse.Attempt.orderly {client : ChallengeResponse} {id : ConnectionId}
    {log : Log} {result : Outcome Unit} (h : client.Attempt id log result) :
    Orderly (log.signedBy (some client)) := by
  rcases h.commands with
    ⟨first, rfl, hrequest, -⟩ | ⟨⟨command, outcome⟩, second, nonce, rfl, hrequest, hn, hanswer⟩
  · apply Orderly.single
    rw [hrequest.name]
    decide
  · intro place answer hplace hname
    match place with
    | 0 =>
      obtain rfl := Option.some.inj hplace
      rw [hrequest.name] at hname
      exact absurd hname (by decide)
    | 1 =>
      obtain rfl := Option.some.inj hplace
      cases outcome with
      | error e => cases hn
      | ok reply =>
        exact ⟨0, _, client, nonce, rfl, rfl, rfl, rfl, hrequest, ⟨reply, rfl, hn⟩, hanswer⟩
    | _ + 2 => simp [Log.signedBy] at hplace

section Recorded

variable (connection : Connection σ) (s : σ)

theorem ChallengeResponse.orderly_handshake (client : ChallengeResponse) (h : Handshake) :
    Orderly (Log.signedBy (some client)
      ((h.run client.authenticator).run connection.recorded (s, [])).value.2.2) := by
  rcases client.log_handshake id h connection s with
    ⟨e, hlog⟩ | ⟨reply, attempt, id, result, hlog, ha⟩
  · rw [← client.rewriting_id, hlog]
    exact .single h.name_command_ne
  · rw [← client.rewriting_id, hlog]
    exact (Orderly.single h.name_command_ne).append ha.orderly

theorem ChallengeResponse.orderly_authenticate (client : ChallengeResponse) :
    Orderly (Log.signedBy (some client)
      (client.authenticate.run connection.recorded (s, [])).value.2.2) :=
  (client.attempt_authenticate connection s).orderly

theorem orderly_serverVersion :
    Orderly (Log.signedBy none (serverVersion.run connection.recorded (s, [])).value.2.2) := by
  apply Orderly.single
  simp [BuildInfo.command]

end Recorded

/-- One use adds an orderly part to the log, and does to the connection what it does
without a log. -/
theorem Use.after_signed (connection : Connection σ) (use : Use) (s : σ) (log : List Entry) :
    ∃ new, use.after (connection.signed use.caller?) (s, log) =
        (use.after connection s, log ++ new) ∧ Orderly new := by
  cases use with
  | handshake form h client =>
    refine ⟨_, ?_, client.orderly_handshake connection s h⟩
    cases form with
    | suspending => exact Exchange.run_signed ..
    | blocking =>
      simp only [after, ← client.run_handshake]
      exact Exchange.run_signed ..
  | authenticate form client =>
    refine ⟨_, ?_, client.orderly_authenticate connection s⟩
    cases form with
    | suspending => exact Exchange.run_signed ..
    | blocking =>
      simp only [after, ← client.run_authenticate]
      exact Exchange.run_signed ..
  | serverVersion form =>
    refine ⟨_, ?_, orderly_serverVersion connection s⟩
    cases form with
    | suspending => exact Exchange.run_signed ..
    | blocking =>
      simp only [after, ← run_serverVersion]
      exact Exchange.run_signed ..

/-! ## Sessions -/

/-- A session keeps its log orderly, and does to the connection what its uses do without
a log. -/
theorem session_orderly (connection : Connection σ) (uses : List Use) (s : σ) {log : List Entry}
    (h : Orderly log) :
    (session connection uses (s, log)).1 = uses.foldl (fun s use => use.after connection s) s
      ∧ Orderly (session connection uses (s, log)).2 := by
  induction uses generalizing s log with
  | nil => exact ⟨rfl, h⟩
  | cons use rest ih =>
    obtain ⟨new, hafter, hnew⟩ := use.after_signed connection s log
    rw [session, hafter]
    exact ih _ (h.append hnew)

/-- No nonce is answered twice, whatever a connection is used for, by whichever clients,
and whatever it replies. On the log of a session that starts with it:

* the uses do to the connection what they do without a log;
* every answer stands directly behind a request of the same client, and uses the nonce
  that this request was granted;
* a request that serves an answer came after all earlier answers, so none serves two;
* no answer stands behind an outcome that grants no nonce. -/
theorem nonces_used_once (connection : Connection σ) (uses : List Use) (s : σ) :
    let log := (session connection uses (s, [])).2
    (session connection uses (s, [])).1 = uses.foldl (fun s use => use.after connection s) s
      ∧ (∀ place answer, log[place]? = some answer → answer.command.name = "authenticate" →
          ∃ before request client nonce, place = before + 1 ∧ log[before]? = some request
            ∧ request.Grants client nonce answer)
      ∧ (∀ (first second : Nat) (answer later : Entry), first < second →
          log[first]? = some answer → answer.command.name = "authenticate" →
          log[second]? = some later → later.command.name = "authenticate" →
          ∃ between request client nonce, first < between ∧ between < second
            ∧ log[between]? = some request ∧ request.Grants client nonce later)
      ∧ (∀ place request answer, log[place]? = some request →
          Conversation.nonceIn? request.outcome = none →
          log[place + 1]? = some answer → answer.command.name ≠ "authenticate") := by
  intro log
  obtain ⟨hstate, horderly⟩ := session_orderly connection uses s .nil
  refine ⟨hstate, horderly, ?_, ?_⟩
  · intro first second answer later hlt hfirst hname hsecond hname'
    obtain ⟨before, request, client, nonce, rfl, hrequest, hgrants⟩ :=
      horderly second later hsecond hname'
    -- the request is not the first answer, which is no request
    have hne : first ≠ before := by
      rintro rfl
      obtain rfl := Option.some.inj (hfirst.symm.trans hrequest)
      rw [hgrants.asks.name] at hname
      exact absurd hname (by decide)
    exact ⟨before, request, client, nonce, by omega, by omega, hrequest, hgrants⟩
  · intro place request answer hrequest hnone hanswer hname
    obtain ⟨before, request', client, nonce, hplace, hrequest', hgrants⟩ :=
      horderly (place + 1) answer hanswer hname
    obtain rfl : place = before := Nat.succ.inj hplace
    obtain rfl := Option.some.inj (hrequest.symm.trans hrequest')
    obtain ⟨reply, hreply, hn⟩ := hgrants.grants
    rw [hreply] at hnone
    exact absurd (hnone.symm.trans hn) (by simp)

end Negotiation
