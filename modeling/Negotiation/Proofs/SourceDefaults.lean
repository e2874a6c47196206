/-
# Negotiation.Proofs.SourceDefaults -- the database that a client authenticates against

The users of the challenge-response mechanism are kept in `admin` unless the credential names
another database. The default that a client takes is not the one of the mechanism it runs,
though, but the one of the mechanism that its credential names, and the two can differ: a
credential that names no database, and a mechanism whose users are kept outside, sends the
client to `$external`. For all other credentials the default is the expected one. Whichever
database it is, the client names it in all that it sends and says.
-/

import Negotiation.Proofs.ClientSetup
import Negotiation.Proofs.ReportedEvents
import Negotiation.Proofs.WireFields

namespace Negotiation

/-! ## Sources of credentials -/

/-- The credential names no database, and a mechanism that does not keep passwords. -/
def Credential.IsMisdirected (c : Credential) : Prop :=
  c.source = none ∧ ∃ m, c.mechanism = some m
    ∧ m ∉ [Mechanism.challengeResponse, .scramSha1, .scramSha256]

theorem Mechanism.defaultSource_of_mem {m : Mechanism}
    (h : m ∈ [Mechanism.challengeResponse, .scramSha1, .scramSha256]) :
    m.defaultSource = "admin" := by
  cases m with
  | challengeResponse | scramSha1 | scramSha256 => rfl
  | _ => exact absurd h (by decide)

theorem Mechanism.defaultSource_of_notMem {m : Mechanism}
    (h : m ∉ [Mechanism.challengeResponse, .scramSha1, .scramSha256]) :
    m.defaultSource = "$external" := by
  cases m with
  | challengeResponse | scramSha1 | scramSha256 => exact absurd (by decide) h
  | _ => rfl

theorem Credential.resolvedSource_of_isMisdirected {c : Credential} (h : c.IsMisdirected) :
    c.resolvedSource = "$external" := by
  obtain ⟨hsource, m, hm, hother⟩ := h
  simp only [resolvedSource, hsource, hm]
  exact Mechanism.defaultSource_of_notMem hother

theorem Credential.resolvedSource_of_not_isMisdirected {c : Credential}
    (h : ¬c.IsMisdirected) : c.resolvedSource = c.source.getD "admin" := by
  unfold resolvedSource
  split
  · rename_i source hsource
    rw [hsource, Option.getD_some]
  · rename_i hsource
    rw [hsource, Option.getD_none]
    split
    · rename_i m hm
      exact Mechanism.defaultSource_of_mem
        (Decidable.not_not.mp fun hother => h ⟨hsource, m, hm, hother⟩)
    · rfl

/-! ## What names a database -/

/-- The command is for this database, and says so on the wire. -/
structure Command.IsFor (command : Command) (database : String) : Prop where
  target : command.database = database
  wire : command.wire.get? "$db" = some (.string database)

theorem Command.isFor_of_database {command : Command} {database : String}
    (h : command.database = database) : command.IsFor database := by
  subst h
  exact ⟨rfl, Command.get?_wire_of_mem (List.mem_cons_self ..)⟩

/-- The error is about a user of this database. -/
def Error.IsAbout (e : Error) (database : String) : Prop :=
  ∃ username, e.fault.message? = some
    ("Unable to authenticate username '" ++ username ++ "' on database '" ++ database ++ "'.")

theorem ChallengeResponse.IsFailure.isAbout {client : ChallengeResponse}
    {connection : Option ConnectionId} {cause e : Error}
    (h : client.IsFailure connection cause e) : e.IsAbout client.source :=
  ⟨client.username, h.message⟩

/-! ## Conversations -/

namespace Conversation

/-- What a call gives back names this database, if it names any: a command is for it, and a
failure is about it. That a conversation is over has nothing to do with a database. -/
inductive Answer.Names (database : String) : Answer → Prop
  | command {command : Command} : command.IsFor database → Names database (.command command)
  | send {command : Command} : command.IsFor database →
      Names database (.step (.ok (.send command)))
  | done : Names database (.step (.ok .done))
  | failed {e : Error} : e.IsAbout database → Names database (.step (.error e))
  | over : Names database (.step (.error (Fault.internal .conversationOver)))

variable (c : Conversation)

theorem names_handle (reply : Outcome Document) :
    (Answer.step (c.handle reply).1).Names c.client.source := by
  have hfailure : ∀ cause, (c.failure cause).IsAbout c.client.source :=
    fun cause => (c.isFailure_failure cause).isAbout
  unfold handle
  split
  · split
    · exact .send (Command.isFor_of_database rfl)
    · exact .failed (hfailure _)
  · split
    · exact .done
    · exact .failed (hfailure _)
  · exact .over
  · exact .over

theorem client_handle (reply : Outcome Document) : (c.handle reply).2.client = c.client := by
  unfold handle
  split
  · split <;> rfl
  · split <;> rfl
  · rfl
  · rfl

theorem names_call (call : Call) : (c.call call).1.Names c.client.source := by
  cases call with
  | firstCommand => exact .command (Command.isFor_of_database rfl)
  | handle reply => exact c.names_handle reply

theorem client_call (call : Call) : (c.call call).2.client = c.client := by
  cases call with
  | firstCommand => rfl
  | handle reply => exact c.client_handle reply

/-- All that a run gives back names the database of the client. -/
theorem names_answers (calls : List Call) :
    ∀ answer ∈ c.answers calls, answer.Names c.client.source := by
  induction calls generalizing c with
  | nil => exact nofun
  | cons first rest ih =>
    intro answer hanswer
    rcases List.mem_cons.mp hanswer with rfl | hrest
    · exact c.names_call first
    · rw [← c.client_call first]
      exact ih _ answer hrest

end Conversation

/-! ## Authentications -/

namespace ChallengeResponse

variable {σ : Type} {client : ChallengeResponse} {id : ConnectionId}

theorem Attempt.isFor {log : Log} {result : Outcome Unit} (h : client.Attempt id log result) :
    ∀ entry ∈ log, entry.1.IsFor client.source := by
  rcases h.commands with ⟨first, rfl, hrequest, -⟩ | ⟨first, second, _, rfl, hrequest, -, hanswer⟩
  · simpa using Command.isFor_of_database hrequest.database
  · simpa using ⟨Command.isFor_of_database hrequest.database,
      Command.isFor_of_database hanswer.database⟩

theorem source_event (client : ChallengeResponse) (w : Wording) (id : ConnectionId)
    (stage : Stage) :
    ((client.event id stage).details w).lookup "source" = some client.source := by
  rw [details_event]
  obtain ⟨number, serverId, address⟩ := id
  cases serverId <;> rfl

theorem source_of_mem_events (connection : Connection σ) (s : σ) :
    ∀ event ∈ (client.authenticate.run connection s).events,
      ∀ w, (event.details w).lookup "source" = some client.source := by
  rw [client.events_authenticate connection s]
  simp [source_event]

end ChallengeResponse

/-- The database of a client that is set up for a credential, and where it is named.

* It is the one that the credential names, or `admin` if it names none, exactly if the
  credential does not misdirect the client: it names a database, or no mechanism, or one that
  keeps passwords. Otherwise it is `$external`.
* In every run of calls on a conversation, all commands are for the database of the client,
  and all failures are about it.
* In every authentication, over any connection and in either form, all commands that are sent
  are for the database of the client, and a failure and both events are about it. -/
theorem takes_credential_source {c : Credential} {client : ChallengeResponse}
    (h : ChallengeResponse.IsSetUpFor c client) :
    (client.source = c.source.getD "admin" ↔ ¬c.IsMisdirected)
    ∧ (c.IsMisdirected → client.source = "$external")
    ∧ (∀ (connection : Option ConnectionId) (calls : List Conversation.Call),
      ∀ answer ∈ (client.conversation connection).answers calls, answer.Names client.source)
    ∧ (∀ {σ : Type} (connection : Connection σ) (s : σ),
      let attempt := client.authenticate.run connection.recorded (s, [])
      attempt = client.authenticateBlocking connection.recorded (s, [])
        ∧ (∀ entry ∈ attempt.value.2.2, entry.1.IsFor client.source)
        ∧ (∀ e, attempt.value.1 = .error e → e.IsAbout client.source)
        ∧ (∀ event ∈ attempt.events,
          ∀ w, (event.details w).lookup "source" = some client.source)) := by
  have hsource : client.source = c.resolvedSource := h.isMadeFrom.2.source
  refine ⟨⟨?_, ?_⟩, ?_, ?_, ?_⟩
  · intro hexpected hmisdirected
    -- no database is named, so `admin` would be expected
    rw [hsource, Credential.resolvedSource_of_isMisdirected hmisdirected, hmisdirected.1]
      at hexpected
    exact absurd hexpected (by decide)
  · intro hdirected
    rw [hsource, Credential.resolvedSource_of_not_isMisdirected hdirected]
  · intro hmisdirected
    rw [hsource, Credential.resolvedSource_of_isMisdirected hmisdirected]
  · intro connection calls
    exact (client.conversation connection).names_answers calls
  · intro σ connection s attempt
    have hattempt : client.Attempt (connection.id s) attempt.value.2.2 attempt.value.1 :=
      client.attempt_authenticate connection s
    refine ⟨client.run_authenticate connection.recorded (s, []), hattempt.isFor, ?_,
      ChallengeResponse.source_of_mem_events connection.recorded (s, [])⟩
    intro e he
    rw [he] at hattempt
    obtain ⟨cause, hfailure, -⟩ := hattempt.failure
    exact hfailure.isAbout

/-- Naming a mechanism that does not keep passwords does no harm to a credential that names
a database. -/
theorem plain_credential_keeps_database :
    let c : Credential :=
      { username := some "alice", source := some "users", password := some ""
        mechanism := some .plain }
    let client : ChallengeResponse := ⟨"alice", "", "users", some {}⟩
    ChallengeResponse.IsSetUpFor c client ∧ client.source = c.source.getD "admin" := by
  intro c client
  have hmade : ChallengeResponse.IsSetUpFor c ⟨"alice", "", "users", none⟩ := .made (by rfl)
  have h : ChallengeResponse.IsSetUpFor c client := hmade.declaring (some {})
  exact ⟨h, (takes_credential_source h).1.mpr fun hmisdirected => nomatch hmisdirected.1⟩

/-- A client that runs the challenge-response mechanism for a credential that names another
one and no database does not authenticate against `admin`. -/
theorem plain_credential_leads_outside :
    let c : Credential :=
      { username := some "alice", password := some "secret", mechanism := some .plain }
    let client : ChallengeResponse := ⟨"alice", "secret", "$external", none⟩
    Mechanism.challengeResponse.client c = .ok client
      ∧ client.source ≠ c.source.getD "admin"
      ∧ client.nonceCommand.wire.fields =
        [("getnonce", .int32 1), ("$db", .string "$external")] := by
  refine ⟨by rfl, by decide, by rfl⟩

end Negotiation
