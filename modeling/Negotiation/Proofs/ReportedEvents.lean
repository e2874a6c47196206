/-
# Negotiation.Proofs.ReportedEvents -- what is reported is what happens

Events are reported beside results and at places of their own: an authentication reports
when it starts and when it ends, around a loop that knows nothing of events, and a feature
reports a refusal in each of the two ways to refuse, after asking whether it is there. Here
the reports are read next to the results. What an event says of an error is the whole line
of the error, with its cause. Words that are not chosen here are left open.
-/

import Negotiation.Proofs.AuthenticationRuns
import Negotiation.Proofs.FeatureDecisions

namespace Negotiation

/-! ## Errors in words -/

theorem Fault.message_of_message? {fault : Fault} {message : String} (w : Wording)
    (h : fault.message? = some message) : fault.message w = message := by
  rw [Fault.message, h, Option.getD_some]

/-- However labels are listed, there is one way to list none. -/
theorem Labels.render_empty (w : Wording) : Labels.render w ∅ = "\x7b\x7d" := by
  have hlisted : w.listed [] = [] := List.perm_nil.mp (w.listed_perm [])
  show "\x7b" ++ String.intercalate ", " ((w.listed []).map Text.quote) ++ "\x7d" = _
  rw [hlisted]
  rfl

/-- The line of a failed attempt: user and source, no labels, and the cause in full. -/
theorem ChallengeResponse.IsFailure.display {client : ChallengeResponse}
    {connection : Option ConnectionId} {cause e : Error} (w : Wording)
    (h : client.IsFailure connection cause e) :
    e.display w = "Kind: Unable to authenticate username '" ++ client.username
      ++ "' on database '" ++ client.source ++ "'., labels: \x7b\x7d, source: Some("
      ++ w.cause cause ++ ")" := by
  -- the texts are cut where the line is put together
  have hstart : "Kind: Unable to authenticate username '" =
      "Kind: " ++ "Unable to authenticate username '" := rfl
  have hmiddle : "'., labels: \x7b\x7d, source: Some(" =
      "'." ++ (", labels: " ++ ("\x7b\x7d" ++ (", source: " ++ "Some("))) := rfl
  rw [Error.display, Fault.message_of_message? w h.message, h.labels, Labels.render_empty, h.cause,
    hstart, hmiddle]
  simp only [String.append_assoc]

/-! ## Authentications -/

namespace ChallengeResponse

variable {σ : Type}

/-- What every event about the authentication of a connection says: the numbers of the
connection, of which the server's is left out while it is unknown, its address, and who
authenticates how and where. -/
def subject (client : ChallengeResponse) (id : ConnectionId) : List (String × String) :=
  [("driverConnectionId", toString id.id.toNat)]
    ++ (id.serverId.map fun n => ("serverConnectionId", toString n.toInt)).toList
    ++ [("serverHost", id.address), ("mechanism", "MONGODB-CR"), ("username", client.username),
      ("source", client.source)]

/-- The event tells, in these words, how far the authentication of a connection has come. -/
structure Tells (client : ChallengeResponse) (w : Wording) (id : ConnectionId) (words : String)
    (failure : List (String × String)) (event : Event) : Prop where
  target : event.target = "mongodb_core::connection"
  level : event.level = "DEBUG"
  message : event.message = "Connection authentication " ++ words
  details : event.details w = client.subject id ++ failure

theorem details_event (client : ChallengeResponse) (w : Wording) (id : ConnectionId)
    (stage : Stage) :
    (client.event id stage).details w = client.subject id ++ match stage with
      | .failed e => [("failure", e.display w)]
      | _ => [] := by
  obtain ⟨number, serverId, address⟩ := id
  cases serverId <;> rfl

theorem tells_started (client : ChallengeResponse) (w : Wording) (id : ConnectionId) :
    client.Tells w id "started" [] (client.event id .started) :=
  ⟨rfl, rfl, rfl, client.details_event w id .started⟩

theorem tells_succeeded (client : ChallengeResponse) (w : Wording) (id : ConnectionId) :
    client.Tells w id "succeeded" [] (client.event id .succeeded) :=
  ⟨rfl, rfl, rfl, client.details_event w id .succeeded⟩

theorem tells_failed (client : ChallengeResponse) (w : Wording) (id : ConnectionId) (e : Error) :
    client.Tells w id "failed" [("failure", e.display w)] (client.event id (.failed e)) :=
  ⟨rfl, rfl, rfl, client.details_event w id (.failed e)⟩

/-- The two events of an authentication, by its result. -/
theorem events_authenticate (client : ChallengeResponse) (connection : Connection σ) (s : σ) :
    let attempt := client.authenticate.run connection s
    attempt.events = [client.event (connection.id s) .started,
      client.event (connection.id s) (lastStage attempt.value.1)] := by
  intro attempt
  simp only [attempt, run_authenticate]
  rfl

theorem message_lastStage (client : ChallengeResponse) (id : ConnectionId)
    (result : Outcome Unit) :
    ((client.event id (lastStage result)).message = "Connection authentication succeeded"
        ↔ result = .ok ())
      ∧ ((client.event id (lastStage result)).message = "Connection authentication failed"
        ↔ ∃ e, result = .error e) := by
  have hne : "Connection authentication succeeded" ≠ "Connection authentication failed" := by
    decide
  cases result with
  | ok _ => exact ⟨⟨fun _ => rfl, fun _ => rfl⟩, fun h => absurd h hne, nofun⟩
  | error e => exact ⟨⟨fun h => absurd h.symm hne, nofun⟩, fun _ => ⟨e, rfl⟩, fun _ => rfl⟩

/-- An authentication that fails does so with the failure of its client. -/
theorem failure_of_authenticate (client : ChallengeResponse) (connection : Connection σ) (s : σ)
    {e : Error} (h : (client.authenticate.run connection s).value.1 = .error e) :
    ∃ cause, client.IsFailure (some (connection.id s)) cause e := by
  have hattempt : client.Attempt (connection.id s)
      (client.authenticate.run connection.recorded (s, [])).value.2.2
      (client.authenticate.run connection.recorded (s, [])).value.1 :=
    client.attempt_authenticate connection s
  rw [(Exchange.run_recorded connection client.authenticate s []).1, h] at hattempt
  obtain ⟨cause, hfailure, -⟩ := hattempt.failure
  exact ⟨cause, hfailure⟩

end ChallengeResponse

/-! ## Questions about features -/

namespace Feature

theorem events_isSupported (f : Feature) (v : Version) : (f.isSupported v).events = [] :=
  Reported.events_pure _

theorem events_mustReject (f : Feature) (v : Version) : (f.mustReject v).events = [] := by
  unfold mustReject
  cases f.threshold with
  | none => exact Reported.events_pure _
  | some t => exact Reported.events_pure _

end Feature

namespace Registry

theorem events_isSupported (r : Registry) (name : String) (v : Version) :
    (r.isSupported name v).events = [] := by
  unfold isSupported
  cases r.require name with
  | error e => exact Reported.events_pure _
  | ok f =>
    show (f.isSupported v).events ++ [] = []
    rw [f.events_isSupported v, List.append_nil]

theorem events_supported (r : Registry) (v : Version) : (r.supported v).events = [] := by
  rw [supported_eq]
  exact Reported.events_pure _

end Registry

/-! ## Refusals of features -/

namespace Feature

/-- An error refuses a server of this version since it would have to be of another one, and
an event tells so. Both name both versions. -/
structure IsRefusal (f : Feature) (v required : Version) (e : Error) (event : Event) : Prop where
  isIncompatibleServer : e.isIncompatibleServer = true
  error : e.fault.message? = some ("The server does not support a database operation: " ++ f.name
    ++ " requires server version " ++ required.render
    ++ " or newer, but the server version is " ++ v.render)
  target : event.target = "mongodb_core::feature"
  level : event.level = "DEBUG"
  message : event.message = "Feature rejected"
  details : ∀ w, event.details w = [("feature", f.name), ("serverVersion", v.render),
    ("requiredVersion", required.render)]

/-- An answer is given without an event, or it is a refusal with one event about it. A
server is refused if it would have to be of another version than it is. -/
inductive Reports {α : Type} (f : Feature) (v : Version) (wanted : Option Version) :
    Reported (Outcome α) → Prop
  | granted (a : α) : Reports f v wanted ⟨.ok a, []⟩
  | refused {required : Version} {e : Error} {event : Event} : wanted = some required →
      f.IsRefusal v required e event → Reports f v wanted ⟨.error e, [event]⟩

variable {f : Feature} {v required : Version} {wanted : Option Version}

theorem isRefusal_reject (f : Feature) (v required : Version) :
    f.IsRefusal v required (Fault.incompatibleServer (.tooOld f.name required v))
      (.featureRejected f.name v required) where
  isIncompatibleServer := rfl
  error := by
    show some (_ ++ (f.name ++ _ ++ required.render ++ _ ++ v.render)) = _
    simp only [← String.append_assoc]
  target := rfl
  level := rfl
  message := rfl
  details _ := rfl

theorem reports_reject {α : Type} (h : wanted = some required) :
    f.Reports v wanted (f.reject v required : Reported (Outcome α)) :=
  .refused h (f.isRefusal_reject v required)

/-- A server that lacks a feature would have to be of the first version that has it. -/
theorem reports_ensureSupported (f : Feature) (v : Version) :
    f.Reports v (some f.firstSupported) (f.ensureSupported v) := by
  rcases f.ensureSupported_cases v with ⟨-, heq⟩ | ⟨-, heq⟩
  · rw [heq]
    exact .granted ()
  · rw [heq]
    exact reports_reject rfl

/-- A server that is too old for a hint would have to be of the threshold. -/
theorem reports_checkHint (f : Feature) (v : Version) :
    f.Reports v f.threshold (f.checkHint v) := by
  rcases f.checkHint_cases v with ⟨-, heq⟩ | ⟨-, -, t, ht, heq⟩ | ⟨-, -, heq⟩
  · rw [heq]
    exact .granted _
  · rw [heq]
    exact reports_reject ht
  · rw [heq]
    exact .granted _

end Feature

/-! ## Events and results -/

/-- Events tell what the results are, however things are worded that are not worded here.

* An authentication, in either form and over any connection, reports two events, both about
  this connection and this client: that it has started, and then that it has succeeded if
  the result is success, or that it has failed. A failure carries the very error that is the
  result, and is told by the whole line of this error: user and source, and then the cause.
* Requiring a feature, and asking what to do with a hint, report one event if the answer is
  an error and none else. Event and error name the version that was asked about and the one
  that is required: the first version with the feature, or the threshold of the hint.
* Asking whether a feature is there, or whether it must be refused, reports nothing, of a
  feature as well as of a registry. -/
theorem events_match_outcomes :
    (∀ {σ : Type} (client : ChallengeResponse) (connection : Connection σ) (s : σ) (w : Wording),
      let attempt := client.authenticate.run connection s
      let result := attempt.value.1
      let id := connection.id s
      attempt = client.authenticateBlocking connection s
        ∧ ∃ first last, attempt.events = [first, last]
          ∧ client.Tells w id "started" [] first
          ∧ (last.message = "Connection authentication succeeded" ↔ result = .ok ())
          ∧ (last.message = "Connection authentication failed" ↔ ∃ e, result = .error e)
          ∧ (result = .ok () → client.Tells w id "succeeded" [] last)
          ∧ (∀ e, result = .error e →
            last = .authentication (.failed e) id .challengeResponse client.username client.source
            ∧ client.Tells w id "failed" [("failure", e.display w)] last
            ∧ ∃ cause, e.cause? = some cause
              ∧ e.display w = "Kind: Unable to authenticate username '" ++ client.username
                ++ "' on database '" ++ client.source ++ "'., labels: \x7b\x7d, source: Some("
                ++ w.cause cause ++ ")"))
    ∧ (∀ (f : Feature) (v : Version), f.Reports v (some f.firstSupported) (f.ensureSupported v))
    ∧ (∀ (f : Feature) (v : Version), f.Reports v f.threshold (f.checkHint v))
    ∧ (∀ (f : Feature) (v : Version),
      (f.isSupported v).events = [] ∧ (f.mustReject v).events = [])
    ∧ (∀ (r : Registry) (v : Version),
      (∀ name, (r.isSupported name v).events = []) ∧ (r.supported v).events = []) := by
  refine ⟨?_, Feature.reports_ensureSupported, Feature.reports_checkHint, ?_, ?_⟩
  · intro σ client connection s w attempt result id
    obtain ⟨hsucceeded, hfailed⟩ := client.message_lastStage id result
    refine ⟨client.run_authenticate connection s, _, _, client.events_authenticate connection s,
      client.tells_started w id, hsucceeded, hfailed, ?_, ?_⟩
    · intro hok
      show client.Tells w id "succeeded" [] (client.event id (ChallengeResponse.lastStage result))
      rw [hok]
      exact client.tells_succeeded w id
    · intro e he
      show client.event id (ChallengeResponse.lastStage result) = _ ∧ client.Tells w id "failed" _
        (client.event id (ChallengeResponse.lastStage result)) ∧ _
      rw [he]
      refine ⟨rfl, client.tells_failed w id e, ?_⟩
      obtain ⟨cause, hfailure⟩ := client.failure_of_authenticate connection s he
      exact ⟨cause, hfailure.cause, hfailure.display w⟩
  · intro f v
    exact ⟨f.events_isSupported v, f.events_mustReject v⟩
  · intro r v
    exact ⟨fun name => r.events_isSupported name v, r.events_supported v⟩

end Negotiation
