/-
# Negotiation.ChallengeResponse.Authenticate -- conversations over a connection

A client authenticates a connection by driving a conversation over it: it sends the
command that the conversation asks for and hands over the outcome, until the
conversation ends. Start and end are reported as events.
-/

import Negotiation.ChallengeResponse.Conversation
import Negotiation.Connection

namespace Negotiation

namespace Conversation

/-- Drives a conversation from a command to its end. -/
def exchange (c : Conversation) (command : Command) : Exchange (Outcome Unit) :=
  .send command fun reply =>
    match _h : c.handle reply with
    | (.ok (.send next), after) => after.exchange next
    | (.ok .done, _) => .done (.ok ())
    | (.error e, _) => .done (.error e)
termination_by c.phase.rounds
decreasing_by exact rounds_lt_of_send _h

/-- Drives a conversation from a command to its end, waiting for each reply. -/
def exchangeBlocking {σ : Type} (connection : Connection σ) (c : Conversation)
    (command : Command) (s : σ) : Outcome Unit × σ :=
  let answered := connection.send command s
  match _h : c.handle answered.1 with
  | (.ok (.send next), after) => after.exchangeBlocking connection next answered.2
  | (.ok .done, _) => (.ok (), answered.2)
  | (.error e, _) => (.error e, answered.2)
termination_by c.phase.rounds
decreasing_by exact rounds_lt_of_send _h

end Conversation

namespace ChallengeResponse

/-- The event that the authentication of a connection has reached a stage. -/
def event (client : ChallengeResponse) (connection : ConnectionId) (stage : Stage) : Event :=
  .authentication stage connection .challengeResponse client.username client.source

/-- The stage that an authentication ends in. -/
def lastStage : Outcome Unit → Stage
  | .ok () => .succeeded
  | .error failure => .failed failure

/-- Authenticates a connection, stopping at each command to wait for the reply. -/
def authenticate (client : ChallengeResponse) : Exchange (Outcome Unit) :=
  .identify fun id =>
    .report (client.event id .started) <|
      let conversation := client.conversation (some id)
      (conversation.exchange conversation.firstCommand).bind fun result =>
        .report (client.event id (lastStage result)) (.done result)

/-- Authenticates a connection, waiting for each reply. -/
def authenticateBlocking {σ : Type} (client : ChallengeResponse) (connection : Connection σ) :
    Blocking σ (Outcome Unit) := fun s =>
  let id := connection.id s
  let conversation := client.conversation (some id)
  let (result, after) :=
    conversation.exchangeBlocking connection conversation.firstCommand s
  ⟨(result, after), [client.event id .started, client.event id (lastStage result)]⟩

end ChallengeResponse

end Negotiation
