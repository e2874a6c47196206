/-
# Negotiation.ChallengeResponse.Conversation -- the exchange step by step

A conversation is one authentication attempt: it awaits a nonce, answers it, and
awaits the verdict. Any failure on the way ends it; there is no second try. It does
not send anything itself, so it can be driven over any kind of connection.
-/

import Negotiation.ChallengeResponse

namespace Negotiation

/-- How far a conversation has come. -/
inductive Phase where
  | awaitingNonce
  | awaitingVerdict
  | succeeded
  | failed
  deriving DecidableEq, Repr

/-- How many replies a conversation still takes in a phase. -/
def Phase.rounds : Phase → Nat
  | awaitingNonce => 2
  | awaitingVerdict => 1
  | succeeded => 0
  | failed => 0

/-- What to do after a reply. -/
inductive Step where
  /-- Send this command and hand over its outcome. -/
  | send (command : Command)
  /-- The client is authenticated. -/
  | done

/-- One authentication attempt. -/
structure Conversation where
  /-- Who authenticates. -/
  client : ChallengeResponse
  /-- The connection that is authenticated, if it is known. -/
  connection : Option ConnectionId := none
  /-- How far the attempt has come. -/
  phase : Phase := .awaitingNonce

namespace Conversation

/-- The command that opens a conversation. -/
def firstCommand (c : Conversation) : Command :=
  c.client.nonceCommand

/-- Whether the attempt has succeeded. -/
def isDone (c : Conversation) : Bool :=
  c.phase == .succeeded

/-- Whether the attempt has failed. -/
def isFailed (c : Conversation) : Bool :=
  c.phase == .failed

/-- The error that a failed attempt ends with. -/
def failure (c : Conversation) (cause : Error) : Error :=
  (Error.ofFault
    (.authentication (.failed c.client.username c.client.source c.connection))).withCause cause

/-- The conversation in another phase. -/
def enter (c : Conversation) (phase : Phase) : Conversation :=
  { c with phase := phase }

/-- Takes the outcome of the last command: what to do next, and the conversation
after it. A conversation that is over takes nothing and stays as it is. -/
def handle (c : Conversation) (reply : Outcome Document) : Outcome Step × Conversation :=
  match c.phase with
  | .awaitingNonce =>
    match reply >>= ChallengeResponse.nonceOfReply with
    | .ok nonce => (.ok (.send (c.client.answerCommand nonce)), c.enter .awaitingVerdict)
    | .error cause => (.error (c.failure cause), c.enter .failed)
  | .awaitingVerdict =>
    match reply with
    | .ok _ => (.ok .done, c.enter .succeeded)
    | .error cause => (.error (c.failure cause), c.enter .failed)
  | .succeeded | .failed => (.error (Fault.internal .conversationOver), c)

/-- A conversation that sends takes fewer replies afterwards. -/
theorem rounds_lt_of_send {c after : Conversation} {reply : Outcome Document}
    {command : Command} (h : c.handle reply = (.ok (.send command), after)) :
    after.phase.rounds < c.phase.rounds := by
  unfold handle at h
  split at h
  · rename_i hphase
    split at h
    · obtain ⟨-, rfl⟩ := Prod.mk.inj h
      simp [enter, hphase, Phase.rounds]
    · simp at h
  · split at h <;> simp at h
  · simp at h
  · simp at h

end Conversation

/-- A conversation of a client that has not begun. -/
def ChallengeResponse.conversation (client : ChallengeResponse)
    (connection : Option ConnectionId) : Conversation :=
  { client := client, connection := connection }

end Negotiation
