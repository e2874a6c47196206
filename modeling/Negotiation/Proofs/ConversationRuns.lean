/-
# Negotiation.Proofs.ConversationRuns -- what a conversation says, over all its runs

A run is any sequence of calls on a fresh conversation: outcomes of commands are
handed over, in any number and also when the conversation is over, and the opening
command is asked for at any time. Everything a conversation does is decided by the
outcomes it was handed before. The invariant of a run says so: the phase of the
conversation is read off these outcomes, and its client and connection never change.
-/

import Negotiation.ChallengeResponse.Conversation

namespace Negotiation

/-! ## What is said on the wire and in errors -/

namespace ChallengeResponse

/-- The command that asks for a nonce, spelled out. -/
structure IsNonceRequest (client : ChallengeResponse) (command : Command) : Prop where
  name : command.name = "getnonce"
  database : command.database = client.source
  serverApi : command.serverApi = client.serverApi
  body : command.body.fields = [("getnonce", .int32 1)]

/-- The command that answers a nonce, spelled out. -/
structure IsAnswer (client : ChallengeResponse) (nonce : String) (command : Command) : Prop where
  name : command.name = "authenticate"
  database : command.database = client.source
  serverApi : command.serverApi = client.serverApi
  body : command.body.fields =
    [("authenticate", .int32 1),
     ("user", .string client.username),
     ("nonce", .string nonce),
     ("key", .string (Md5.hexDigest (nonce ++ client.username
       ++ Md5.hexDigest (client.username ++ ":mongo:" ++ client.password))))]

/-- The error of a failed attempt, spelled out: it names the user, the source and the
connection, has no labels, and keeps what caused it. -/
structure IsFailure (client : ChallengeResponse) (connection : Option ConnectionId)
    (cause e : Error) : Prop where
  isAuthentication : e.isAuthentication = true
  message : e.fault.message? = some ("Unable to authenticate username '" ++ client.username
    ++ "' on database '" ++ client.source ++ "'.")
  connection : e.connection? = connection
  labels : e.labels = ∅
  cause : e.cause? = some cause

theorem isNonceRequest_nonceCommand (client : ChallengeResponse) :
    client.IsNonceRequest client.nonceCommand :=
  ⟨rfl, rfl, rfl, rfl⟩

theorem isAnswer_answerCommand (client : ChallengeResponse) (nonce : String) :
    client.IsAnswer nonce (client.answerCommand nonce) := by
  refine ⟨rfl, rfl, rfl, ?_⟩
  simp [answerCommand, command, Document.ofList, Document.insertAll, Document.insert,
    Document.empty, Document.write, key, answerKey, passwordDigest]

end ChallengeResponse

/-- The complaint about a reply without a text for a nonce. -/
def Error.noNonce : Error :=
  Fault.invalidResponse .noNonce

namespace Conversation

theorem isFailure_failure (c : Conversation) (cause : Error) :
    c.client.IsFailure c.connection cause (c.failure cause) :=
  ⟨rfl, rfl, rfl, rfl, rfl⟩

/-! ## One step -/

variable {c : Conversation}

theorem handle_nonce {reply : Document} {nonce : String} (hc : c.phase = .awaitingNonce)
    (h : reply.text? "nonce" = some nonce) :
    c.handle (.ok reply) =
      (.ok (.send (c.client.answerCommand nonce)), c.enter .awaitingVerdict) := by
  simp [handle, hc, bind, Except.bind, ChallengeResponse.nonceOfReply, h]

theorem handle_no_nonce {reply : Document} (hc : c.phase = .awaitingNonce)
    (h : reply.text? "nonce" = none) :
    c.handle (.ok reply) = (.error (c.failure .noNonce), c.enter .failed) := by
  simp [handle, hc, bind, Except.bind, ChallengeResponse.nonceOfReply, h, Error.noNonce]

theorem handle_no_reply (hc : c.phase = .awaitingNonce) (cause : Error) :
    c.handle (.error cause) = (.error (c.failure cause), c.enter .failed) := by
  simp [handle, hc, bind, Except.bind]

theorem handle_accepted (hc : c.phase = .awaitingVerdict) (reply : Document) :
    c.handle (.ok reply) = (.ok .done, c.enter .succeeded) := by
  simp [handle, hc]

theorem handle_rejected (hc : c.phase = .awaitingVerdict) (cause : Error) :
    c.handle (.error cause) = (.error (c.failure cause), c.enter .failed) := by
  simp [handle, hc]

/-- A conversation that is over takes nothing and stays as it is. -/
theorem handle_over (hc : c.phase.rounds = 0) (reply : Outcome Document) :
    c.handle reply = (.error (Fault.internal .conversationOver), c) := by
  cases hp : c.phase <;> simp_all [handle, Phase.rounds]

/-! ## What the outcomes so far amount to -/

/-- The nonce that an outcome grants: it has to be a reply with a text for it. -/
def nonceIn? : Outcome Document → Option String
  | .ok reply => reply.text? "nonce"
  | .error _ => none

/-- The phase that a conversation has come to after these outcomes, first to last. -/
inductive Course : List (Outcome Document) → Phase → Prop
  | fresh : Course [] .awaitingNonce
  | granted {first nonce} : nonceIn? first = some nonce → Course [first] .awaitingVerdict
  | refused {first rest} : nonceIn? first = none → Course (first :: rest) .failed
  | accepted {first nonce reply rest} :
      nonceIn? first = some nonce → Course (first :: .ok reply :: rest) .succeeded
  | rejected {first nonce cause rest} :
      nonceIn? first = some nonce → Course (first :: .error cause :: rest) .failed

/-- The invariant of a run: the outcomes so far decide the phase, and client and
connection are those that the run began with. -/
structure Reached (client : ChallengeResponse) (connection : Option ConnectionId)
    (seen : List (Outcome Document)) (c : Conversation) : Prop where
  client : c.client = client
  connection : c.connection = connection
  course : Course seen c.phase

section Invariant

variable {client : ChallengeResponse} {connection : Option ConnectionId}
  {seen : List (Outcome Document)} {c : Conversation}

theorem reached_conversation (client : ChallengeResponse) (connection : Option ConnectionId) :
    Reached client connection [] (client.conversation connection) :=
  ⟨rfl, rfl, .fresh⟩

theorem Reached.enter {seen' : List (Outcome Document)} {phase : Phase}
    (h : Reached client connection seen c) (hc : Course seen' phase) :
    Reached client connection seen' (c.enter phase) :=
  ⟨h.client, h.connection, hc⟩

/-- A step keeps the invariant. -/
theorem Reached.handle (h : Reached client connection seen c) (reply : Outcome Document) :
    Reached client connection (seen ++ [reply]) (c.handle reply).2 := by
  have hcourse := h.course
  -- the phase is an index of the course, so it is split off before the cases
  generalize hp : c.phase = phase at hcourse
  cases hcourse with
  | fresh =>
    cases reply with
    | error cause =>
      rw [handle_no_reply hp]
      exact h.enter (.refused rfl)
    | ok reply =>
      cases hn : reply.text? "nonce" with
      | none =>
        rw [handle_no_nonce hp hn]
        exact h.enter (.refused hn)
      | some nonce =>
        rw [handle_nonce hp hn]
        exact h.enter (.granted hn)
  | granted hn =>
    cases reply with
    | error cause =>
      rw [handle_rejected hp]
      exact h.enter (.rejected hn)
    | ok reply =>
      rw [handle_accepted hp]
      exact h.enter (.accepted hn)
  -- over: the outcome is added to those that no longer count
  | refused hn =>
    rw [handle_over (by rw [hp]; rfl)]
    exact ⟨h.client, h.connection, hp ▸ .refused hn⟩
  | accepted hn =>
    rw [handle_over (by rw [hp]; rfl)]
    exact ⟨h.client, h.connection, hp ▸ .accepted hn⟩
  | rejected hn =>
    rw [handle_over (by rw [hp]; rfl)]
    exact ⟨h.client, h.connection, hp ▸ .rejected hn⟩

end Invariant

/-! ## Runs -/

/-- A call on a conversation. -/
inductive Call where
  /-- Asks for the command that opens the conversation. -/
  | firstCommand
  /-- Hands over the outcome of a command. -/
  | handle (reply : Outcome Document)

/-- What a call gives back. -/
inductive Answer where
  | command (command : Command)
  | step (outcome : Outcome Step)

/-- Whether an answer asks for a command to be sent. -/
def Answer.isSend : Answer → Bool
  | step (.ok (.send _)) => true
  | _ => false

/-- One call: what it gives back, and the conversation after it. -/
def call (c : Conversation) : Call → Answer × Conversation
  | .firstCommand => (.command c.firstCommand, c)
  | .handle reply => (.step (c.handle reply).1, (c.handle reply).2)

/-- The conversation after a run. -/
def after (c : Conversation) : List Call → Conversation
  | [] => c
  | first :: rest => (c.call first).2.after rest

/-- What the calls of a run give back, in turn. -/
def answers (c : Conversation) : List Call → List Answer
  | [] => []
  | first :: rest => (c.call first).1 :: (c.call first).2.answers rest

/-- The outcomes that were handed over in a run, first to last. -/
def replies : List Call → List (Outcome Document)
  | [] => []
  | .firstCommand :: rest => replies rest
  | .handle reply :: rest => reply :: replies rest

/-- A run keeps the invariant. -/
theorem Reached.after {client : ChallengeResponse} {connection : Option ConnectionId}
    {seen : List (Outcome Document)} {c : Conversation}
    (h : Reached client connection seen c) (calls : List Call) :
    Reached client connection (seen ++ replies calls) (c.after calls) := by
  induction calls generalizing seen c with
  | nil => simpa [Conversation.after, replies] using h
  | cons first rest ih =>
    cases first with
    | firstCommand => exact ih h
    | handle reply =>
      have hrest := ih (h.handle reply)
      rwa [List.append_assoc] at hrest

/-- Only an answer to a nonce is sent, and then only the verdict is left to come. -/
theorem phase_of_isSend {c : Conversation} {reply : Outcome Document}
    (h : (Answer.step (c.handle reply).1).isSend = true) :
    c.phase = .awaitingNonce ∧ (c.handle reply).2.phase = .awaitingVerdict := by
  unfold handle at h ⊢
  split at h
  · rename_i hc
    split at h
    · exact ⟨hc, rfl⟩
    · simp [Answer.isSend] at h
  -- in every later phase the answer is a verdict or an error
  · split at h <;> simp [Answer.isSend] at h
  · simp [Answer.isSend] at h
  · simp [Answer.isSend] at h

theorem rounds_handle_le (c : Conversation) (reply : Outcome Document) :
    (c.handle reply).2.phase.rounds ≤ c.phase.rounds := by
  unfold handle
  split
  · rename_i hc
    split <;> simp [enter, hc, Phase.rounds]
  · rename_i hc
    split <;> simp [enter, hc, Phase.rounds]
  · exact Nat.le_refl _
  · exact Nat.le_refl _

/-- A run sends no more commands than the conversation still takes replies to, not
counting the last one. -/
theorem countP_isSend_answers (c : Conversation) (calls : List Call) :
    (c.answers calls).countP Answer.isSend ≤ c.phase.rounds - 1 := by
  induction calls generalizing c with
  | nil => simp [answers]
  | cons first rest ih =>
    have hrest := ih (c.call first).2
    rw [answers, List.countP_cons]
    cases first with
    | firstCommand => simpa [call, Answer.isSend] using hrest
    | handle reply =>
      have hle : (c.call (.handle reply)).2.phase.rounds ≤ c.phase.rounds :=
        rounds_handle_le c reply
      by_cases hsend : (c.call (.handle reply)).1.isSend = true
      · -- a send uses up the only round that it leaves room for
        obtain ⟨hc, hafter⟩ := phase_of_isSend hsend
        have hone : (c.call (.handle reply)).2.phase.rounds = 1 := congrArg Phase.rounds hafter
        have htwo : c.phase.rounds = 2 := congrArg Phase.rounds hc
        rw [if_pos hsend]
        omega
      · -- without a send the bound only shrinks
        rw [if_neg hsend]
        omega

/-! ## The protocol -/

/-- The outcome is the failure of an attempt that this cause made fail. -/
def FailsWith (client : ChallengeResponse) (connection : Option ConnectionId) (cause : Error)
    (outcome : Outcome Step) : Prop :=
  ∃ e, outcome = .error e ∧ client.IsFailure connection cause e

theorem Reached.failsWith {client : ChallengeResponse} {connection : Option ConnectionId}
    {seen : List (Outcome Document)} {c : Conversation}
    (h : Reached client connection seen c) (cause : Error) :
    FailsWith client connection cause (.error (c.failure cause)) := by
  have hfailure := c.isFailure_failure cause
  rw [h.client, h.connection] at hfailure
  exact ⟨_, rfl, hfailure⟩

/-- Whether outcomes end a conversation: no nonce was granted, or the verdict came. -/
def IsOver : List (Outcome Document) → Prop
  | [] => False
  | [first] => nonceIn? first = none
  | _ :: _ :: _ => True

theorem Course.phase_of_nil {phase : Phase} (h : Course [] phase) : phase = .awaitingNonce := by
  cases h with
  | fresh => rfl

theorem Course.phase_of_granted {first : Outcome Document} {nonce : String} {phase : Phase}
    (h : Course [first] phase) (hn : nonceIn? first = some nonce) : phase = .awaitingVerdict := by
  cases h with
  | granted _ => rfl
  | refused hnone =>
    rw [hn] at hnone
    cases hnone

theorem Course.rounds_of_isOver {seen : List (Outcome Document)} {phase : Phase}
    (h : Course seen phase) (hover : IsOver seen) : phase.rounds = 0 := by
  cases h with
  | fresh => exact absurd hover id
  | granted hn =>
    have hnone : nonceIn? _ = none := hover
    rw [hn] at hnone
    cases hnone
  | refused hn => rfl
  | accepted hn => rfl
  | rejected hn => rfl

theorem Course.succeeded_iff {seen : List (Outcome Document)} {phase : Phase}
    (h : Course seen phase) :
    phase = .succeeded ↔ ∃ first nonce reply rest,
      seen = first :: .ok reply :: rest ∧ nonceIn? first = some nonce := by
  constructor
  · rintro rfl
    cases h with
    | accepted hn => exact ⟨_, _, _, _, rfl, hn⟩
  · rintro ⟨first, nonce, reply, rest, rfl, hn⟩
    cases h with
    | refused hnone =>
      rw [hn] at hnone
      cases hnone
    | accepted _ => rfl

theorem Course.failed_iff {seen : List (Outcome Document)} {phase : Phase}
    (h : Course seen phase) :
    phase = .failed ↔
      (∃ first rest, seen = first :: rest ∧ nonceIn? first = none)
        ∨ ∃ first nonce cause rest,
          seen = first :: .error cause :: rest ∧ nonceIn? first = some nonce := by
  constructor
  · rintro rfl
    cases h with
    | refused hn => exact Or.inl ⟨_, _, rfl, hn⟩
    | rejected hn => exact Or.inr ⟨_, _, _, _, rfl, hn⟩
  · rintro (⟨first, rest, rfl, hnone⟩ | ⟨first, nonce, cause, rest, rfl, hn⟩)
    · cases h with
      | granted hn | accepted hn =>
        rw [hn] at hnone
        cases hnone
      | refused _ | rejected _ => rfl
    · cases h with
      | refused _ => rfl
      | rejected _ => rfl

/-- The protocol of a conversation, after any run of calls on a fresh one:

* the opening command asks for a nonce;
* if no outcome was handed over yet, a reply with a text for a nonce is answered, and
  every other outcome fails;
* if a nonce was granted, the next reply ends the attempt with success, whatever it
  says, and an error fails it;
* if the attempt is over, an outcome is refused and changes nothing;
* success and failure are told by the outcomes, and no run sends a second answer. -/
theorem protocol (client : ChallengeResponse) (connection : Option ConnectionId)
    (calls : List Call) :
    let c := (client.conversation connection).after calls
    let seen := replies calls
    client.IsNonceRequest c.firstCommand
      ∧ (seen = [] →
          (∀ reply nonce, reply.text? "nonce" = some nonce →
            ∃ command, (c.handle (.ok reply)).1 = .ok (.send command)
              ∧ client.IsAnswer nonce command)
          ∧ (∀ reply, reply.text? "nonce" = none →
            FailsWith client connection .noNonce (c.handle (.ok reply)).1)
          ∧ (∀ cause, FailsWith client connection cause (c.handle (.error cause)).1))
      ∧ (∀ first nonce, seen = [first] → nonceIn? first = some nonce →
          (∀ reply, (c.handle (.ok reply)).1 = .ok .done)
          ∧ (∀ cause, FailsWith client connection cause (c.handle (.error cause)).1))
      ∧ (IsOver seen → ∀ reply,
          c.handle reply = (.error (Fault.internal .conversationOver), c))
      ∧ (c.isDone = true ↔ ∃ first nonce reply rest,
          seen = first :: .ok reply :: rest ∧ nonceIn? first = some nonce)
      ∧ (c.isFailed = true ↔
          (∃ first rest, seen = first :: rest ∧ nonceIn? first = none)
            ∨ ∃ first nonce cause rest,
              seen = first :: .error cause :: rest ∧ nonceIn? first = some nonce)
      ∧ ((client.conversation connection).answers calls).countP Answer.isSend ≤ 1 := by
  intro c seen
  have hc : Reached client connection seen c :=
    (reached_conversation client connection).after calls
  have hcourse := hc.course
  refine ⟨?_, ?_, ?_, ?_, ?_, ?_, countP_isSend_answers _ calls⟩
  · show client.IsNonceRequest c.client.nonceCommand
    rw [hc.client]
    exact client.isNonceRequest_nonceCommand
  · intro hseen
    have hp : c.phase = .awaitingNonce := (hseen ▸ hcourse).phase_of_nil
    refine ⟨?_, ?_, ?_⟩
    · intro reply nonce hn
      rw [handle_nonce hp hn, hc.client]
      exact ⟨_, rfl, client.isAnswer_answerCommand nonce⟩
    · intro reply hn
      rw [handle_no_nonce hp hn]
      exact hc.failsWith .noNonce
    · intro cause
      rw [handle_no_reply hp]
      exact hc.failsWith cause
  · intro first nonce hseen hn
    have hp : c.phase = .awaitingVerdict := (hseen ▸ hcourse).phase_of_granted hn
    refine ⟨?_, ?_⟩
    · intro reply
      rw [handle_accepted hp]
    · intro cause
      rw [handle_rejected hp]
      exact hc.failsWith cause
  · intro hover reply
    exact handle_over (hcourse.rounds_of_isOver hover) reply
  · rw [← hcourse.succeeded_iff, isDone, beq_iff_eq]
  · rw [← hcourse.failed_iff, isFailed, beq_iff_eq]

end Conversation

end Negotiation
