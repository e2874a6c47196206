/-
# Negotiation.Proofs.Secrecy -- what a run tells about the password and the nonce

Two runs are compared: one client with two passwords, over two scripts whose replies are
the same but for the nonce that is granted. The runs go in step. They send as many
commands, end alike and report the same events, so nothing but the commands themselves
can tell them apart. If the nonces are the same too, the only trace of the password is
the key that answers the nonce.

Going in step is a relation between two operations that looks at one round at a time. A
script answers the same whatever it is asked, so operations that go in step stay so over
two scripts with related replies.
-/

import Mathlib.Data.List.Forall2
import Negotiation.Connection.Scripted
import Negotiation.Proofs.HandshakeRuns

namespace Negotiation

/-! ## Scripts as sequences of replies -/

namespace Script

/-- Whether a script is cancelled by the time that so many commands were sent. -/
def cancelledBy (s : Script) (count : Nat) : Bool :=
  s.cancelAfter.any (· < count)

/-- The outcome of the command that comes after so many more commands. It does not depend
on what these commands are. -/
def upcoming (s : Script) (n : Nat) : Outcome Document :=
  if s.cancelledBy (s.sent.length + n + 1) then .error (Fault.io "cancelled")
  else s.outcomes[n]?.getD (.error (Fault.io "no reply scripted"))

theorem cancelledBy_mono {s : Script} {count later : Nat} (h : s.cancelledBy count = true)
    (hle : count ≤ later) : s.cancelledBy later = true := by
  unfold cancelledBy at h ⊢
  cases hlimit : s.cancelAfter with
  | none => simp [hlimit] at h
  | some limit =>
    simp only [hlimit, Option.any_some, decide_eq_true_eq] at h ⊢
    omega

theorem isCancelled_sent (s : Script) (command : Command) :
    isCancelled { s with sent := s.sent ++ [command] } = s.cancelledBy (s.sent.length + 1) := by
  unfold isCancelled cancelledBy
  cases s.cancelAfter <;> simp

/-- A script keeps the command, gives its next reply, and has the later ones left. -/
theorem send_spec (s : Script) (command : Command) :
    ∃ rest, s.send command =
        (s.upcoming 0, { s with sent := s.sent ++ [command], outcomes := rest })
      ∧ ∀ n, upcoming { s with sent := s.sent ++ [command], outcomes := rest } n =
          s.upcoming (n + 1) := by
  have hlength : ∀ n, (s.sent ++ [command]).length + n + 1 = s.sent.length + (n + 1) + 1 := by
    intro n
    simp only [List.length_append, List.length_singleton]
    omega
  have hupcoming : ∀ rest n, upcoming { s with sent := s.sent ++ [command], outcomes := rest } n =
      if s.cancelledBy (s.sent.length + (n + 1) + 1) then .error (Fault.io "cancelled")
      else rest[n]?.getD (.error (Fault.io "no reply scripted")) := by
    intro rest n
    rw [← hlength]
    rfl
  simp only [send, isCancelled_sent, hupcoming]
  by_cases h : s.cancelledBy (s.sent.length + 1) = true
  · -- cancelled now means cancelled from now on, whatever is left of the script
    have hlater : ∀ n, s.cancelledBy (s.sent.length + n + 1) = true := fun n =>
      cancelledBy_mono h (by omega)
    refine ⟨s.outcomes, by simp [h, upcoming], fun n => ?_⟩
    rw [upcoming, if_pos (hlater (n + 1)), if_pos (hlater (n + 1))]
  · cases houtcomes : s.outcomes with
    | nil =>
      refine ⟨[], by simp [h, upcoming, houtcomes], fun n => ?_⟩
      rw [upcoming, houtcomes]
      rfl
    | cons outcome rest =>
      refine ⟨rest, by simp [h, upcoming, houtcomes], fun n => ?_⟩
      rw [upcoming, houtcomes, List.getElem?_cons_succ]

end Script

/-! ## Operations in step -/

/-- How the replies of two runs are related, round by round. -/
abbrev ReplyRelation := Nat → Outcome Document → Outcome Document → Prop

/-- Two operations in step: they do the same, send commands that are alike, and stay in
step as long as they are given related replies. -/
inductive InStep {α : Type} (alike : Command → Command → Prop) :
    ReplyRelation → Exchange α → Exchange α → Prop
  | done {related : ReplyRelation} (result : α) :
      InStep alike related (.done result) (.done result)
  | identify {related : ReplyRelation} {next next' : ConnectionId → Exchange α} :
      (∀ id, InStep alike related (next id) (next' id)) →
      InStep alike related (.identify next) (.identify next')
  | send {related : ReplyRelation} {command command' : Command}
      {next next' : Outcome Document → Exchange α} : alike command command' →
      (∀ reply reply', related 0 reply reply' →
        InStep alike (fun n => related (n + 1)) (next reply) (next' reply')) →
      InStep alike related (.send command next) (.send command' next')
  | report {related : ReplyRelation} (event : Event) {next next' : Exchange α} :
      InStep alike related next next' →
      InStep alike related (.report event next) (.report event next')

/-- What can be told of a run without a look at its commands, and how its commands
compare with those of another run. -/
structure EndAlike {α : Type} (alike : Command → Command → Prop)
    (first second : Reported (α × Script)) : Prop where
  result : first.value.1 = second.value.1
  events : first.events = second.events
  commands : List.Forall₂ alike first.value.2.sent second.value.2.sent

namespace InStep

variable {α β : Type} {alike : Command → Command → Prop} {related : ReplyRelation}

theorem bind {e e' : Exchange α} {f f' : α → Exchange β} (h : InStep alike related e e')
    (hf : ∀ result related, InStep alike related (f result) (f' result)) :
    InStep alike related (e.bind f) (e'.bind f') := by
  induction h with
  | done result => exact hf result _
  | identify _ ih => exact .identify ih
  | send hcommand _ ih => exact .send hcommand ih
  | report event _ ih => exact .report event ih

/-- Operations in step end alike over scripts with related replies. -/
theorem endAlike {e e' : Exchange α} (h : InStep alike related e e') {s t : Script}
    (hid : s.id = t.id) (hsent : List.Forall₂ alike s.sent t.sent)
    (hreplies : ∀ n, related n (s.upcoming n) (t.upcoming n)) :
    EndAlike alike (e.run Script.connection s) (e'.run Script.connection t) := by
  induction h generalizing s t with
  | done result => exact ⟨rfl, rfl, hsent⟩
  | identify _ ih =>
    have hsame : Script.connection.id s = Script.connection.id t := hid
    rw [Exchange.run, Exchange.run, hsame]
    exact ih _ hid hsent hreplies
  | @send _ command command' next next' hcommand _ ih =>
    obtain ⟨rest, hs, hlater⟩ := s.send_spec command
    obtain ⟨rest', ht, hlater'⟩ := t.send_spec command'
    have hs' : Script.connection.send command s = _ := hs
    have ht' : Script.connection.send command' t = _ := ht
    rw [Exchange.run, Exchange.run, hs', ht']
    refine ih _ _ (hreplies 0) hid (List.rel_append hsent (.cons hcommand .nil)) fun n => ?_
    rw [hlater, hlater']
    exact hreplies (n + 1)
  | report event _ ih =>
    obtain ⟨hresult, hevents, hcommands⟩ := ih hid hsent hreplies
    exact ⟨hresult, congrArg (event :: ·) hevents, hcommands⟩

end InStep

/-! ## Conversations in step -/

/-- How far a conversation can tell two replies to its request for a nonce apart: if both
grant a nonce, these may differ as far as they are alike. -/
inductive GrantAlike (alikeNonce : String → String → Prop) :
    Outcome Document → Outcome Document → Prop
  | failed (e : Error) : GrantAlike alikeNonce (.error e) (.error e)
  | refused {reply reply' : Document} : reply.text? "nonce" = none →
      reply'.text? "nonce" = none → GrantAlike alikeNonce (.ok reply) (.ok reply')
  | granted {reply reply' : Document} {nonce nonce' : String} :
      reply.text? "nonce" = some nonce → reply'.text? "nonce" = some nonce' →
      alikeNonce nonce nonce' → GrantAlike alikeNonce (.ok reply) (.ok reply')

theorem grantAlike_self (reply : Outcome Document) : GrantAlike Eq reply reply := by
  cases reply with
  | error e => exact .failed e
  | ok reply =>
    cases h : reply.text? "nonce" with
    | none => exact .refused h h
    | some nonce => exact .granted h h rfl

namespace Conversation

variable {alike : Command → Command → Prop} {related : ReplyRelation} {c c' : Conversation}
  {command command' : Command}

theorem exchange_eq (c : Conversation) (command : Command) :
    c.exchange command = .send command fun reply =>
      match c.handle reply with
      | (.ok (.send next), after) => after.exchange next
      | (.ok .done, _) => .done (.ok ())
      | (.error e, _) => .done (.error e) := by
  rw [exchange]
  congr 1
  funext reply
  split <;> rename_i h <;> rw [h]

/-- The last round: the verdicts are the same, and so are the ends. -/
theorem inStep_verdict (hc : c.phase = .awaitingVerdict) (hc' : c'.phase = .awaitingVerdict)
    (hfailure : c.failure = c'.failure) (hcommand : alike command command')
    (hverdict : ∀ reply reply', related 0 reply reply' → reply = reply') :
    InStep alike related (c.exchange command) (c'.exchange command') := by
  rw [exchange_eq, exchange_eq]
  refine .send hcommand fun reply reply' hreply => ?_
  obtain rfl := hverdict reply reply' hreply
  cases reply with
  | ok reply =>
    rw [handle_accepted hc, handle_accepted hc']
    exact .done _
  | error cause =>
    rw [handle_rejected hc, handle_rejected hc', hfailure]
    exact .done _

/-- Both rounds: the nonces may differ as long as the answers to them are alike. -/
theorem inStep_exchange {alikeNonce : String → String → Prop} (hc : c.phase = .awaitingNonce)
    (hc' : c'.phase = .awaitingNonce) (hfailure : c.failure = c'.failure)
    (hcommand : alike command command')
    (hgrant : ∀ reply reply', related 0 reply reply' → GrantAlike alikeNonce reply reply')
    (hanswer : ∀ nonce nonce', alikeNonce nonce nonce' →
      alike (c.client.answerCommand nonce) (c'.client.answerCommand nonce'))
    (hverdict : ∀ reply reply', related 1 reply reply' → reply = reply') :
    InStep alike related (c.exchange command) (c'.exchange command') := by
  rw [exchange_eq c, exchange_eq c']
  refine .send hcommand fun reply reply' hreply => ?_
  cases hgrant reply reply' hreply with
  | failed e =>
    rw [handle_no_reply hc, handle_no_reply hc', hfailure]
    exact .done _
  | refused hn hn' =>
    rw [handle_no_nonce hc hn, handle_no_nonce hc' hn', hfailure]
    exact .done _
  | granted hn hn' hnonce =>
    rw [handle_nonce hc hn, handle_nonce hc' hn']
    exact inStep_verdict rfl rfl hfailure (hanswer _ _ hnonce) hverdict

end Conversation

namespace ChallengeResponse

/-- The same client with another password. -/
def withPassword (client : ChallengeResponse) (password : String) : ChallengeResponse :=
  { client with password := password }

/-- What keeps two runs in step that differ in the password and, in the reply of one
round, in the nonce. -/
structure DiffersAt (round : Nat) (alike : Command → Command → Prop)
    (alikeNonce : String → String → Prop) (related : ReplyRelation)
    (client : ChallengeResponse) (password : String) : Prop where
  /-- The replies of the round grant alike nonces, if they grant any. -/
  grant : ∀ reply reply', related round reply reply' → GrantAlike alikeNonce reply reply'
  /-- The other replies are the same. -/
  same : ∀ n, n ≠ round → ∀ reply reply', related n reply reply' → reply = reply'
  /-- A command is like itself. -/
  refl : ∀ command, alike command command
  /-- Answers to alike nonces are alike. -/
  answer : ∀ nonce nonce', alikeNonce nonce nonce' →
    alike (client.answerCommand nonce) ((client.withPassword password).answerCommand nonce')

section InStep

variable {alike : Command → Command → Prop} {alikeNonce : String → String → Prop}
  {related : ReplyRelation} {client : ChallengeResponse} {password : String}

theorem inStep_authenticate (hd : DiffersAt 0 alike alikeNonce related client password) :
    InStep alike related client.authenticate (client.withPassword password).authenticate := by
  refine .identify fun id => .report _ (.bind ?_ fun result related => .report _ (.done result))
  exact Conversation.inStep_exchange rfl rfl rfl (hd.refl _) hd.grant hd.answer
    (hd.same 1 (by decide))

theorem inStep_handshake (h : Handshake)
    (hd : DiffersAt 1 alike alikeNonce related client password) :
    InStep alike related (h.run client.authenticator)
      (h.run (client.withPassword password).authenticator) := by
  -- the client does not take part in the hello, so the round of the nonce comes next
  have hnext : DiffersAt 0 alike alikeNonce (fun n => related (n + 1)) client password :=
    ⟨hd.grant, fun n hn => hd.same (n + 1) (by omega), hd.refl, hd.answer⟩
  refine .send (hd.refl _) fun reply reply' hreply => ?_
  obtain rfl := hd.same 0 (by decide) reply reply' hreply
  cases reply with
  | error e => exact .done _
  | ok reply => exact (inStep_authenticate hnext).bind fun result related => .done _

end InStep

end ChallengeResponse

/-! ## Scripts with another nonce -/

/-- The same outcome, granting another nonce if it grants one. -/
def regrant (nonce : String) : Outcome Document → Outcome Document
  | .ok reply =>
    .ok (if (reply.text? "nonce").isSome then reply.insert "nonce" (.string nonce) else reply)
  | .error e => .error e

/-- The same script, but for the nonce that the reply of one round grants. -/
def Script.regrant (s : Script) (round : Nat) (nonce : String) : Script :=
  { s with outcomes := s.outcomes.modify round (Negotiation.regrant nonce) }

theorem grantAlike_regrant (nonce : String) (reply : Outcome Document) :
    GrantAlike (fun _ _ => True) reply (regrant nonce reply) := by
  cases reply with
  | error e => exact .failed e
  | ok reply =>
    cases h : reply.text? "nonce" with
    | none =>
      simp only [regrant, h]
      exact .refused h h
    | some old =>
      have hnew : (reply.insert "nonce" (.string nonce)).text? "nonce" = some nonce := by
        rw [Document.text?, Document.get?_insert]
        rfl
      simp only [regrant, h]
      exact .granted h hnew trivial

theorem Script.upcoming_regrant (s : Script) (round : Nat) (nonce : String) (n : Nat) :
    (s.regrant round nonce).upcoming n =
      if n = round then Negotiation.regrant nonce (s.upcoming n) else s.upcoming n := by
  have hcancelled : ∀ count, (s.regrant round nonce).cancelledBy count = s.cancelledBy count :=
    fun _ => rfl
  have houtcome : (s.regrant round nonce).outcomes[n]? =
      if n = round then s.outcomes[n]?.map (Negotiation.regrant nonce) else s.outcomes[n]? := by
    rw [regrant, List.getElem?_modify]
    by_cases h : n = round
    · simp [h]
    · have h' : ¬round = n := fun e => h e.symm
      simp [h, h']
  unfold upcoming
  rw [hcancelled, houtcome]
  by_cases h : s.cancelledBy (s.sent.length + n + 1) = true
  · -- a cancelled script grants nothing, so there is nothing to grant otherwise
    simp [regrant, h, Negotiation.regrant]
  · by_cases hround : n = round
    · subst hround
      cases s.outcomes[n]? <;> simp [regrant, h, Negotiation.regrant]
    · simp [regrant, h, hround]

/-! ## Secrets -/

/-- Commands that agree in all but the key of an authentication. -/
structure Command.SameButKey (c d : Command) : Prop where
  name : c.name = d.name
  database : c.database = d.database
  serverApi : c.serverApi = d.serverApi
  keys : c.body.keys = d.body.keys
  values : ∀ key, ¬(c.name = "authenticate" ∧ key = "key") → c.body.get? key = d.body.get? key

theorem Command.SameButKey.refl (c : Command) : c.SameButKey c :=
  ⟨rfl, rfl, rfl, rfl, fun _ _ => rfl⟩

namespace ChallengeResponse

theorem sameButKey_answerCommand (client : ChallengeResponse) (password nonce : String) :
    (client.answerCommand nonce).SameButKey
      ((client.withPassword password).answerCommand nonce) := by
  have ha := client.isAnswer_answerCommand nonce
  have ha' := (client.withPassword password).isAnswer_answerCommand nonce
  refine ⟨ha.name.trans ha'.name.symm, ha.database.trans ha'.database.symm,
    ha.serverApi.trans ha'.serverApi.symm, ?_, fun key hkey => ?_⟩
  · simp only [Document.keys, ha.body, ha'.body, List.map_cons, List.map_nil]
  · have hne : key ≠ "key" := fun e => hkey ⟨ha.name, e⟩
    rw [Document.get?, Document.get?, ha.body, ha'.body]
    simp [List.lookup_cons, beq_eq_false_iff_ne.mpr hne, withPassword]

/-- The password shows in an answer only through its digest. -/
theorem answerCommand_withPassword {client : ChallengeResponse} {password : String}
    (h : passwordDigest client.username client.password = passwordDigest client.username password)
    (nonce : String) :
    (client.withPassword password).answerCommand nonce = client.answerCommand nonce := by
  have hkey : key { client with password := password } nonce = client.key nonce := by
    simp only [key, h]
  simp only [withPassword, answerCommand, command, hkey]

end ChallengeResponse

/-- An operation over a script that keeps the password of its client, and the nonce that
the reply of a round grants, to itself. -/
structure KeepsSecrets {α : Type} (round : Nat)
    (operation : ChallengeResponse → Blocking Script α) : Prop where
  /-- Neither shows in the number of commands, in the result or in the events. -/
  outside : ∀ client password s nonce,
    let first := operation client s
    let second := operation (client.withPassword password) (s.regrant round nonce)
    first.value.2.sent.length = second.value.2.sent.length
      ∧ first.value.1 = second.value.1
      ∧ first.events = second.events
  /-- The password shows in no other part of a command than the key. -/
  inside : ∀ client password s,
    List.Forall₂ Command.SameButKey (operation client s).value.2.sent
      (operation (client.withPassword password) s).value.2.sent
  /-- Passwords with the same digest do not show at all. -/
  digest : ∀ (client : ChallengeResponse) password s,
    ChallengeResponse.passwordDigest client.username client.password =
      ChallengeResponse.passwordDigest client.username password →
    (operation (client.withPassword password) s).value.2.sent = (operation client s).value.2.sent

open ChallengeResponse (DiffersAt)

theorem keepsSecrets_of_inStep {α : Type} {round : Nat} {operation : ChallengeResponse → Exchange α}
    (h : ∀ {alike alikeNonce related client password},
      DiffersAt round alike alikeNonce related client password →
      InStep alike related (operation client) (operation (client.withPassword password))) :
    KeepsSecrets round fun client => (operation client).run Script.connection where
  outside client password s nonce := by
    have hd : DiffersAt round (fun _ _ => True) (fun _ _ => True)
        (fun n reply reply' => reply' = if n = round then regrant nonce reply else reply)
        client password := by
      refine ⟨?_, ?_, fun _ => trivial, fun _ _ _ => trivial⟩
      · rintro reply reply' rfl
        rw [if_pos rfl]
        exact grantAlike_regrant nonce reply
      · rintro n hn reply reply' rfl
        rw [if_neg hn]
    have hend := (h hd).endAlike (s := s) (t := s.regrant round nonce) rfl
      (List.forall₂_same.mpr fun _ _ => trivial) (s.upcoming_regrant round nonce)
    exact ⟨hend.commands.length_eq, hend.result, hend.events⟩
  inside client password s := by
    have hd : DiffersAt round Command.SameButKey Eq (fun _ => Eq) client password := by
      refine ⟨?_, fun _ _ _ _ => id, .refl, ?_⟩
      · rintro reply _ rfl
        exact grantAlike_self reply
      · rintro nonce _ rfl
        exact client.sameButKey_answerCommand password nonce
    exact ((h hd).endAlike rfl (List.forall₂_same.mpr fun _ _ => .refl _) fun _ => rfl).commands
  digest client password s hdigest := by
    have hd : DiffersAt round Eq Eq (fun _ => Eq) client password := by
      refine ⟨?_, fun _ _ _ _ => id, fun _ => rfl, ?_⟩
      · rintro reply _ rfl
        exact grantAlike_self reply
      · rintro nonce _ rfl
        exact (ChallengeResponse.answerCommand_withPassword hdigest nonce).symm
    have hend := (h hd).endAlike (s := s) (t := s) rfl
      (List.forall₂_same.mpr fun _ _ => rfl) fun _ => rfl
    exact (List.forall₂_eq_eq_eq ▸ hend.commands).symm

/-- Passwords and nonces are secret: no form of an authentication or a handshake shows
more of them than the commands that carry them. The nonce comes with the first reply of
an authentication and with the second of a handshake. -/
theorem keeps_secrets (h : Handshake) :
    KeepsSecrets 0 (fun client => client.authenticate.run Script.connection)
      ∧ KeepsSecrets 0 (fun client => client.authenticateBlocking Script.connection)
      ∧ KeepsSecrets 1 (fun client => (h.run client.authenticator).run Script.connection)
      ∧ KeepsSecrets 1 (fun client => h.runBlocking client.authenticator Script.connection) := by
  have hauthenticate :
      KeepsSecrets 0 fun client => client.authenticate.run Script.connection :=
    keepsSecrets_of_inStep ChallengeResponse.inStep_authenticate
  have hhandshake :
      KeepsSecrets 1 fun client => (h.run client.authenticator).run Script.connection :=
    keepsSecrets_of_inStep (ChallengeResponse.inStep_handshake h)
  -- the blocking forms are the same operations
  have hblocking : ∀ client : ChallengeResponse, client.authenticateBlocking Script.connection =
      client.authenticate.run Script.connection := fun client =>
    funext fun s => (client.run_authenticate Script.connection s).symm
  have hblocking' : ∀ client : ChallengeResponse,
      h.runBlocking client.authenticator Script.connection =
        (h.run client.authenticator).run Script.connection := fun client =>
    funext fun s => (client.run_handshake h Script.connection s).symm
  refine ⟨hauthenticate, ?_, hhandshake, ?_⟩
  · simpa only [hblocking] using hauthenticate
  · simpa only [hblocking'] using hhandshake

end Negotiation
