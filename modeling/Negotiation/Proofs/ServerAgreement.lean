/-
# Negotiation.Proofs.ServerAgreement -- clients and servers agree on the key

A server grants a nonce, remembers it, and judges the one answer that uses it: it lets in
who names its user and sends the key that it derives itself. It sees nothing but documents
on the wire, and the client nothing but checked replies. Any such server is considered,
whatever else its replies say and whichever nonces it grants. Against it an attempt comes
to a verdict, and the verdict is a success exactly if the two sides derive the same key
for the same user.
-/

import Mathlib.Data.List.Forall2
import Negotiation.Proofs.AuthenticationRuns
import Negotiation.Proofs.Refusals
import Negotiation.Proofs.WireFields

namespace Negotiation

variable {σ : Type}

/-! ## What a server knows and says -/

/-- The user that a server knows. -/
structure StoredUser where
  username : String
  password : String

/-- The key that a server expects in an answer to a nonce. -/
def StoredUser.key (user : StoredUser) (nonce : String) : String :=
  Md5.hexDigest (nonce ++ user.username
    ++ Md5.hexDigest (user.username ++ ":mongo:" ++ user.password))

/-- Whether a document proves to be from a user: it has to use the nonce that is
outstanding. -/
def StoredUser.IsProof (user : StoredUser) (outstanding : Option String) (request : Document) :
    Prop :=
  match outstanding with
  | none => False
  | some nonce =>
    request.text? "nonce" = some nonce ∧ request.text? "user" = some user.username
      ∧ request.text? "key" = some (user.key nonce)

instance (user : StoredUser) (outstanding : Option String) (request : Document) :
    Decidable (user.IsProof outstanding request) :=
  match outstanding with
  | none => .isFalse id
  | some _ => inferInstanceAs (Decidable (_ ∧ _ ∧ _))

namespace Reply

/-- A refusal with the number of a failed authentication. A name, a message and labels
may come along, as texts. -/
structure IsDenial (reply : Document) : Prop where
  refused : isOk reply = false
  code : reply.get? "code" = some (.int32 18) ∨ reply.get? "code" = some (.int64 18)
  codeName : ∀ value, reply.get? "codeName" = some value → ∃ name, value = .string name
  message : ∀ value, reply.get? "errmsg" = some value → ∃ text, value = .string text
  labels : ∀ value, reply.get? "errorLabels" = some value →
    value = .null ∨ ∃ labels : List String, value = .array (labels.map .string)

/-- A denial describes a failure with its number. -/
theorem IsDenial.exists_reports {reply : Document} (h : IsDenial reply) :
    ∃ e labels, Reports reply e labels ∧ e.code = 18 := by
  have htext : ∀ {key : String}, (∀ value, reply.get? key = some value → ∃ s, value = .string s) →
      ∃ s, reply.HoldsOr key Bson.IsText "" s := by
    intro key hkey
    cases hvalue : reply.get? key with
    | none => exact ⟨"", .inl ⟨hvalue, rfl⟩⟩
    | some value =>
      obtain ⟨s, rfl⟩ := hkey value hvalue
      exact ⟨s, .inr ⟨_, hvalue, .string s⟩⟩
  have hcode : reply.Holds "code" Bson.IsInt32 18 := by
    rcases h.code with hnarrow | hwide
    · exact ⟨_, hnarrow, .narrow 18⟩
    · exact ⟨_, hwide, .wide rfl⟩
  have hlabels : ∃ listed : Option (List String),
      reply.HoldsOr "errorLabels" (Bson.IsOptional (Bson.IsList Bson.IsText)) none listed := by
    cases hvalue : reply.get? "errorLabels" with
    | none => exact ⟨none, .inl ⟨hvalue, rfl⟩⟩
    | some value =>
      rcases h.labels value hvalue with rfl | ⟨labels, rfl⟩
      · exact ⟨none, .inr ⟨_, hvalue, .null⟩⟩
      · exact ⟨some labels, .inr ⟨_, hvalue, .some (Bson.isList_isText_iff.mpr rfl)⟩⟩
  obtain ⟨name, hname⟩ := htext h.codeName
  obtain ⟨message, hmessage⟩ := htext h.message
  obtain ⟨listed, hlisted⟩ := hlabels
  exact ⟨⟨18, name, message⟩, listed.getD [], ⟨hcode, hname, hmessage, listed, hlisted, rfl⟩, rfl⟩

/-- A denial is passed on as a command error with its number. -/
theorem check_of_isDenial {reply : Document} (h : IsDenial reply) :
    ∃ cause, check reply = .error cause ∧ cause.isCommand = true ∧ cause.code? = some 18 := by
  obtain ⟨e, labels, hreports, hcode⟩ := h.exists_reports
  exact ⟨_, check_of_reports h.refused hreports, rfl, congrArg some hcode⟩

end Reply

/-- A server that grants nonces to whoever asks and judges the answers, over states of
any kind. -/
structure Verifier (σ : Type) where
  /-- The user that the server knows. -/
  user : StoredUser
  /-- The reply to a document on the wire, and the state after it. -/
  answer : Document → σ → Document × σ
  /-- The nonces that were granted, first to last. -/
  granted : σ → List String
  /-- The nonce that an answer may still use. -/
  outstanding : σ → Option String
  /-- A request for a nonce is granted one, which is remembered. -/
  grants : ∀ request s, request.keys.head? = some "getnonce" →
    ∃ nonce, Reply.isOk (answer request s).1 = true
      ∧ (answer request s).1.text? "nonce" = some nonce
      ∧ granted (answer request s).2 = granted s ++ [nonce]
      ∧ outstanding (answer request s).2 = some nonce
  /-- An answer is accepted if it is a proof, and denied else. It uses its nonce up. -/
  judges : ∀ request s, request.keys.head? = some "authenticate" →
    (user.IsProof (outstanding s) request → Reply.isOk (answer request s).1 = true)
      ∧ (¬user.IsProof (outstanding s) request → Reply.IsDenial (answer request s).1)
      ∧ granted (answer request s).2 = granted s
      ∧ outstanding (answer request s).2 = none

namespace Verifier

/-- The connection to a server: commands go over the wire, and replies are checked. -/
def connection (server : Verifier σ) (id : ConnectionId) : Connection σ where
  id _ := id
  send command s :=
    let answered := server.answer command.wire s
    (Reply.check answered.1, answered.2)

/-- What a server remembers that takes its nonces from a supply. -/
structure Dispensed where
  granted : List String := []
  outstanding : Option String := none

/-- How such a server replies to a document. -/
def dispense (user : StoredUser) (supply : Nat → String) (request : Document) (s : Dispensed) :
    Document × Dispensed :=
  match request.keys.head? with
  | some "getnonce" =>
    let nonce := supply s.granted.length
    (.ofList [("nonce", .string nonce), ("ok", .int32 1)], ⟨s.granted ++ [nonce], some nonce⟩)
  | some "authenticate" =>
    (if user.IsProof s.outstanding request then .ofList [("ok", .int32 1)]
      else .ofList [("ok", .int32 0), ("errmsg", .string "auth failed"), ("code", .int32 18),
        ("codeName", .string "AuthenticationFailed")],
      { s with outstanding := none })
  | _ => (.ofList [("ok", .int32 0), ("errmsg", .string "no such command"), ("code", .int32 59)], s)

/-- A server for one user that takes its nonces from a supply. -/
def dispensing (user : StoredUser) (supply : Nat → String) : Verifier Dispensed where
  user := user
  answer := dispense user supply
  granted := Dispensed.granted
  outstanding := Dispensed.outstanding
  grants request s h := by
    simp only [dispense, h]
    exact ⟨_, rfl, rfl, rfl, rfl⟩
  judges request s h := by
    simp only [dispense, h]
    refine ⟨fun hproof => ?_, fun hproof => ?_, trivial, trivial⟩
    · rw [if_pos hproof]
      rfl
    · rw [if_neg hproof]
      exact ⟨rfl, .inl rfl, fun _ hname => ⟨_, (Option.some.inj hname).symm⟩,
        fun _ htext => ⟨_, (Option.some.inj htext).symm⟩, fun _ hlabels => by cases hlabels⟩

end Verifier

/-! ## The commands of a client on the wire -/

theorem Command.text?_wire {c : Command} {key : String} (h : key ∉ ownKeys) :
    c.wire.text? key = c.body.text? key := by
  have hown : key ∉ c.ownFields.map Prod.fst := fun hmem => h (c.sublist_ownFields.subset hmem)
  rw [Document.text?, Document.text?, get?_wire_of_notMem hown]

namespace ChallengeResponse

theorem head?_keys_nonceCommand (client : ChallengeResponse) :
    client.nonceCommand.wire.keys.head? = some "getnonce" := by
  apply Command.head?_keys_wire
  rw [Document.keys, client.isNonceRequest_nonceCommand.body]
  rfl

theorem head?_keys_answerCommand (client : ChallengeResponse) (nonce : String) :
    (client.answerCommand nonce).wire.keys.head? = some "authenticate" := by
  apply Command.head?_keys_wire
  rw [Document.keys, (client.isAnswer_answerCommand nonce).body, List.map_cons, List.head?_cons]

/-- What a server finds in an answer: the nonce, the name of the user, and the key. -/
theorem text?_answerCommand (client : ChallengeResponse) (nonce : String) :
    (client.answerCommand nonce).wire.text? "nonce" = some nonce
      ∧ (client.answerCommand nonce).wire.text? "user" = some client.username
      ∧ (client.answerCommand nonce).wire.text? "key" = some (client.key nonce) := by
  have hbody := (client.isAnswer_answerCommand nonce).body
  rw [Command.text?_wire (by decide), Command.text?_wire (by decide),
    Command.text?_wire (by decide)]
  simp only [Document.text?, Document.get?, hbody]
  exact ⟨rfl, rfl, rfl⟩

/-- An answer is a proof if both sides name the same user and derive the same key. -/
theorem isProof_answerCommand (client : ChallengeResponse) (user : StoredUser) (nonce : String) :
    user.IsProof (some nonce) (client.answerCommand nonce).wire ↔
      client.username = user.username ∧ client.key nonce = user.key nonce := by
  obtain ⟨hnonce, huser, hkey⟩ := client.text?_answerCommand nonce
  simp only [StoredUser.IsProof, hnonce, huser, hkey, Option.some.injEq, true_and]

/-! ## Attempts -/

/-- The result of an attempt that a server judged: a success if both sides derive the same
key for the same user, and else a failure that the server's denial caused. -/
structure Verdict (client : ChallengeResponse) (user : StoredUser) (id : ConnectionId)
    (nonce : String) (result : Outcome Unit) : Prop where
  ok_iff : result = .ok () ↔ client.username = user.username ∧ client.key nonce = user.key nonce
  failure : ∀ e, result = .error e →
    ∃ cause, client.IsFailure (some id) cause e ∧ cause.isCommand = true ∧ cause.code? = some 18

/-- An attempt with a nonce that was granted ends as its answer is judged. -/
theorem exchangeBlocking_of_granted {connection : Connection σ} {c : Conversation}
    {s granted judged : σ} {reply : Document} {nonce : String} {verdict : Outcome Document}
    (hc : c.phase = .awaitingNonce) (hn : reply.text? "nonce" = some nonce)
    (hrequest : connection.send c.firstCommand s = (.ok reply, granted))
    (hanswer : connection.send (c.client.answerCommand nonce) granted = (verdict, judged)) :
    c.exchangeBlocking connection c.firstCommand s =
      (verdict.map (fun _ => ()) |>.mapError c.failure, judged) := by
  have hverdict : (c.enter .awaitingVerdict).phase = .awaitingVerdict := rfl
  rw [Conversation.exchangeBlocking_eq, hrequest, Conversation.handle_nonce hc hn]
  dsimp only
  rw [Conversation.exchangeBlocking_eq, hanswer]
  cases verdict with
  | ok reply =>
    rw [Conversation.handle_accepted hverdict]
    rfl
  | error cause =>
    rw [Conversation.handle_rejected hverdict]
    rfl

/-- One attempt uses one new nonce, and comes to a verdict on it. -/
theorem verdict_authenticateBlocking (client : ChallengeResponse) (server : Verifier σ)
    (id : ConnectionId) (s : σ) :
    let attempt := client.authenticateBlocking (server.connection id) s
    ∃ nonce, server.granted attempt.value.2 = server.granted s ++ [nonce]
      ∧ client.Verdict server.user id nonce attempt.value.1 := by
  intro attempt
  obtain ⟨nonce, hok, hn, hgranted, houtstanding⟩ :=
    server.grants client.nonceCommand.wire s client.head?_keys_nonceCommand
  have hjudges := server.judges (client.answerCommand nonce).wire
    (server.answer client.nonceCommand.wire s).2 (client.head?_keys_answerCommand nonce)
  rw [houtstanding, isProof_answerCommand, hgranted] at hjudges
  obtain ⟨haccept, hdeny, hkept, -⟩ := hjudges
  have hrequest : (server.connection id).send client.nonceCommand s =
      (.ok (server.answer client.nonceCommand.wire s).1,
        (server.answer client.nonceCommand.wire s).2) := by
    simp only [Verifier.connection, Reply.check_of_isOk hok]
  have hattempt : ∀ {verdict : Outcome Document} {judged : σ},
      (server.connection id).send (client.answerCommand nonce)
        (server.answer client.nonceCommand.wire s).2 = (verdict, judged) →
      attempt.value =
        (verdict.map (fun _ => ()) |>.mapError (client.conversation (some id)).failure, judged) :=
    exchangeBlocking_of_granted (c := client.conversation (some id)) rfl hn hrequest
  by_cases hagree :
      client.username = server.user.username ∧ client.key nonce = server.user.key nonce
  · have hchecked := Reply.check_of_isOk (haccept hagree)
    rw [hattempt (Prod.ext hchecked rfl)]
    exact ⟨nonce, hkept, iff_of_true rfl hagree, fun e he => by cases he⟩
  · obtain ⟨cause, hchecked, hcommand, hcode⟩ := Reply.check_of_isDenial (hdeny hagree)
    have hfailure := (client.conversation (some id)).isFailure_failure cause
    rw [hattempt (Prod.ext hchecked rfl)]
    refine ⟨nonce, hkept, iff_of_false (fun he => by cases he) hagree, fun e he => ?_⟩
    obtain rfl := Except.error.inj he
    exact ⟨cause, hfailure, hcommand, hcode⟩

/-- Attempts in turn use one new nonce each, and each comes to a verdict on its own. -/
theorem verdicts_replicate (client : ChallengeResponse) (server : Verifier σ) (id : ConnectionId)
    (n : Nat) (s : σ) :
    let attempts := Blocking.replicate (client.authenticateBlocking (server.connection id)) n s
    ∃ nonces, nonces.length = n
      ∧ server.granted attempts.value.2 = server.granted s ++ nonces
      ∧ List.Forall₂ (client.Verdict server.user id) nonces attempts.value.1 := by
  induction n generalizing s with
  | zero => exact ⟨[], rfl, (List.append_nil _).symm, .nil⟩
  | succ n ih =>
    obtain ⟨nonce, hgranted, hverdict⟩ := client.verdict_authenticateBlocking server id s
    obtain ⟨nonces, hlength, hgranteds, hverdicts⟩ :=
      ih (client.authenticateBlocking (server.connection id) s).value.2
    rw [hgranted, List.append_assoc, List.singleton_append] at hgranteds
    exact ⟨nonce :: nonces, congrArg (· + 1) hlength, hgranteds, .cons hverdict hverdicts⟩

/-- The same user with the same password derives the same key from every nonce. -/
theorem Verdict.ok_of_same {client : ChallengeResponse} {user : StoredUser} {id : ConnectionId}
    {nonce : String} {result : Outcome Unit} (h : client.Verdict user id nonce result)
    (husername : client.username = user.username) (hpassword : client.password = user.password) :
    result = .ok () := by
  refine h.ok_iff.mpr ⟨husername, ?_⟩
  simp only [key, answerKey, passwordDigest, StoredUser.key, husername, hpassword]

/-- Clients and servers agree on the key, in any number of attempts in turn on any server,
and in either form. The attempts use the nonces that the server grants meanwhile, one
each, and each comes to a verdict: it succeeds if and only if the user names are the same
and both sides derive the same key. The same password always does. -/
theorem succeeds_iff_keys_agree (client : ChallengeResponse) (server : Verifier σ)
    (id : ConnectionId) (n : Nat) (s : σ) :
    let attempts := Blocking.replicate (client.authenticate.run (server.connection id)) n s
    attempts = Blocking.replicate (client.authenticateBlocking (server.connection id)) n s
      ∧ (∃ nonces, nonces.length = n
          ∧ server.granted attempts.value.2 = server.granted s ++ nonces
          ∧ List.Forall₂ (client.Verdict server.user id) nonces attempts.value.1)
      ∧ (client.username = server.user.username → client.password = server.user.password →
          ∀ result ∈ attempts.value.1, result = .ok ()) := by
  have hforms : client.authenticate.run (server.connection id) =
      client.authenticateBlocking (server.connection id) :=
    funext (client.run_authenticate (server.connection id))
  rw [hforms]
  obtain ⟨nonces, hlength, hgranted, hverdicts⟩ := client.verdicts_replicate server id n s
  refine ⟨rfl, ⟨nonces, hlength, hgranted, hverdicts⟩, fun husername hpassword result hresult => ?_⟩
  obtain ⟨place, hplace, rfl⟩ := List.getElem_of_mem hresult
  have hnonce : place < nonces.length := hverdicts.length_eq ▸ hplace
  exact (hverdicts.get hnonce hplace).ok_of_same husername hpassword

/-- Two attempts on a server that numbers its nonces succeed with the password it knows. -/
theorem succeeds_on_dispensing :
    (Blocking.replicate
      ((ChallengeResponse.mk "alice" "secret" "admin" none).authenticate.run
        ((Verifier.dispensing ⟨"alice", "secret"⟩ fun n => n.repr).connection
          ⟨3, none, "localhost:27017"⟩)) 2 {}).value.1 = [.ok (), .ok ()] := by
  obtain ⟨-, ⟨nonces, hlength, -, hverdicts⟩, hsame⟩ :=
    succeeds_iff_keys_agree ⟨"alice", "secret", "admin", none⟩
      (Verifier.dispensing ⟨"alice", "secret"⟩ fun n => n.repr) ⟨3, none, "localhost:27017"⟩ 2 {}
  exact List.eq_replicate_iff.mpr ⟨hverdicts.length_eq.symm.trans hlength, hsame rfl rfl⟩

end ChallengeResponse

end Negotiation
