/-
# Negotiation.Proofs.HelloAnnotations -- what stands in a hello that was annotated

An authenticator may write any fields into a hello before it is sent, under any keys. The
keys of the hello may be among them, and so may those that the command uses for itself.
Writing fields never moves a key, so the command is still told by its first key, and what
the command writes itself has the last word. A server that goes by the first key hence
understands every command that a client sends.
-/

import Negotiation.BuildInfo
import Negotiation.Handshake
import Negotiation.Proofs.ServerAgreement
import Negotiation.Proofs.WireFields

namespace Negotiation

/-! ## Commands told by their first key -/

theorem Document.head?_keys_insertAll {d : Document} {key : String} (fields : List (String × Bson))
    (h : d.keys.head? = some key) : (d.insertAll fields).keys.head? = some key := by
  rw [keys_insertAll, List.head?_append, h, Option.some_or]

/-- On the wire the first key is the name of the command, and the database is named. -/
structure Command.IsAddressed (c : Command) : Prop where
  name : c.wire.keys.head? = some c.name
  database : c.wire.get? "$db" = some (.string c.database)

theorem Command.isAddressed_of_head? {c : Command} (h : c.body.keys.head? = some c.name) :
    c.IsAddressed :=
  ⟨head?_keys_wire h, get?_wire_of_mem (List.mem_cons_self ..)⟩

namespace ChallengeResponse

theorem isAddressed_nonceCommand (client : ChallengeResponse) :
    client.nonceCommand.IsAddressed :=
  ⟨client.head?_keys_nonceCommand, Command.get?_wire_of_mem (List.mem_cons_self ..)⟩

theorem isAddressed_answerCommand (client : ChallengeResponse) (nonce : String) :
    (client.answerCommand nonce).IsAddressed :=
  ⟨client.head?_keys_answerCommand nonce, Command.get?_wire_of_mem (List.mem_cons_self ..)⟩

end ChallengeResponse

theorem BuildInfo.isAddressed_command : BuildInfo.command.IsAddressed :=
  Command.isAddressed_of_head? rfl

/-! ## Hellos -/

namespace Handshake

theorem database_command (h : Handshake) : h.command.database = "admin" := by
  simp only [command, helloCommand]
  split <;> rfl

theorem serverApi_command (h : Handshake) : h.command.serverApi = h.serverApi := by
  simp only [command, helloCommand]
  split <;> rfl

/-- The name comes first, and what follows it is written later. -/
theorem head?_keys_command (h : Handshake) : h.command.body.keys.head? = some h.command.name := by
  have hello : (helloCommand h.serverApi h.helloOk).body.keys.head? =
      some (helloCommand h.serverApi h.helloOk).name := by
    simp only [helloCommand]
    split
    · rfl
    · cases h.helloOk <;> rfl
  exact Document.head?_keys_insertAll [("client", _)] hello

variable {h : Handshake} {a : Authenticator} {notes : List (String × Bson)}

/-- The keys that an annotation adds to a hello, in the order in which they are first written. -/
def addedKeys (h : Handshake) (notes : List (String × Bson)) : List String :=
  ((notes.map Prod.fst).filter (· ∉ h.command.body.keys)).eraseDups

theorem mem_keys_of_mem_addedKeys {key : String} (hkey : key ∈ h.addedKeys notes) :
    key ∈ notes.map Prod.fst :=
  List.mem_of_mem_filter (List.mem_eraseDups.mp hkey)

/-- An annotation changes the body and nothing else. -/
theorem authenticatedCommand_annotating (h : Handshake) (a : Authenticator)
    (notes : List (String × Bson)) :
    h.authenticatedCommand (a.annotating notes) =
      { h.command with body := h.command.body.insertAll notes } :=
  rfl

theorem ownFields_annotating (h : Handshake) (a : Authenticator)
    (notes : List (String × Bson)) :
    (h.authenticatedCommand (a.annotating notes)).ownFields = h.command.ownFields :=
  rfl

theorem isAddressed_annotating (h : Handshake) (a : Authenticator)
    (notes : List (String × Bson)) :
    (h.authenticatedCommand (a.annotating notes)).IsAddressed := by
  apply Command.isAddressed_of_head?
  rw [authenticatedCommand_annotating]
  exact Document.head?_keys_insertAll notes h.head?_keys_command

/-- The keys of the hello stay where they are; new ones follow, and behind them those of
the command that are still missing. -/
theorem keys_wire_annotating (h : Handshake) (a : Authenticator)
    (notes : List (String × Bson)) :
    (h.authenticatedCommand (a.annotating notes)).wire.keys =
      h.command.body.keys ++ h.addedKeys notes
        ++ (h.command.ownFields.map Prod.fst).filter
          (· ∉ h.command.body.keys ++ h.addedKeys notes) := by
  have hbody : (h.authenticatedCommand (a.annotating notes)).body.keys =
      h.command.body.keys ++ h.addedKeys notes :=
    Document.keys_insertAll _ _
  rw [Command.keys_wire, hbody, ownFields_annotating]

/-- Without the keys that an annotation writes, the wire has the same keys in the same order. -/
theorem filter_keys_wire_annotating (h : Handshake) (a : Authenticator)
    (notes : List (String × Bson)) :
    (h.authenticatedCommand (a.annotating notes)).wire.keys.filter
        (· ∉ notes.map Prod.fst) =
      h.command.wire.keys.filter (· ∉ notes.map Prod.fst) := by
  have hadded : (h.addedKeys notes).filter (· ∉ notes.map Prod.fst) = [] := by
    rw [List.filter_eq_nil_iff]
    intro key hkey
    simpa using mem_keys_of_mem_addedKeys hkey
  rw [keys_wire_annotating, Command.keys_wire, List.filter_append, List.filter_append, hadded,
    List.append_nil, List.filter_append, List.filter_filter, List.filter_filter]
  congr 1
  -- a key that is not written is not added either, so it is missing in both or in none
  apply List.filter_congr
  intro key _
  have himp : key ∈ h.addedKeys notes → key ∈ notes.map Prod.fst :=
    mem_keys_of_mem_addedKeys
  by_cases hwritten : key ∈ notes.map Prod.fst
  · simp only [hwritten, not_true_eq_false, decide_false, Bool.false_and]
  · have hold : key ∉ h.addedKeys notes := fun hadd => hwritten (himp hadd)
    simp only [List.mem_append, hold, or_false]

/-- A key that is not of the command has the value that was written last, or else its own. -/
theorem get?_wire_annotating_of_notMem {key : String} (a : Authenticator)
    (notes : List (String × Bson)) (hkey : key ∉ h.command.ownFields.map Prod.fst) :
    (h.authenticatedCommand (a.annotating notes)).wire.get? key =
      (notes.reverse.lookup key).or (h.command.body.get? key) := by
  rw [← ownFields_annotating h a notes] at hkey
  rw [Command.get?_wire_of_notMem hkey]
  exact Document.get?_insertAll _ _ _

/-- A key that is not written by an annotation has the value that it has without it. -/
theorem get?_wire_annotating {key : String} (a : Authenticator)
    (hkey : key ∉ notes.map Prod.fst) :
    (h.authenticatedCommand (a.annotating notes)).wire.get? key =
      h.command.wire.get? key := by
  by_cases hown : key ∈ h.command.ownFields.map Prod.fst
  · obtain ⟨field, hfield, rfl⟩ := List.mem_map.mp hown
    rw [Command.get?_wire_of_mem hfield]
    exact Command.get?_wire_of_mem hfield
  · rw [Command.get?_wire_of_notMem hown]
    rw [← ownFields_annotating h a notes] at hown
    rw [Command.get?_wire_of_notMem hown]
    exact Document.get?_insertAll_of_notMem hkey

/-- The hello of a connection that is authenticated, whichever fields its authenticator
writes into it in turn:

* it has the name, the database, which is `admin`, and the API of the hello of a connection
  that is not authenticated, and is told by its first key;
* keys of the hello stay where they are, new ones follow in the order of their first
  writing, and behind them what the command writes itself and the hello does not have yet;
* a key that is not of the command has the value that was written last, or else its own;
  a key of the command has the value of the command;
* keys that were not written keep their values and their order;
* an authenticator that leaves the body as it is leaves the hello as it is, and the
  challenge-response mechanism does.

The commands that ask for a nonce, answer it and ask for the version are told by their first
keys as well, and name their databases. -/
theorem annotated_in_place (h : Handshake) (a : Authenticator) (notes : List (String × Bson)) :
    let plain := h.command
    let hello := h.authenticatedCommand (a.annotating notes)
    (hello.name = plain.name ∧ hello.database = plain.database ∧ plain.database = "admin"
        ∧ hello.serverApi = plain.serverApi ∧ plain.serverApi = h.serverApi)
      ∧ hello.IsAddressed
      ∧ (hello.wire.keys = plain.body.keys ++ h.addedKeys notes
          ++ (plain.ownFields.map Prod.fst).filter (· ∉ plain.body.keys ++ h.addedKeys notes))
      ∧ (∀ key, key ∉ plain.ownFields.map Prod.fst →
          hello.wire.get? key = (notes.reverse.lookup key).or (plain.body.get? key))
      ∧ (∀ field ∈ plain.ownFields, hello.wire.get? field.1 = some field.2)
      ∧ (∀ key, key ∉ notes.map Prod.fst → hello.wire.get? key = plain.wire.get? key)
      ∧ hello.wire.keys.filter (· ∉ notes.map Prod.fst) =
          plain.wire.keys.filter (· ∉ notes.map Prod.fst)
      ∧ (∀ b : Authenticator, b.customizeHello plain.body = plain.body →
          h.authenticatedCommand b = plain)
      ∧ (∀ client : ChallengeResponse, h.authenticatedCommand client.authenticator = plain)
      ∧ (∀ client : ChallengeResponse, client.nonceCommand.IsAddressed
          ∧ client.nonceCommand.database = client.source
          ∧ ∀ nonce, (client.answerCommand nonce).IsAddressed
            ∧ (client.answerCommand nonce).database = client.source)
      ∧ BuildInfo.command.IsAddressed := by
  intro plain hello
  refine ⟨⟨rfl, rfl, h.database_command, rfl, h.serverApi_command⟩,
    h.isAddressed_annotating a notes, h.keys_wire_annotating a notes,
    fun key => get?_wire_annotating_of_notMem a notes, ?_, fun key => get?_wire_annotating a,
    h.filter_keys_wire_annotating a notes, ?_, fun client => rfl, ?_,
    BuildInfo.isAddressed_command⟩
  · intro field hfield
    exact Command.get?_wire_of_mem hfield
  · intro b hb
    rw [authenticatedCommand, hb]
  · intro client
    exact ⟨client.isAddressed_nonceCommand, rfl, fun nonce =>
      ⟨client.isAddressed_answerCommand nonce, rfl⟩⟩

-- the name stays in front, and a database that is written in is overwritten where it stands
example :
    let h : Handshake := { platform := ⟨"OS", "ARCH"⟩, helloOk := some true }
    let a := (ChallengeResponse.mk "alice" "secret" "admin" none).authenticator
    (h.authenticatedCommand (a.annotating
      [("x", .int32 1), ("$db", .string "test"), ("hello", .int32 2), ("x", .null)])).wire.keys =
        ["hello", "client", "x", "$db"] := by decide

end Handshake

end Negotiation
