/-
# Negotiation.Connection -- commands over a connection

A connection answers commands one at a time. What it is like inside is left open: a
connection is given by how it answers a command in a state. Operations over a
connection come in two forms. The blocking form runs on a connection directly. The
suspending form is an `Exchange`, a program that says which command to send next and
how to go on with the reply, so that whoever runs it may wait in between.
-/

import Negotiation.Command
import Negotiation.Event

namespace Negotiation

/-- How a connection behaves in each of its states. -/
structure Connection (σ : Type) where
  /-- The identity of the connection. -/
  id : σ → ConnectionId
  /-- The answer to a command, and the state after it. -/
  send : Command → σ → Outcome Document × σ

/-- An operation that runs on a connection until it is finished: from the state of
the connection to the result and the state after it. -/
abbrev Blocking (σ α : Type) := σ → Reported (α × σ)

/-- An operation that stops at each command to wait for the reply. -/
inductive Exchange (α : Type) where
  /-- The operation is finished. -/
  | done (result : α)
  /-- Goes on with the identity of the connection. -/
  | identify (next : ConnectionId → Exchange α)
  /-- Sends a command and goes on with its outcome. -/
  | send (command : Command) (next : Outcome Document → Exchange α)
  /-- Reports an event and goes on. -/
  | report (event : Event) (next : Exchange α)

namespace Exchange

variable {α β σ : Type}

/-- Goes on with another operation when one is finished. -/
def bind : Exchange α → (α → Exchange β) → Exchange β
  | done result, f => f result
  | identify next, f => identify fun c => bind (next c) f
  | send command next, f => send command fun reply => bind (next reply) f
  | report event next, f => report event (bind next f)

/-- Runs an operation on a connection. -/
def run (connection : Connection σ) : Exchange α → Blocking σ α
  | done result, s => .quiet (result, s)
  | identify next, s => run connection (next (connection.id s)) s
  | send command next, s =>
    let (reply, s) := connection.send command s
    run connection (next reply) s
  | report event next, s =>
    let rest := run connection next s
    ⟨rest.value, event :: rest.events⟩

/-- Running two operations in turn: the second goes on in the state that the first
leaves, and its events follow. -/
theorem run_bind (connection : Connection σ) (e : Exchange α) (f : α → Exchange β) (s : σ) :
    (e.bind f).run connection s =
      let first := e.run connection s
      let second := (f first.value.1).run connection first.value.2
      ⟨second.value, first.events ++ second.events⟩ := by
  induction e generalizing s with
  | done result => rfl
  | identify next ih => exact ih _ _
  | send command next ih => exact ih _ _
  | report event next ih => simp [bind, run, ih]

end Exchange

namespace Blocking

variable {α σ : Type}

/-- Runs an operation several times over the same connection. -/
def replicate (operation : Blocking σ α) : Nat → Blocking σ (List α)
  | 0, s => .quiet ([], s)
  | n + 1, s =>
    let first := operation s
    let rest := replicate operation n first.value.2
    ⟨(first.value.1 :: rest.value.1, rest.value.2), first.events ++ rest.events⟩

end Blocking

end Negotiation
