/-
# Negotiation.Connection.Scripted -- connections that replay a script

A scripted connection answers with prepared outcomes, one for each command, and
keeps the commands that it was sent. It can be cancelled after a number of commands:
from then on it answers nothing and its script stays where it is.
-/

import Negotiation.Connection

namespace Negotiation

/-- The state of a scripted connection. -/
structure Script where
  /-- The identity of the connection. -/
  id : ConnectionId
  /-- The outcomes of the commands to come. -/
  outcomes : List (Outcome Document)
  /-- How many commands are answered before the connection is cancelled. -/
  cancelAfter : Option Nat := none
  /-- The commands sent so far, first to last. -/
  sent : List Command := []

namespace Script

/-- Whether more commands were sent than the connection answers. -/
def isCancelled (s : Script) : Bool :=
  match s.cancelAfter with
  | some n => n < s.sent.length
  | none => false

/-- Keeps a command and gives the next outcome. -/
def send (command : Command) (s : Script) : Outcome Document × Script :=
  let s := { s with sent := s.sent ++ [command] }
  if s.isCancelled then (.error (Fault.io "cancelled"), s)
  else match s.outcomes with
    | outcome :: rest => (outcome, { s with outcomes := rest })
    | [] => (.error (Fault.io "no reply scripted"), s)

/-- The connection that replays a script. -/
def connection : Connection Script where
  id := Script.id
  send := send

end Script

end Negotiation
