/-
# Negotiation.Reply -- telling answers from refusals

A reply whose `ok` field reads as the integer 1 is an answer. Every other reply is a
refusal: a command error if it has the form of one, and else of no use.
-/

import Negotiation.Error

namespace Negotiation.Reply

/-- Whether a reply is an answer. -/
def isOk (reply : Document) : Bool :=
  (reply.get? "ok" >>= Bson.toInt64?) == some 1

/-- Reads a refusal in the form of a command error, with the labels that come along. -/
def failure (reply : Document) : Except DecodeProblem Error := do
  let labels ← reply.optional "errorLabels" (Reader.list Reader.text)
  let error ← CommandError.ofDocument reply
  return .root (.command error) (NameTable.ofList (labels.getD []))

/-- Passes an answer on unchanged and turns a refusal into an error. -/
def check (reply : Document) : Outcome Document :=
  if isOk reply then .ok reply
  else match failure reply with
    | .ok error => .error error
    | .error _ => .error (Fault.invalidResponse (.refused (reply.text? "errmsg")))

end Negotiation.Reply
