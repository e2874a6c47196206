/-
# Negotiation.CommandError -- what a server says about a failed command
-/

import Negotiation.Document.Reader

namespace Negotiation

/-- A failure that a server reports in place of an answer. -/
structure CommandError where
  /-- The number of the failure. -/
  code : Int32
  /-- The name that goes with the number. -/
  codeName : String := ""
  /-- What happened. -/
  message : String := ""
  deriving DecidableEq, Repr

namespace CommandError

/-- The failure in words. -/
def render (e : CommandError) : String :=
  "Error code " ++ toString e.code.toInt ++ " (" ++ e.codeName ++ "): " ++ e.message

instance : ToString CommandError where
  toString := render

/-- The failure as fields of a reply. -/
def toDocument (e : CommandError) : Document :=
  Document.ofList
    [("code", .int32 e.code), ("codeName", .string e.codeName), ("errmsg", .string e.message)]

/-- Reads a failure from a reply. The number must be there; a missing name or
message is empty. -/
def ofDocument (d : Document) : Except DecodeProblem CommandError := do
  let code ← d.required "code" Reader.int32
  let codeName ← d.withDefault "codeName" Reader.text ""
  let message ← d.withDefault "errmsg" Reader.text ""
  return ⟨code, codeName, message⟩

end CommandError

end Negotiation
