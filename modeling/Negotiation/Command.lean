/-
# Negotiation.Command -- commands and what goes on the wire

A command is a document whose first key is the name of the command. On the wire the
document also names the database, and declares the server API if one was declared.
-/

import Negotiation.ServerApi

namespace Negotiation

/-- A command for a database. -/
structure Command where
  /-- The name of the command. -/
  name : String
  /-- The database that the command is for. -/
  database : String
  /-- The document of the command; its first key is the name. -/
  body : Document
  /-- The declared server API. -/
  serverApi : Option ServerApi := none

namespace Command

/-- The document that is sent: the body, then the database and the declared API.
These fields have the last word even if the body has fields of their names. -/
def wire (c : Command) : Document :=
  let addressed := c.body.insert "$db" (.string c.database)
  match c.serverApi with
  | some api => api.writeTo addressed
  | none => addressed

end Command

end Negotiation
