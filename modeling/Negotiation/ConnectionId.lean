/-
# Negotiation.ConnectionId -- which connection an error or an event is about
-/

import Negotiation.Text.Numeral

namespace Negotiation

/-- Names a connection in errors and events. -/
structure ConnectionId where
  /-- The number the client gave the connection. -/
  id : UInt32
  /-- The number the server gave the connection, once it has said so. -/
  serverId : Option Int64
  /-- The address that the connection leads to. -/
  address : String
  deriving DecidableEq, Repr

namespace ConnectionId

/-- The connection in words. -/
def render (c : ConnectionId) : String :=
  "connection " ++ Numeral.render c.id ++ " to " ++ c.address

instance : ToString ConnectionId where
  toString := render

end ConnectionId

end Negotiation
