/-
# Negotiation.Authenticator -- anything that can authenticate a connection

The handshake works with any authenticator: something that may change the first
document sent on a connection, and that then authenticates the connection, in
either form.
-/

import Negotiation.ChallengeResponse.Authenticate

namespace Negotiation

/-- A way to authenticate connections. -/
structure Authenticator where
  /-- The mechanism that is run. -/
  mechanism : Mechanism
  /-- Changes the body of the first command of a connection. -/
  customizeHello : Document → Document := id
  /-- Authenticates a connection, stopping at each command. -/
  authenticate : Exchange (Outcome Unit)
  /-- Authenticates a connection, waiting for each reply. -/
  authenticateBlocking : {σ : Type} → Connection σ → Blocking σ (Outcome Unit)

/-- The challenge-response mechanism, which leaves the first command as it is. -/
def ChallengeResponse.authenticator (client : ChallengeResponse) : Authenticator where
  mechanism := .challengeResponse
  authenticate := client.authenticate
  authenticateBlocking := client.authenticateBlocking

/-- The same authenticator, which also writes fields into the first command. -/
def Authenticator.annotating (a : Authenticator) (fields : List (String × Bson)) :
    Authenticator :=
  { a with customizeHello := fun hello => hello.insertAll fields }

end Negotiation
