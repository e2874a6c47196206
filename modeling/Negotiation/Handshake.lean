/-
# Negotiation.Handshake -- the first commands of a connection

A new connection starts with a hello that says who the client is. If the connection
is to be authenticated, the authenticator may change the hello before it is sent,
and runs after it was answered.
-/

import Negotiation.Authenticator

namespace Negotiation

/-- Where the client runs. -/
structure Platform where
  /-- The operating system. -/
  os : String
  /-- The processor architecture. -/
  architecture : String
  deriving DecidableEq, Repr

/-- What shapes the handshake. -/
structure Handshake where
  /-- Where the client runs. -/
  platform : Platform
  /-- The application that the client serves. -/
  appName : Option String := none
  /-- The declared server API. Declaring one makes sure that `hello` is sent. -/
  serverApi : Option ServerApi := none
  /-- Whether the server is known to understand `hello`. -/
  helloOk : Option Bool := none

namespace Handshake

/-! ## Commands -/

/-- Whether `hello` is sent, and not its older form. -/
def usesHello (api : Option ServerApi) (helloOk : Option Bool) : Bool :=
  api.isSome || helloOk == some true

/-- The bare hello. If it is unknown whether the server understands `hello`, the
older form asks. -/
def helloCommand (api : Option ServerApi) (helloOk : Option Bool) : Command :=
  if usesHello api helloOk then
    { name := "hello", database := "admin", body := .ofList [("hello", .int32 1)]
      serverApi := api }
  else
    { name := "isMaster", database := "admin"
      body := (Document.ofList [("isMaster", .int32 1)]).insert? "helloOk"
        (if helloOk.isNone then some (.bool true) else none)
      serverApi := api }

/-- Who the client is. -/
def clientMetadata (platform : Platform) (appName : Option String) : Document :=
  (Document.ofList
    [("driver", .document [("name", .string "mongodb-core"), ("version", .string "0.1.0")]),
      ("os", .document [("type", .string platform.os),
        ("architecture", .string platform.architecture)])]).insert?
    "application" (appName.map fun name => .document [("name", .string name)])

/-- The hello of a connection that is not authenticated. -/
def command (h : Handshake) : Command :=
  let hello := helloCommand h.serverApi h.helloOk
  { hello with
    body := hello.body.insert "client" (clientMetadata h.platform h.appName).toBson }

/-- The hello of a connection that is authenticated. -/
def authenticatedCommand (h : Handshake) (a : Authenticator) : Command :=
  { h.command with body := a.customizeHello h.command.body }

/-! ## Over a connection -/

/-- Sends the hello and authenticates; the result is the reply to the hello. -/
def run (h : Handshake) (a : Authenticator) : Exchange (Outcome Document) :=
  .send (h.authenticatedCommand a) fun
    | .error e => .done (.error e)
    | .ok reply => a.authenticate.bind fun result => .done (result.map fun _ => reply)

/-- Sends the hello and authenticates, waiting for each reply; the result is the
reply to the hello. -/
def runBlocking {σ : Type} (h : Handshake) (a : Authenticator) (connection : Connection σ) :
    Blocking σ (Outcome Document) := fun s =>
  match connection.send (h.authenticatedCommand a) s with
  | (.error e, s) => .quiet (.error e, s)
  | (.ok reply, s) =>
    let authenticated := a.authenticateBlocking connection s
    ⟨(authenticated.value.1.map fun _ => reply, authenticated.value.2), authenticated.events⟩

end Handshake

end Negotiation
