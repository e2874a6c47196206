/-
# Negotiation.ChallengeResponse -- proving a password without sending it

The challenge-response mechanism keeps the password on the client. The server sends
a nonce, and the client answers with a key made from the nonce, the user name and
the password. The client is set up once from a credential; it then needs nothing
but two round trips.
-/

import Negotiation.Command
import Negotiation.Credential
import Negotiation.Md5

namespace Negotiation

/-- A client of the challenge-response mechanism. -/
structure ChallengeResponse where
  /-- The name of the user. -/
  username : String
  /-- The password of the user. -/
  password : String
  /-- The database that holds the user. -/
  source : String
  /-- The server API declared on every command. -/
  serverApi : Option ServerApi := none
  deriving DecidableEq

namespace ChallengeResponse

/-! ## Setting up -/

/-- The client for a credential that has what the mechanism needs. -/
def ofCredential (c : Credential) : Outcome ChallengeResponse := do
  Mechanism.challengeResponse.validate c
  match c.username, c.password with
  | some username, some password => return ⟨username, password, c.resolvedSource, none⟩
  | _, _ => .error (Fault.internal .incompleteCredential)

/-- The client, declaring this server API or none. -/
def withServerApi (client : ChallengeResponse) (api : Option ServerApi) : ChallengeResponse :=
  { client with serverApi := api }

/-- An optional truth value in words. -/
def renderFlag : Option Bool → String
  | none => "None"
  | some b => "Some(" ++ toString b ++ ")"

/-- The declared server API in words. -/
def renderApi : Option ServerApi → String
  | none => "None"
  | some api =>
    "Some(ServerApi \x7b version: V" ++ api.version.render
      ++ ", strict: " ++ renderFlag api.strict
      ++ ", deprecation_errors: " ++ renderFlag api.deprecationErrors ++ " \x7d)"

/-- The client in words, which do not tell the password. -/
def render (client : ChallengeResponse) : String :=
  "MongoDbCrAuthenticator \x7b username: " ++ Text.quote client.username
    ++ ", source: " ++ Text.quote client.source
    ++ ", server_api: " ++ renderApi client.serverApi ++ ", .. \x7d"

instance : ToString ChallengeResponse where
  toString := render

/-! ## Commands -/

/-- A command for the database that holds the user. -/
def command (client : ChallengeResponse) (name : String) (body : Document) : Command :=
  { name := name, database := client.source, body := body, serverApi := client.serverApi }

/-- The command that asks for a nonce. -/
def nonceCommand (client : ChallengeResponse) : Command :=
  client.command "getnonce" (.ofList [("getnonce", .int32 1)])

/-- The digest that stands for a password on both sides. -/
def passwordDigest (username password : String) : String :=
  Md5.hexDigest (username ++ ":mongo:" ++ password)

/-- The key that answers a nonce. -/
def answerKey (nonce username digest : String) : String :=
  Md5.hexDigest (nonce ++ username ++ digest)

/-- The key with which the client answers a nonce. -/
def key (client : ChallengeResponse) (nonce : String) : String :=
  answerKey nonce client.username (passwordDigest client.username client.password)

/-- The command that answers a nonce. -/
def answerCommand (client : ChallengeResponse) (nonce : String) : Command :=
  client.command "authenticate" (.ofList
    [("authenticate", .int32 1), ("user", .string client.username),
      ("nonce", .string nonce), ("key", .string (client.key nonce))])

/-- The nonce in a reply, which has to be a text. -/
def nonceOfReply (reply : Document) : Outcome String :=
  match reply.text? "nonce" with
  | some nonce => .ok nonce
  | none => .error (Fault.invalidResponse .noNonce)

end ChallengeResponse

/-- The client that runs a mechanism for a credential. Only the challenge-response
mechanism can be run, whichever one the credential itself names. -/
def Mechanism.client (m : Mechanism) (c : Credential) : Outcome ChallengeResponse :=
  match m with
  | .challengeResponse => ChallengeResponse.ofCredential c
  | _ => .error (Fault.authentication (.unsupported m))

end Negotiation
