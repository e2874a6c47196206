/-
# Negotiation.BuildInfo -- asking a server for its version

The `buildInfo` command makes a server describe its build. The version text is
preferred, as it carries the pre-release tag; the list of version numbers serves
when there is no text. Fields of the wrong type make the reply unreadable, even if
another field would do.
-/

import Negotiation.Connection
import Negotiation.Version.Checked

namespace Negotiation

/-- What a server says about its build. -/
structure BuildInfo where
  /-- The version text. -/
  version : Option String
  /-- The numbers of the version. -/
  versionArray : Option (List Int32)
  /-- The commit that the server was built from. -/
  gitVersion : Option String
  deriving DecidableEq, Repr

namespace BuildInfo

/-- The command that asks for the build. -/
def command : Command :=
  { name := "buildInfo", database := "admin", body := .ofList [("buildInfo", .int32 1)] }

/-- Reads a reply. -/
def ofReply (reply : Document) : Outcome BuildInfo := .ofDecode do
  let version ← reply.optional "version" Reader.text
  let versionArray ← reply.optional "versionArray" (Reader.list Reader.int32)
  let gitVersion ← reply.optional "gitVersion" Reader.text
  return ⟨version, versionArray, gitVersion⟩

/-- The version of the server. -/
def serverVersion (info : BuildInfo) : Outcome Version :=
  match info.version, info.versionArray with
  | some text, _ => Version.parse text
  | none, some components => Version.ofArray components
  | none, none => .error (Fault.invalidResponse .noVersion)

/-- The version that a reply names. -/
def versionOfReply (reply : Document) : Outcome Version := do
  let info ← ofReply reply
  info.serverVersion

end BuildInfo

/-- Asks a server for its version. -/
def serverVersion : Exchange (Outcome Version) :=
  .send BuildInfo.command fun reply => .done (reply >>= BuildInfo.versionOfReply)

/-- Asks a server for its version, waiting for the reply. -/
def serverVersionBlocking {σ : Type} (connection : Connection σ) :
    Blocking σ (Outcome Version) := fun s =>
  match connection.send BuildInfo.command s with
  | (.ok reply, s) => .quiet (BuildInfo.versionOfReply reply, s)
  | (.error e, s) => .quiet (.error e, s)

end Negotiation
