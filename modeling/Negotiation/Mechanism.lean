/-
# Negotiation.Mechanism -- authentication mechanisms

All mechanisms that a configuration can name. Only the challenge-response mechanism
can be run; the others are known so that naming them is refused in clear words.
-/

namespace Negotiation

/-- The ways to authenticate. -/
inductive Mechanism where
  /-- A nonce of the server, answered with a digest of the password. -/
  | challengeResponse
  /-- Salted challenge-response over SHA-1. -/
  | scramSha1
  /-- Salted challenge-response over SHA-256. -/
  | scramSha256
  /-- Client certificates. -/
  | x509
  /-- Kerberos. -/
  | gssapi
  /-- The password in the clear, for an external directory. -/
  | plain
  /-- Credentials of a cloud account. -/
  | aws
  /-- Access tokens. -/
  | oidc
  deriving DecidableEq, Repr

namespace Mechanism

/-- Every mechanism. -/
def all : List Mechanism :=
  [challengeResponse, scramSha1, scramSha256, x509, gssapi, plain, aws, oidc]

/-- The name of a mechanism in configurations and towards the server. -/
def name : Mechanism → String
  | challengeResponse => "MONGODB-CR"
  | scramSha1 => "SCRAM-SHA-1"
  | scramSha256 => "SCRAM-SHA-256"
  | x509 => "MONGODB-X509"
  | gssapi => "GSSAPI"
  | plain => "PLAIN"
  | aws => "MONGODB-AWS"
  | oidc => "MONGODB-OIDC"

instance : ToString Mechanism where
  toString := name

/-- The mechanism of a name. -/
def ofName? (text : String) : Option Mechanism :=
  all.find? fun m => m.name == text

/-- Whether a mechanism proves knowledge of a password kept by the server. -/
def usesPassword : Mechanism → Bool
  | challengeResponse | scramSha1 | scramSha256 => true
  | _ => false

/-- The database that holds the users of a mechanism unless one is named. -/
def defaultSource (m : Mechanism) : String :=
  if m.usesPassword then "admin" else "$external"

end Mechanism

end Negotiation
