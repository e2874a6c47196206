/-
# Negotiation.Error -- everything that can go wrong

An error is a fault with its labels, or a fault that was caused by another error.
Faults are kept as what happened; their wording is in one place, `Fault.message?`.
Connections may fail with errors of their own, so each kind of fault can also be given
in any words. The words that are not chosen here are a parameter, `Wording`.
-/

import Negotiation.CommandError
import Negotiation.ConnectionId
import Negotiation.Mechanism
import Negotiation.NameTable
import Negotiation.Version

namespace Negotiation

/-! ## Faults -/

/-- The numbers of a release, as they are named in messages. -/
inductive Component where
  | major
  | minor
  | patch
  deriving DecidableEq, Repr

/-- The name of a component. -/
def Component.name : Component → String
  | major => "major"
  | minor => "minor"
  | patch => "patch"

/-- Why an argument is refused. -/
inductive ArgumentProblem where
  /-- A number of a version is negative or too large. -/
  | componentOutOfRange (component : Component) (value : Int)
  /-- A list of version numbers lacks the major or the minor one. -/
  | shortVersionArray (components : List Int32)
  /-- There is already a feature of this name. -/
  | featureTaken (name : String)
  /-- There is no feature of this name. -/
  | unknownFeature (name : String)
  /-- No mechanism has this name. -/
  | unknownMechanism (text : String)
  /-- No API version is spelled like this. -/
  | unknownApiVersion (text : String)
  /-- A credential for this mechanism needs a user name. -/
  | noUsername (mechanism : Mechanism)
  /-- A credential for this mechanism needs a password. -/
  | noPassword (mechanism : Mechanism)
  /-- A credential for this mechanism names an empty database. -/
  | emptySource (mechanism : Mechanism)
  /-- Something else, in these words. -/
  | other (message : String)
  deriving DecidableEq, Repr

/-- Why a reply is of no use. -/
inductive ReplyProblem where
  /-- The server refused a command but not in the form of a command error. It may
  have sent a message. -/
  | refused (message : Option String)
  /-- The reply to a request for a nonce has none. -/
  | noNonce
  /-- The reply to a request for build information names no version. -/
  | noVersion
  deriving DecidableEq, Repr

/-- Why authentication fails. -/
inductive AuthenticationProblem where
  /-- The exchange with the server failed. -/
  | failed (username source : String) (connection : Option ConnectionId)
  /-- The mechanism cannot be run. -/
  | unsupported (mechanism : Mechanism)
  /-- Something else, in these words. -/
  | other (message : String) (connection : Option ConnectionId)
  deriving DecidableEq, Repr

/-- What the library itself does wrong. -/
inductive InternalProblem where
  /-- A reply was handed to a conversation that is over. -/
  | conversationOver
  /-- A valid credential lacks a user name or a password. -/
  | incompleteCredential
  /-- Something else, in these words. -/
  | other (message : String)
  deriving DecidableEq, Repr

/-- Why a server cannot do something. -/
inductive ServerProblem where
  /-- The server is too old for a feature. -/
  | tooOld (feature : String) (required actual : Version)
  /-- Something else, in these words. -/
  | other (message : String)
  deriving DecidableEq, Repr

/-- What went wrong. -/
inductive Fault where
  /-- An argument is refused. -/
  | invalidArgument (problem : ArgumentProblem)
  /-- A text holds no version. -/
  | invalidVersion (input : String)
  /-- A connection cannot be authenticated. -/
  | authentication (problem : AuthenticationProblem)
  /-- A document does not describe what it should. -/
  | decoding (problem : DecodeProblem)
  /-- A document cannot be written down, for the reason in these words. -/
  | encoding (message : String)
  /-- The server reports that a command failed. -/
  | command (error : CommandError)
  /-- The library contradicts itself. -/
  | internal (problem : InternalProblem)
  /-- The connection failed. -/
  | io (text : String)
  /-- The server sent a reply that is of no use. -/
  | invalidResponse (problem : ReplyProblem)
  /-- The server cannot do what is asked of it. -/
  | incompatibleServer (problem : ServerProblem)
  deriving DecidableEq, Repr

/-! ## Wording -/

/-- The problem in words. -/
def ArgumentProblem.message : ArgumentProblem → String
  | componentOutOfRange component value =>
    "the " ++ component.name ++ " version must be between 0 and 4294967295, but was "
      ++ toString value
  | shortVersionArray components =>
    "versionArray must contain at least a major and minor version, got ["
      ++ String.intercalate ", " (components.map fun n => toString n.toInt) ++ "]"
  | featureTaken name => "a feature named " ++ name ++ " is already registered"
  | unknownFeature name => "unknown feature: " ++ name
  | unknownMechanism text => "invalid mechanism string: " ++ text
  | unknownApiVersion text => "invalid server api version string: " ++ text
  | noUsername mechanism => "No username provided for " ++ mechanism.name ++ " authentication"
  | noPassword mechanism => "No password provided for " ++ mechanism.name ++ " authentication"
  | emptySource mechanism =>
    mechanism.name ++ " authentication requires a non-empty source database"
  | other message => message

/-- The problem in words. -/
def ReplyProblem.message : ReplyProblem → String
  | refused message => message.getD "invalid server response"
  | noNonce => "getnonce reply did not contain a string nonce"
  | noVersion => "buildInfo reply contained neither version nor versionArray"

/-- The problem in words. -/
def AuthenticationProblem.message : AuthenticationProblem → String
  | failed username source _ =>
    "Unable to authenticate username '" ++ username ++ "' on database '" ++ source ++ "'."
  | unsupported mechanism =>
    mechanism.name ++ " failure: mechanism is not supported by this crate"
  | other message _ => message

/-- The problem in words. -/
def InternalProblem.message : InternalProblem → String
  | conversationOver => "MONGODB-CR conversation received a reply after it finished"
  | incompleteCredential =>
    "validated MONGODB-CR credential is missing a username or password"
  | other message => message

/-- The problem in words. -/
def ServerProblem.message : ServerProblem → String
  | tooOld feature required actual =>
    feature ++ " requires server version " ++ required.render
      ++ " or newer, but the server version is " ++ actual.render
  | other message => message

/-- The fault in words. Some bad documents have no fixed wording. -/
def Fault.message? : Fault → Option String
  | invalidArgument problem =>
    some ("An invalid argument was provided: " ++ problem.message)
  | invalidVersion input => some ("Invalid version string: '" ++ input ++ "'")
  | authentication problem => some problem.message
  | decoding problem => problem.message?
  | encoding message => some message
  | command error => some ("Command failed: " ++ error.render)
  | internal problem => some ("Internal error: " ++ problem.message)
  | io text => some ("I/O error: " ++ text)
  | invalidResponse problem =>
    some ("The server returned an invalid reply to a database operation: " ++ problem.message)
  | incompatibleServer problem =>
    some ("The server does not support a database operation: " ++ problem.message)

/-! ## Errors -/

/-- Labels that a server attaches to a failure: a set, listed in order. -/
abbrev Labels := NameTable (id : String → String)

/-- A fault with its labels, alone or with the error that caused it. -/
inductive Error where
  /-- A fault that nothing else caused. -/
  | root (fault : Fault) (labels : Labels)
  /-- A fault that another error caused. -/
  | because (fault : Fault) (labels : Labels) (cause : Error)
  deriving DecidableEq, Repr

namespace Error

/-- An error without labels that nothing else caused. -/
def ofFault (fault : Fault) : Error :=
  root fault ∅

instance : Coe Fault Error where
  coe := ofFault

/-- What went wrong. -/
def fault : Error → Fault
  | root fault _ => fault
  | because fault _ _ => fault

/-- The labels of the error itself. -/
def labels : Error → Labels
  | root _ labels => labels
  | because _ labels _ => labels

/-- The error that caused this one. -/
def cause? : Error → Option Error
  | root _ _ => none
  | because _ _ cause => some cause

/-- The same fault and labels, caused by another error. -/
def withCause (e cause : Error) : Error :=
  because e.fault e.labels cause

/-! ## Questions about an error -/

/-- Whether authentication failed. -/
def isAuthentication (e : Error) : Bool :=
  match e.fault with
  | .authentication _ => true
  | _ => false

/-- Whether the server reported a failed command. -/
def isCommand (e : Error) : Bool :=
  match e.fault with
  | .command _ => true
  | _ => false

/-- Whether an argument was refused. -/
def isInvalidArgument (e : Error) : Bool :=
  match e.fault with
  | .invalidArgument _ => true
  | _ => false

/-- Whether the server is too old. -/
def isIncompatibleServer (e : Error) : Bool :=
  match e.fault with
  | .incompatibleServer .. => true
  | _ => false

/-- The failure that the server reported. -/
def command? (e : Error) : Option CommandError :=
  match e.fault with
  | .command error => some error
  | _ => none

/-- The number of the failure that the server reported. Causes do not count. -/
def code? (e : Error) : Option Int32 :=
  e.command?.map CommandError.code

/-- The connection that could not be authenticated. -/
def connection? (e : Error) : Option ConnectionId :=
  match e.fault with
  | .authentication (.failed _ _ connection) => connection
  | .authentication (.other _ connection) => connection
  | _ => none

end Error

/-! ## Errors in words -/

/-- The words that are chosen elsewhere: by the code that decodes documents, by sets of
labels, and by the way in which errors are written out in full. -/
structure Wording where
  /-- A fault that has no fixed wording, in words. -/
  fault : Fault → String
  /-- Labels in the order in which a set of them lists them. -/
  listed : List String → List String
  /-- A set lists each label once, and nothing else. -/
  listed_perm : ∀ labels, (listed labels).Perm labels
  /-- An error written out in full, where it is the cause of another. -/
  cause : Error → String

/-- No words at all, and labels in ascending order. -/
instance : Inhabited Wording where
  default := ⟨fun _ => "", id, .refl, fun _ => ""⟩

/-- The fault in words. -/
def Fault.message (w : Wording) (fault : Fault) : String :=
  fault.message?.getD (w.fault fault)

/-- A set of labels in words. -/
def Labels.render (w : Wording) (labels : Labels) : String :=
  "\x7b" ++ String.intercalate ", " ((w.listed labels.toList).map Text.quote) ++ "\x7d"

/-- An error in one line: what went wrong, the labels, and the cause if there is one. -/
def Error.display (w : Wording) (e : Error) : String :=
  "Kind: " ++ e.fault.message w ++ ", labels: " ++ Labels.render w e.labels ++ ", source: "
    ++ match e.cause? with
      | some cause => "Some(" ++ w.cause cause ++ ")"
      | none => "None"

/-- The outcome of an operation that can fail. -/
abbrev Outcome (α : Type) := Except Error α

/-- Turns the problem of a document into an error. -/
def Outcome.ofDecode {α : Type} : Except DecodeProblem α → Outcome α
  | .ok a => .ok a
  | .error problem => .error (Fault.decoding problem)

end Negotiation
