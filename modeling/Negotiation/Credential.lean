/-
# Negotiation.Credential -- who authenticates, and how

A credential may lack any of its parts. Which of them are needed is for the
mechanism to say.
-/

import Negotiation.FromText

namespace Negotiation

/-- What a client authenticates with. -/
structure Credential where
  /-- The name of the user. -/
  username : Option String := none
  /-- The database that holds the user. -/
  source : Option String := none
  /-- The password of the user. -/
  password : Option String := none
  /-- The mechanism to use. -/
  mechanism : Option Mechanism := none
  deriving DecidableEq

namespace Mechanism

/-- The mechanism of a name, which has to be one. -/
def parse (text : String) : Outcome Mechanism :=
  match ofName? text with
  | some m => .ok m
  | none => .error (Fault.invalidArgument (.unknownMechanism text))

instance : FromText Mechanism where
  fromText := parse

/-- Reads a mechanism from a document value. -/
def reader : Reader Mechanism :=
  Reader.spelled ofName? .mechanism

/-- Checks that a credential has what a mechanism needs: with a password mechanism a
user name that is not empty, a password, and no empty source. -/
def validate (m : Mechanism) (c : Credential) : Outcome Unit :=
  if !m.usesPassword then .ok ()
  else if c.username.getD "" = "" then .error (Fault.invalidArgument (.noUsername m))
  else if c.password = none then .error (Fault.invalidArgument (.noPassword m))
  else if c.source = some "" then .error (Fault.invalidArgument (.emptySource m))
  else .ok ()

end Mechanism

namespace Credential

/-- The database to authenticate against: the one that is named, else the default of
the credential's own mechanism. -/
def resolvedSource (c : Credential) : String :=
  match c.source with
  | some source => source
  | none =>
    match c.mechanism with
    | some m => m.defaultSource
    | none => "admin"

/-- Reads the next field of a document. -/
def readField (c : Credential) (field : String × Bson) : Except DecodeProblem Credential :=
  match field.1 with
  | "username" => do
    return { c with username := ← Reader.optional Reader.text field.2 }
  | "source" => do
    return { c with source := ← Reader.optional Reader.text field.2 }
  | "password" => do
    return { c with password := ← Reader.optional Reader.text field.2 }
  | "mechanism" => do
    return { c with mechanism := ← Reader.optional Mechanism.reader field.2 }
  | _ => return c

/-- Reads a credential from a document. Fields are read in the order in which they
stand, so the first bad one is reported. -/
def ofDocument (d : Document) : Outcome Credential :=
  .ofDecode (d.fields.foldlM readField {})

/-- The credential in words, which say nothing about it. -/
def render (_ : Credential) : String :=
  "Credential(" ++ Text.quote "REDACTED" ++ ")"

instance : ToString Credential where
  toString := render

end Credential

end Negotiation
