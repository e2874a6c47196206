/-
# Negotiation.ServerApi -- declaring a stable server API

A client can declare the API version that it relies on. The declaration goes with
every command, as up to three fields.
-/

import Negotiation.FromText

namespace Negotiation

/-- The API versions that can be declared. -/
inductive ApiVersion where
  | v1
  deriving DecidableEq, Repr

namespace ApiVersion

/-- The text of an API version. -/
def render : ApiVersion → String
  | v1 => "1"

instance : ToString ApiVersion where
  toString := render

/-- The API version that a text spells. -/
def ofText? (text : String) : Option ApiVersion :=
  if text = "1" then some v1 else none

/-- The API version of a text, which has to spell one. -/
def parse (text : String) : Outcome ApiVersion :=
  match ofText? text with
  | some v => .ok v
  | none => .error (Fault.invalidArgument (.unknownApiVersion text))

instance : FromText ApiVersion where
  fromText := parse

end ApiVersion

/-- A declaration of the server API. -/
structure ServerApi where
  /-- The declared version. -/
  version : ApiVersion := .v1
  /-- Whether commands outside the declared version are refused. -/
  strict : Option Bool := none
  /-- Whether deprecated behaviour is refused. -/
  deprecationErrors : Option Bool := none
  deriving DecidableEq, Repr

namespace ServerApi

/-! ## As fields of a document -/

/-- Writes the declared fields into a document. -/
def writeTo (api : ServerApi) (d : Document) : Document :=
  ((d.insert "apiVersion" (.string api.version.render)).insert?
    "apiStrict" (api.strict.map Bson.bool)).insert?
      "apiDeprecationErrors" (api.deprecationErrors.map Bson.bool)

/-- The declared fields as a document. -/
def toDocument (api : ServerApi) : Document :=
  api.writeTo ∅

/-- The fields of a declaration that have been read so far. -/
structure Draft where
  /-- The version, which has to be there in the end. -/
  version : Option ApiVersion := none
  /-- Whether commands outside the declared version are refused. -/
  strict : Option Bool := none
  /-- Whether deprecated behaviour is refused. -/
  deprecationErrors : Option Bool := none

/-- Reads the next field of a document. -/
def Draft.readField (draft : Draft) (field : String × Bson) : Except DecodeProblem Draft :=
  match field.1 with
  | "apiVersion" => do
    let version ← Reader.spelled ApiVersion.ofText? .apiVersion field.2
    return { draft with version := some version }
  | "apiStrict" => do
    return { draft with strict := ← Reader.optional Reader.bool field.2 }
  | "apiDeprecationErrors" => do
    return { draft with deprecationErrors := ← Reader.optional Reader.bool field.2 }
  | _ => return draft

/-- Reads a declaration from a document. Fields are read in the order in which they
stand, so the first bad one is reported. -/
def ofDocument (d : Document) : Outcome ServerApi := .ofDecode do
  let draft ← d.fields.foldlM Draft.readField {}
  match draft.version with
  | some version => return ⟨version, draft.strict, draft.deprecationErrors⟩
  | none => throw (.missingField "apiVersion")

/-! ## In words -/

/-- The declaration in words. -/
def render (api : ServerApi) : String :=
  "\x7b Version : " ++ api.version.render
    ++ (match api.strict with
      | some b => ", Strict : " ++ toString b
      | none => "")
    ++ (match api.deprecationErrors with
      | some b => ", DeprecationErrors : " ++ toString b
      | none => "")
    ++ " \x7d"

instance : ToString ServerApi where
  toString := render

end ServerApi

end Negotiation
