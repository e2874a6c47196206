/-
# Negotiation.Document.Reader -- typed values out of documents

A typed field accepts values of its own type only: texts from strings, truth values
from booleans, 32 bit numbers from either integer type if they fit. An optional
field may also be missing or null. Unknown fields are ignored.

That texts come from strings only is an assumption about the code that decodes
documents: such code may also take the bytes of a generic binary value for a text if
they spell one. What is said here of typed fields is meant of documents that hold no
bytes where a text belongs.
-/

import Negotiation.Document
import Negotiation.Text.Quoted

namespace Negotiation

/-! ## What can be wrong with a document -/

/-- What a text in a document was expected to spell. -/
inductive Expectation where
  | version
  | apiVersion
  | mechanism
  deriving DecidableEq, Repr

/-- The expectation in words. -/
def Expectation.words : Expectation → String
  | version => "a version string"
  | apiVersion => "a valid version number"
  | mechanism => "an authentication mechanism"

/-- Why a document does not describe what it should. -/
inductive DecodeProblem where
  /-- A value has a type that its field does not accept. -/
  | wrongType
  /-- A required field is missing. -/
  | missingField (key : String)
  /-- A text does not spell what it should. -/
  | invalidValue (text : String) (expected : Expectation)
  /-- Something else, in these words: a connection may fail to make out a document. -/
  | other (message : String)
  deriving DecidableEq, Repr

/-- The problem in words. A value of the wrong type and a missing field have no fixed
wording. -/
def DecodeProblem.message? : DecodeProblem → Option String
  | wrongType => none
  | missingField _ => none
  | other message => some message
  | invalidValue text expected =>
    some ("invalid value: string " ++ Text.quote text ++ ", expected " ++ expected.words)

/-! ## Readers of one value -/

/-- Reads a value of a type out of a document value. -/
abbrev Reader (α : Type) := Bson → Except DecodeProblem α

namespace Reader

variable {α : Type}

/-- A text, from a string. Bytes are not taken for one. -/
def text : Reader String
  | .string s => .ok s
  | _ => .error .wrongType

/-- A truth value, from a boolean. -/
def bool : Reader Bool
  | .bool b => .ok b
  | _ => .error .wrongType

/-- A 32 bit integer, from an integer of either width that fits. -/
def int32 : Reader Int32
  | .int32 n => .ok n
  | .int64 n => if n.toInt32.toInt64 = n then .ok n.toInt32 else .error .wrongType
  | _ => .error .wrongType

/-- A list, from an array of readable items. -/
def list (read : Reader α) : Reader (List α)
  | .array items => items.mapM read
  | _ => .error .wrongType

/-- A value or null. -/
def optional (read : Reader α) : Reader (Option α)
  | .null => .ok none
  | value => (read value).map some

/-- What a text spells, if it spells something. -/
def spelled (spell : String → Option α) (expected : Expectation) : Reader α := fun value => do
  let s ← text value
  match spell s with
  | some a => .ok a
  | none => .error (.invalidValue s expected)

end Reader

/-! ## Readers of one field -/

namespace Document

variable {α : Type}

/-- A field that must be there. -/
def required (d : Document) (key : String) (read : Reader α) : Except DecodeProblem α :=
  match d.get? key with
  | some value => read value
  | none => .error (.missingField key)

/-- A field that has a value of its own if it is missing. -/
def withDefault (d : Document) (key : String) (read : Reader α) (default : α) :
    Except DecodeProblem α :=
  match d.get? key with
  | some value => read value
  | none => .ok default

/-- A field that may be missing or null. -/
def optional (d : Document) (key : String) (read : Reader α) :
    Except DecodeProblem (Option α) :=
  d.withDefault key (Reader.optional read) none

end Document

end Negotiation
