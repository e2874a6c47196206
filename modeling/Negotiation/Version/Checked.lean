/-
# Negotiation.Version.Checked -- versions from untrusted input

Texts, numbers and lists of numbers that come from outside are checked, and what is
wrong with them is reported as an error.
-/

import Negotiation.FromText
import Negotiation.Version.Order
import Negotiation.Version.Parser

namespace Negotiation

namespace Version

/-- The version in a text. -/
def parse (text : String) : Outcome Version :=
  match parse? text with
  | some v => .ok v
  | none => .error (Fault.invalidVersion text)

instance : FromText Version where
  fromText := parse

/-- A number of a version, if it is a word. -/
def checkComponent (component : Component) (value : Int) : Outcome UInt32 :=
  if 0 ≤ value ∧ value < UInt32.size then .ok (UInt32.ofNat value.toNat)
  else .error (Fault.invalidArgument (.componentOutOfRange component value))

/-- The release with these numbers. The first number out of range is reported. -/
def ofComponents (major minor patch : Int) : Outcome Version := do
  let major ← checkComponent .major major
  let minor ← checkComponent .minor minor
  let patch ← checkComponent .patch patch
  return final major minor patch

/-- The release that a list of numbers starts with. A missing patch number is 0, and
what follows the patch number is about the build and ignored. -/
def ofArray (components : List Int32) : Outcome Version :=
  match components with
  | [major, minor] => ofComponents major.toInt minor.toInt 0
  | major :: minor :: patch :: _ => ofComponents major.toInt minor.toInt patch.toInt
  | _ => .error (Fault.invalidArgument (.shortVersionArray components))

/-- Reads a version from a document value. -/
def ofBson (value : Bson) : Outcome Version :=
  .ofDecode (Reader.spelled parse? .version value)

/-- The version as a document value. -/
def toBson (v : Version) : Bson :=
  .string v.render

end Version

namespace BuildVersion

/-- The build version that a whole text spells. -/
def parse (text : String) : Outcome BuildVersion :=
  match parse? text with
  | some b => .ok b
  | none => .error (Fault.invalidVersion text)

instance : FromText BuildVersion where
  fromText := parse

end BuildVersion

end Negotiation
