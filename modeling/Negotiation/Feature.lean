/-
# Negotiation.Feature -- what a server of a version can do

A feature names a capability and the first version that has it. Some features also
name a version below which asking for the capability must be refused: servers in
between ignore what they are asked, older ones fail in confusing ways.
-/

import Negotiation.Event
import Negotiation.Version.Order

namespace Negotiation

/-- A capability of servers. -/
structure Feature where
  /-- The name of the feature. -/
  name : String
  /-- The first version that has it. -/
  firstSupported : Version
  /-- The version below which asking for it must be refused. -/
  threshold : Option Version := none
  deriving DecidableEq, Repr

/-- What to do with a hint that the caller gave. -/
inductive HintDisposition where
  /-- The server understands the hint. -/
  | include
  /-- The server would ignore the hint, so it is left out. -/
  | omit
  deriving DecidableEq, Repr

namespace Feature

/-! ## Decisions -/

/-- Whether a server of this version has the feature. -/
def isSupported (f : Feature) (v : Version) : Reported Bool :=
  return (compare v f.firstSupported).isGE

/-- Whether asking a server of this version for the feature must be refused. -/
def mustReject (f : Feature) (v : Version) : Reported Bool :=
  match f.threshold with
  | some t => return (compare v t).isLT
  | none => return false

/-- Refuses a server of this version, as it would have to be newer. -/
def reject {α : Type} (f : Feature) (v required : Version) : Reported (Outcome α) :=
  ⟨.error (Fault.incompatibleServer (.tooOld f.name required v)),
    [.featureRejected f.name v required]⟩

/-- Requires that a server of this version has the feature. -/
def ensureSupported (f : Feature) (v : Version) : Reported (Outcome Unit) := do
  if ← f.isSupported v then return .ok ()
  else f.reject v f.firstSupported

/-- Decides what to do with a hint for an operation that the feature is about. -/
def checkHint (f : Feature) (v : Version) : Reported (Outcome HintDisposition) := do
  if ← f.isSupported v then return .ok .include
  else match f.threshold with
    | some t => if (compare v t).isLT then f.reject v t else return .ok .omit
    | none => return .ok .omit

/-- Whether a server has the feature is found without a report. -/
theorem ensureSupported_eq (f : Feature) (v : Version) :
    f.ensureSupported v =
      if (f.isSupported v).value then .quiet (.ok ()) else f.reject v f.firstSupported :=
  rfl

theorem checkHint_eq (f : Feature) (v : Version) :
    f.checkHint v =
      if (f.isSupported v).value then .quiet (.ok .include)
      else match f.threshold with
        | some t => if (compare v t).isLT then f.reject v t else .quiet (.ok .omit)
        | none => .quiet (.ok .omit) :=
  rfl

/-! ## Features as keys -/

/-- Features are equal when their names are, and their versions are equal as
versions. -/
instance : BEq Feature where
  beq a b := a.name == b.name && a.firstSupported == b.firstSupported
    && a.threshold == b.threshold

/-- The marks of a feature: its name and both its versions. -/
def fingerprint (f : Feature) : Fingerprint :=
  [.text f.name] ++ f.firstSupported.fingerprint
    ++ Fingerprint.ofOption Version.fingerprint f.threshold

instance : Hashable Feature where
  hash f := hash f.fingerprint

end Feature

end Negotiation
