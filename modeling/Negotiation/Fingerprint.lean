/-
# Negotiation.Fingerprint -- what a value feeds to a hash function

A fingerprint is the sequence of marks that a value hands to a hash function.
Equal values must have equal fingerprints, or a table keyed by them loses entries;
which hash is computed from the marks does not matter.
-/

namespace Negotiation

/-- One item fed to a hash function. -/
inductive Mark where
  /-- A byte that tells the shapes of a value apart. -/
  | shape (n : UInt8)
  /-- A number. -/
  | word (n : UInt32)
  /-- A text. -/
  | text (s : String)
  /-- An optional part is missing. -/
  | absent
  /-- An optional part follows. -/
  | present
  deriving DecidableEq, Repr, Hashable

/-- The marks of a value, in order. -/
abbrev Fingerprint := List Mark

namespace Fingerprint

/-- The marks of an optional part: whether it is there, then its own marks. -/
def ofOption {α : Type} (marks : α → Fingerprint) : Option α → Fingerprint
  | none => [.absent]
  | some a => .present :: marks a

/-- The marks of an optional number. -/
def ofWord? : Option UInt32 → Fingerprint :=
  ofOption fun n => [.word n]

/-- The marks of an optional text. -/
def ofText? : Option String → Fingerprint :=
  ofOption fun s => [.text s]

end Fingerprint

end Negotiation
