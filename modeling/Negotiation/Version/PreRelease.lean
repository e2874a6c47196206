/-
# Negotiation.Version.PreRelease -- what a pre-release tag says

The text after the first `-` of a version is its pre-release tag. Tags that a
server build prints carry meaning: a release candidate number, commits after the
release, or both. They match the grammar

    (rc<digits>)?-?(<digits>-g<hash>)?

which is ambiguous (`rc110-gabcd` can be cut in several places), so all readings
of a tag are listed in order of preference and the first one counts. Every other
tag is plain text. A build tag has at least one of its parts: this keeps it apart
from the final release, and the order of versions rests on it.
-/

import Negotiation.Version.Commits

namespace Negotiation

/-! ## Readings of a tag -/

/-- One way to cut a tag into the parts of the build grammar. Numbers are left as
digits. -/
structure TagReading where
  /-- The digits after `rc`. -/
  candidate : Option (List Char)
  /-- The count and the hash of the commit suffix. -/
  commits : Option (List Char × List Char)
  deriving DecidableEq, Repr

namespace TagReading

/-- How many digits a release candidate marker in front of a tag may have, the most
first; the last choice is to read no marker. -/
def markerChoices (tag : List Char) : List (Option Nat) :=
  match tag with
  | 'r' :: 'c' :: after =>
    (List.range' 1 (Numeral.run after).length).reverse.map some ++ [none]
  | _ => [none]

/-- Takes a marker with this many digits, or no marker, off a tag: its digits and
what follows it. -/
def cut (tag : List Char) : Option Nat → Option (List Char) × List Char
  | some n => (some ((tag.drop 2).take n), (tag.drop 2).drop n)
  | none => (none, tag)

/-- The ways to take the optional separator off: first with it, then without. -/
def separatorSplits (rest : List Char) : List (List Char) :=
  match rest with
  | '-' :: after => [after, rest]
  | _ => [rest]

/-- The ways to read all that is left as an optional commit suffix. -/
def suffixes (rest : List Char) : List (Option (List Char × List Char)) :=
  match Commits.split? rest with
  | some suffix => [some suffix]
  | none => if rest = [] then [none] else []

/-- The readings of what follows a marker. -/
def afterMarker (marker : Option (List Char) × List Char) : List TagReading :=
  (separatorSplits marker.2).flatMap fun rest =>
    (suffixes rest).map fun commits => ⟨marker.1, commits⟩

/-- The preferred reading of a tag; `none` if the tag is not in the grammar. -/
def first? (tag : List Char) : Option TagReading :=
  (markerChoices tag).findSome? fun choice => (afterMarker (cut tag choice)).head?

end TagReading

/-! ## Build tags -/

/-- The meaning of a tag printed by a server build. -/
structure BuildTag where
  /-- The release candidate number. -/
  candidate : Option UInt32
  /-- The commits after the release. -/
  commits : Option Commits
  /-- A build tag says something: an empty tag, or a lone separator, is none. -/
  marked : candidate.isSome ∨ commits.isSome
  deriving DecidableEq, Repr

namespace BuildTag

/-- The build tag that a reading stands for, if it has a part and its numbers fit. -/
def ofReading? (reading : TagReading) : Option BuildTag := do
  let candidate ← reading.candidate.mapM Numeral.word?
  let commits ← reading.commits.mapM fun (count, hash) =>
    (Numeral.word? count).map fun n => Commits.mk n (String.ofList hash)
  if marked : candidate.isSome ∨ commits.isSome then
    return ⟨candidate, commits, marked⟩
  else
    none

/-- The build tag that a text spells. Only the preferred reading is tried: if one
of its numbers is too large the text is no build tag. -/
def ofText? (tag : List Char) : Option BuildTag :=
  TagReading.first? tag >>= ofReading?

end BuildTag

/-! ## Pre-release tags -/

/-- A pre-release tag together with its meaning. -/
inductive PreRelease where
  /-- A tag without further structure, such as `beta`. -/
  | plain (text : String)
  /-- A tag printed by a server build, such as `rc1` or `10-gabcdef0`. -/
  | build (text : String) (tag : BuildTag)
  deriving DecidableEq, Repr

namespace PreRelease

/-- Classifies a tag by its text. -/
def ofText (text : String) : PreRelease :=
  match BuildTag.ofText? text.toList with
  | some tag => .build text tag
  | none => .plain text

/-- The tag as it was written. -/
def text : PreRelease → String
  | .plain text => text
  | .build text _ => text

/-- What a server build says in the tag. -/
def buildTag? : PreRelease → Option BuildTag
  | .plain _ => none
  | .build _ tag => some tag

/-- Whether a server build printed the tag. -/
def isBuild (p : PreRelease) : Bool :=
  p.buildTag?.isSome

theorem text_ofText (text : String) : (ofText text).text = text := by
  unfold ofText
  split <;> rfl

end PreRelease

end Negotiation
