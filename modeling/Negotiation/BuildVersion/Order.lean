/-
# Negotiation.BuildVersion.Order -- the order of build versions

Builds are ordered by release. Within one release the final release stands above
every candidate; candidates are ordered by type, then by number; then more commits
are newer, and the hash breaks the remaining tie. A missing number or hash comes
before any present one.
-/

import Negotiation.BuildVersion
import Negotiation.Fingerprint

namespace Negotiation.BuildVersion

/-- Compares release types and candidate numbers: no release type is the highest,
and a candidate number without a type is not looked at. -/
def compareType (a b : BuildVersion) : Ordering :=
  match a.releaseType, b.releaseType with
  | none, none => .eq
  | none, some _ => .gt
  | some _, none => .lt
  | some s, some t => (compare s t).then (compare a.candidate b.candidate)

instance : Ord BuildVersion where
  compare := compareLex (compareOn release)
    (compareLex compareType (compareLex (compareOn commits) (compareOn commitHash)))

instance : LT BuildVersion := ltOfOrd

instance : LE BuildVersion := leOfOrd

/-- Builds are equal when neither is newer. -/
instance : BEq BuildVersion where
  beq a b := (compare a b).isEq

/-- The marks of a build: all fields that the order looks at. -/
def fingerprint (b : BuildVersion) : Fingerprint :=
  [.word b.release.major, .word b.release.minor, .word b.release.patch]
    ++ Fingerprint.ofText? b.releaseType
    ++ (if b.releaseType.isSome then Fingerprint.ofWord? b.candidate else [])
    ++ Fingerprint.ofWord? b.commits
    ++ Fingerprint.ofText? b.commitHash

instance : Hashable BuildVersion where
  hash b := hash b.fingerprint

end Negotiation.BuildVersion
