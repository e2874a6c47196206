/-
# Negotiation.Version.Order -- the order of versions

Versions are ordered by release. Within one release two versions are compared as
builds if either of them carries a build tag; otherwise a plain tag comes before
the final release, and plain tags are ordered by their text.
-/

import Negotiation.BuildVersion.Order

namespace Negotiation.Version

/-- Compares the tags of two versions of one release. -/
def compareTag (a b : Version) : Ordering :=
  match a.preRelease, b.preRelease with
  | some (.build ..), _ => compare (BuildVersion.ofVersion a) (BuildVersion.ofVersion b)
  | _, some (.build ..) => compare (BuildVersion.ofVersion a) (BuildVersion.ofVersion b)
  | none, none => .eq
  | none, some (.plain _) => .gt
  | some (.plain _), none => .lt
  | some (.plain s), some (.plain t) => compare s t

instance : Ord Version where
  compare := compareLex (compareOn release) compareTag

instance : LT Version := ltOfOrd

instance : LE Version := leOfOrd

/-- Versions are equal when neither is newer, so differently spelled build tags of
one meaning make equal versions. -/
instance : BEq Version where
  beq a b := (compare a b).isEq

/-- The marks of a version: of a build tag its meaning, of a plain tag its text. -/
def fingerprint (v : Version) : Fingerprint :=
  [.word v.release.major, .word v.release.minor, .word v.release.patch]
    ++ match v.preRelease with
      | none => [.shape 0]
      | some (.plain text) => [.shape 1, .text text]
      | some (.build _ tag) =>
        [.shape 2] ++ Fingerprint.ofWord? tag.candidate
          ++ Fingerprint.ofWord? (tag.commits.map Commits.count)
          ++ Fingerprint.ofText? (tag.commits.map Commits.hash)

instance : Hashable Version where
  hash v := hash v.fingerprint

end Negotiation.Version
