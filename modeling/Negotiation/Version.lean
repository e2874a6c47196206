/-
# Negotiation.Version -- server versions

A version is a release, optionally with a pre-release tag. The tag is kept as its
text, and its meaning is a function of that text, so a version holds nothing that
its text does not say.
-/

import Negotiation.Release
import Negotiation.Version.PreRelease

namespace Negotiation

/-- A version `major.minor.patch`, or `major.minor.patch-tag`. -/
structure Version where
  /-- The numbers of the version. -/
  release : Release
  /-- The text of the pre-release tag. -/
  tag : Option String
  deriving DecidableEq, Repr

namespace Version

/-- The release itself, without a pre-release tag. -/
def final (major minor patch : UInt32) : Version :=
  ⟨⟨major, minor, patch⟩, none⟩

/-- A release with the given pre-release tag. -/
def tagged (major minor patch : UInt32) (tag : String) : Version :=
  ⟨⟨major, minor, patch⟩, some tag⟩

/-- The pre-release tag with its meaning. -/
def preRelease (v : Version) : Option PreRelease :=
  v.tag.map PreRelease.ofText

/-- What a server build says in the tag of a version. -/
def buildTag? (v : Version) : Option BuildTag :=
  v.preRelease.bind PreRelease.buildTag?

/-- The text of a version. -/
def render (v : Version) : String :=
  match v.tag with
  | none => v.release.render
  | some tag => v.release.render ++ "-" ++ tag

instance : ToString Version where
  toString := render

end Version

end Negotiation
