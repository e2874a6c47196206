/-
# Negotiation.BuildVersion -- versions as server builds print them

A build version spells out what a development or candidate build is made of:

    major.minor.patch[-<type><candidate>][-<commits>-g<hash>]

Its fields can be set one by one, so a build may hold a candidate number without a
release type, or only one half of the commit suffix; such parts are not printed.
-/

import Negotiation.Version

namespace Negotiation

/-- The parts of a build version. -/
structure BuildVersion where
  /-- The numbers of the release. -/
  release : Release := ⟨0, 0, 0⟩
  /-- The kind of pre-release, such as `rc`. -/
  releaseType : Option String := none
  /-- The number of the candidate among its kind. -/
  candidate : Option UInt32 := none
  /-- How many commits follow the release. -/
  commits : Option UInt32 := none
  /-- The abbreviated hash of the last commit. -/
  commitHash : Option String := none
  deriving DecidableEq, Repr

namespace BuildVersion

/-! ## Writing -/

/-- The release type with its candidate number. -/
def renderType (b : BuildVersion) : String :=
  match b.releaseType, b.candidate with
  | none, _ => ""
  | some type, none => "-" ++ type
  | some type, some n => "-" ++ type ++ Numeral.render n

/-- The commit suffix, written only if the build has both of its halves. -/
def renderCommits (b : BuildVersion) : String :=
  match b.commits, b.commitHash with
  | some count, some hash => "-" ++ (Commits.mk count hash).render
  | _, _ => ""

/-- The text of a build version. -/
def render (b : BuildVersion) : String :=
  b.release.render ++ b.renderType ++ b.renderCommits

instance : ToString BuildVersion where
  toString := render

/-! ## Builds of versions -/

/-- The build that a version stands for. A plain tag says nothing about the build,
so `4.2.0-beta` stands for the final release. -/
def ofVersion (v : Version) : BuildVersion :=
  match v.buildTag? with
  | none => { release := v.release }
  | some tag =>
    { release := v.release
      releaseType := tag.candidate.map fun _ => "rc"
      candidate := tag.candidate
      commits := tag.commits.map Commits.count
      commitHash := tag.commits.map Commits.hash }

/-! ## Reading -/

/-- A release type with its candidate number in front of a text: letters after a
`-`, then digits. A text that goes on differently has none and is left whole. -/
def releaseType? (rest : List Char) :
    Option (Option String × Option UInt32 × List Char) :=
  match rest with
  | '-' :: after =>
    let letters := after.takeWhile Char.isAlpha
    let tail := after.dropWhile Char.isAlpha
    if letters = [] then some (none, none, rest)
    else if Numeral.run tail = [] then some (some (String.ofList letters), none, tail)
    else (Numeral.number? tail).map fun (n, tail) => (some (String.ofList letters), some n, tail)
  | _ => some (none, none, rest)

/-- The commit suffix that ends a text, if anything is left. -/
def commits? (rest : List Char) : Option (Option Commits) :=
  match rest with
  | [] => some none
  | '-' :: after => (Commits.read? after).map some
  | _ => none

/-- What follows `major.minor`: nothing, or a patch number and the other parts up
to the end. -/
def ofRest? (major minor : UInt32) (rest : List Char) : Option BuildVersion :=
  match rest with
  | [] => some { release := ⟨major, minor, 0⟩ }
  | '.' :: after => do
    let (patch, rest) ← Numeral.number? after
    let (type, candidate, rest) ← releaseType? rest
    let commits ← commits? rest
    return {
      release := ⟨major, minor, patch⟩
      releaseType := type
      candidate := candidate
      commits := commits.map Commits.count
      commitHash := commits.map Commits.hash }
  | _ => none

/-- The build version that a whole text spells. -/
def parse? (text : String) : Option BuildVersion := do
  let (major, rest) ← Numeral.number? text.toList
  match rest with
  | '.' :: after =>
    let (minor, rest) ← Numeral.number? after
    ofRest? major minor rest
  | _ => none

end BuildVersion

end Negotiation
