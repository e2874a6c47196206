/-
# Negotiation.Version.Commits -- the commit suffix of a development build

A server built some commits after a release says so with a suffix
`<count>-g<hash>`: how many commits, and the abbreviated hash of the last one.
The same suffix ends pre-release tags and build versions.
-/

import Negotiation.Text.Numeral

namespace Negotiation

/-- The commits a build has on top of its release. -/
structure Commits where
  /-- How many commits follow the release. -/
  count : UInt32
  /-- The abbreviated hash of the last commit, without its leading `g`. -/
  hash : String
  deriving DecidableEq, Repr

namespace Commits

/-- Hashes are written in lower case hexadecimal. -/
def isHashDigit (c : Char) : Bool :=
  c.isDigit || ('a' ≤ c && c ≤ 'f')

/-- An abbreviated hash has 4 to 40 digits. -/
def isHash (text : List Char) : Bool :=
  4 ≤ text.length && text.length ≤ 40 && text.all isHashDigit

/-- Splits a whole text of the form `<count>-g<hash>` into its two parts. The count
is left as digits: whether it fits a word is for the reader of the suffix. -/
def split? (text : List Char) : Option (List Char × List Char) := do
  let (count, rest) ← Numeral.digits? text
  match rest with
  | '-' :: 'g' :: hash => if isHash hash then some (count, hash) else none
  | _ => none

/-- Reads a whole text of the form `<count>-g<hash>`. -/
def read? (text : List Char) : Option Commits := do
  let (count, hash) ← split? text
  let n ← Numeral.word? count
  return ⟨n, String.ofList hash⟩

/-- The text `<count>-g<hash>`. -/
def render (c : Commits) : String :=
  Numeral.render c.count ++ "-g" ++ c.hash

end Commits

end Negotiation
