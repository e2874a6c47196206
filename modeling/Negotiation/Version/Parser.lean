/-
# Negotiation.Version.Parser -- finding a version in a text

A version may stand anywhere in a text. The first place where the text reads
`<digits>.<digits>` decides: the numbers there are read as far as they go, a patch
number and a tag follow if they are written, and all other text is ignored. A
number that does not fit a word makes the whole text unreadable, as no other place
is tried.
-/

import Negotiation.Version

namespace Negotiation.Version

/-! ## The start of a version -/

/-- The digits of the major and the minor number in front of a text, and what
follows them. -/
structure Start where
  /-- The digits before the dot. -/
  major : List Char
  /-- The digits after the dot. -/
  minor : List Char
  /-- What follows. -/
  rest : List Char
  deriving DecidableEq, Repr

/-- Reads `<digits>.<digits>` in front of a text. -/
def startHere? (text : List Char) : Option Start := do
  let (major, afterMajor) ← Numeral.digits? text
  match afterMajor with
  | '.' :: afterDot =>
    let (minor, rest) ← Numeral.digits? afterDot
    return ⟨major, minor, rest⟩
  | _ => none

/-- Reads `<digits>.<digits>` at the first place of a text that has it. -/
def start? : List Char → Option Start
  | [] => none
  | c :: rest =>
    match startHere? (c :: rest) with
    | some start => some start
    | none => start? rest

/-! ## Patch number and tag -/

/-- The tag that follows the patch number: a tag starts at a `-` and runs to the
end of the line. -/
def tagAfter (rest : List Char) : Option String :=
  match rest with
  | '-' :: after => some (String.ofList (after.takeWhile (· ≠ '\n')))
  | _ => none

/-- The patch number and the tag that follow the minor number. Without a dot and
a digit the patch number is 0 and there is no tag. -/
def patchAndTag? (rest : List Char) : Option (UInt32 × Option String) :=
  match rest with
  | '.' :: after =>
    match Numeral.digits? after with
    | some (patch, rest) => (Numeral.word? patch).map fun n => (n, tagAfter rest)
    | none => some (0, none)
  | _ => some (0, none)

/-- The version whose numbers start here. -/
def ofStart? (start : Start) : Option Version := do
  let major ← Numeral.word? start.major
  let minor ← Numeral.word? start.minor
  let (patch, tag) ← patchAndTag? start.rest
  return ⟨⟨major, minor, patch⟩, tag⟩

/-- The version in a text, if it holds one. -/
def parse? (text : String) : Option Version :=
  start? text.toList >>= ofStart?

end Negotiation.Version
