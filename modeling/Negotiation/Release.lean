/-
# Negotiation.Release -- the three numbers of a version

A server release is named by its major, minor and patch number, as in `4.2.0`.
Releases are ordered by the first number that differs.
-/

import Negotiation.Text.Numeral

namespace Negotiation

/-- The numbers of a server release. -/
structure Release where
  /-- The number in front. -/
  major : UInt32
  /-- The number after the first dot. -/
  minor : UInt32
  /-- The number after the second dot. -/
  patch : UInt32
  deriving DecidableEq, Repr, Inhabited

namespace Release

instance : Ord Release where
  compare := compareLex (compareOn major) (compareLex (compareOn minor) (compareOn patch))

/-- The dotted text `major.minor.patch`. -/
def render (r : Release) : String :=
  Numeral.render r.major ++ "." ++ Numeral.render r.minor ++ "." ++ Numeral.render r.patch

end Release

end Negotiation
