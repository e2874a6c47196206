/-
# Negotiation.FromText -- values that are written as texts

Versions, builds, mechanisms and API versions are all named by texts in configurations
and replies. The conversion from a text is the same for all of them: it gives the value
or says what is wrong with the text.
-/

import Negotiation.Error

namespace Negotiation

/-- Types whose values can be read from a text. -/
class FromText (α : Type) where
  /-- The value that a text stands for. -/
  fromText : String → Outcome α

end Negotiation
