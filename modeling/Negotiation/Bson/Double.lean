/-
# Negotiation.Bson.Double -- doubles read as integers

Replies may send whole numbers as doubles. A finite double is
`significand * 2 ^ exponent` up to its sign, and it is read as an integer in exact
arithmetic on these two numbers: the part after the point is dropped, and may be at
most `2 ^ -52`. Integers run from `-2 ^ 63` to `2 ^ 63 - 1`; the double `2 ^ 63`,
just past the upper end, is read as that end.
-/

namespace Negotiation

/-- An IEEE 754 double, given by its 64 bits. -/
structure Double where
  /-- Sign, exponent and fraction, from the highest bit down. -/
  bits : UInt64
  deriving DecidableEq, Repr

namespace Double

/-! ## The parts of a double -/

/-- Whether the sign bit is set. -/
def isNegative (d : Double) : Bool :=
  d.bits.toNat.testBit 63

/-- The eleven exponent bits. -/
def exponentBits (d : Double) : Nat :=
  (d.bits.toNat >>> 52) % (1 <<< 11)

/-- The fifty-two bits of the fraction. -/
def fractionBits (d : Double) : Nat :=
  d.bits.toNat % (1 <<< 52)

/-- Infinities and NaN have all exponent bits set. -/
def isFinite (d : Double) : Bool :=
  d.exponentBits ≠ 2047

/-- The significand of a finite double, with its leading bit if it has one. -/
def significand (d : Double) : Nat :=
  if d.exponentBits = 0 then d.fractionBits else (1 <<< 52) + d.fractionBits

/-- The power of two that scales the significand. -/
def exponent (d : Double) : Int :=
  (max 1 d.exponentBits : Nat) - 1075

/-! ## Reading an integer -/

/-- The magnitude of a finite double without the part after its point, if that part
is at most `2 ^ -52`. -/
def wholePart? (d : Double) : Option Nat :=
  match d.exponent with
  | .ofNat e => some (d.significand <<< e)
  | .negSucc e =>
    let unit := 1 <<< (e + 1)
    if (d.significand % unit) <<< 52 ≤ unit then some (d.significand / unit) else none

/-- The integer that a double is read as. -/
def toInt64? (d : Double) : Option Int64 :=
  if d.isFinite then
    match d.wholePart? with
    | some n =>
      if 1 <<< 63 < n then none
      else if d.isNegative then some (Int64.ofInt (-(n : Int)))
      else some (Int64.ofNat (min n ((1 <<< 63) - 1)))
    | none => none
  else none

end Double

end Negotiation
