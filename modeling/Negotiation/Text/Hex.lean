/-
# Negotiation.Text.Hex -- bytes as hexadecimal digits

Two digits a byte, the high half first, in lower case.
-/

namespace Negotiation.Hex

/-- The hexadecimal digit of a number below 16. -/
def digit (n : Nat) : Char :=
  Nat.digitChar n

/-- The two digits of a byte. -/
def ofByte (b : UInt8) : List Char :=
  [digit (b.toNat / 16), digit (b.toNat % 16)]

/-- The digits of a sequence of bytes. -/
def encode (bytes : List UInt8) : String :=
  String.ofList (bytes.flatMap ofByte)

/-- The digits of a number in base 16, without leading zeros. -/
def ofNat (n : Nat) : String :=
  String.ofList (Nat.toDigits 16 n)

end Negotiation.Hex
