/-!
# Hexadecimal text

Two spellings of a byte occur in the texts this library writes.  EPCs are shown in capital
digits without a mark (`upper`), and codes in messages and log lines in small digits behind
`0x` (`marked`).  Both always take two digits, so texts of many bytes stay aligned and can be
read back pair by pair.
-/

namespace RfidLink.Hexadecimal

/-- The two small digits of a byte, the high one first. -/
def lower (b : UInt8) : List Char :=
  [Nat.digitChar (b.toNat / 16), Nat.digitChar (b.toNat % 16)]

/-- The two capital digits of a byte, the high one first. -/
def upper (b : UInt8) : List Char := (lower b).map Char.toUpper

/-- A byte in small digits behind `0x`. -/
def marked (b : UInt8) : String := String.ofList ('0' :: 'x' :: lower b)

end RfidLink.Hexadecimal
