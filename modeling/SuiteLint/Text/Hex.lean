/-!
# Hexadecimal digits
-/

namespace SuiteLint.Text.Hex

/-- The hexadecimal digit for a value below sixteen, in lower case. -/
def digit (n : Nat) : Char :=
  if n < 10 then Char.ofNat (48 + n) else Char.ofNat (87 + n)

/-- A byte as two digits. -/
def byte (b : UInt8) : List Char := [digit (b.toNat / 16), digit (b.toNat % 16)]

/-- Bytes as a text of twice their length. -/
def ofBytes (bytes : List UInt8) : String := String.ofList (bytes.flatMap byte)

/-- The digits of a number in the fewest places. -/
def ofNat (n : Nat) : String := String.ofList (Nat.toDigits 16 n)

end SuiteLint.Text.Hex
