import Chip8.Nibble

/-!
# Hexadecimal digits

Numbers are written in lowercase hexadecimal, padded with zeros to a least
width.  Digits are read in either case.  A byte is always two digits.
-/

namespace Chip8.Text.Hex

/-- The lowercase digit of a value below sixteen. -/
def digit (value : Nibble) : Char :=
  if value.val < 10 then Char.ofNat (48 + value.val)
  else Char.ofNat (87 + value.val)

/-- The value of a digit in either case; other characters have none. -/
def digitValue? (char : Char) : Option Nibble :=
  (List.finRange 16).find? fun value => digit value == char.toLower

/-- The two digits of a byte, upper half first. -/
def byteDigits (byte : UInt8) : List Char :=
  [digit (Nibble.upper byte), digit (Nibble.lower byte)]

/-- The digits of a byte string, two for each byte. -/
def ofBytes (bytes : List UInt8) : String :=
  String.ofList (bytes.flatMap byteDigits)

/-- The byte written by two digits, if both are digits. -/
def byteValue? (high low : Char) : Option UInt8 := do
  let highValue ← digitValue? high
  let lowValue ← digitValue? low
  pure (Nibble.joined highValue lowValue)

/-- A number in lowercase digits, filled up with zeros to `width` places. -/
def padded (width value : Nat) : String :=
  String.ofList (List.leftpad width '0' (Nat.toDigits 16 value))

@[simp]
theorem digitValue?_digit (value : Nibble) :
    digitValue? (digit value) = some value := by
  revert value
  decide

@[simp]
theorem digitValue?_toUpper_digit (value : Nibble) :
    digitValue? (digit value).toUpper = some value := by
  revert value
  decide

end Chip8.Text.Hex
