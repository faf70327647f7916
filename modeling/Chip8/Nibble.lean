/-!
# Nibbles

Registers, keys and hexadecimal digits are all numbered from 0 to 15, and an
instruction word is read in groups of four bits.  This module names that
range and says how two nibbles make a byte.
-/

namespace Chip8

/-- Four bits: the number of a register, of a key or of a digit. -/
abbrev Nibble := Fin 16

/--
There are nibbles, and so numbers can be read as nibbles.  The zero is named in
full, so that the statement is the same whatever else is imported.
-/
instance nibbles_neZero : @NeZero Nat Zero.ofOfNat0 16 :=
  ⟨Nat.succ_ne_zero 15⟩

namespace Nibble

/-- A nibble is below sixteen. -/
theorem val_lt (nibble : Nibble) : nibble.val < 16 :=
  nibble.isLt

/-- The byte with the same value. -/
def toByte (nibble : Nibble) : UInt8 :=
  UInt8.ofNat nibble.val

/-- The byte whose upper half is `high` and whose lower half is `low`. -/
def joined (high low : Nibble) : UInt8 :=
  UInt8.ofNat (16 * high.val + low.val)

/-- The upper half of a byte. -/
def upper (byte : UInt8) : Nibble :=
  ⟨byte.toNat / 16, by have := byte.toNat_lt; omega⟩

/-- The lower half of a byte. -/
def lower (byte : UInt8) : Nibble :=
  ⟨byte.toNat % 16, by omega⟩

@[simp]
theorem toNat_toByte (nibble : Nibble) : nibble.toByte.toNat = nibble.val := by
  simp only [toByte, UInt8.toNat_ofNat']
  omega

@[simp]
theorem toNat_joined (high low : Nibble) :
    (joined high low).toNat = 16 * high.val + low.val := by
  simp only [joined, UInt8.toNat_ofNat']
  omega

@[simp]
theorem upper_joined (high low : Nibble) : upper (joined high low) = high := by
  ext
  simp only [upper, toNat_joined]
  omega

@[simp]
theorem lower_joined (high low : Nibble) : lower (joined high low) = low := by
  ext
  simp only [lower, toNat_joined]
  omega

/-- A byte is made of its two halves. -/
@[simp]
theorem joined_upper_lower (byte : UInt8) :
    joined (upper byte) (lower byte) = byte := by
  apply UInt8.toNat.inj
  simp only [toNat_joined, upper, lower]
  omega

end Nibble

end Chip8
