import Chip8.Nibble

/-!
# Instructions

An instruction is one word of two bytes.  Its operands are register numbers
`x` and `y`, an immediate byte `kk`, an address `nnn` of twelve bits and a
count `n` of four bits.  Each constructor is documented by the pattern of its
words in hexadecimal.

The six instructions that skip their successor differ only in the condition
they test, and seven of the arithmetic instructions only in the operation they
apply; conditions and arithmetic are therefore types of their own.
-/

namespace Chip8

/-- An address of twelve bits. -/
abbrev Address := Fin 4096

/-- What a skip instruction tests. -/
inductive Condition where
  /-- 3xkk: `Vx` is `kk`. -/
  | equalsByte (x : Nibble) (kk : UInt8)
  /-- 4xkk: `Vx` is not `kk`. -/
  | differsFromByte (x : Nibble) (kk : UInt8)
  /-- 5xy0: `Vx` is `Vy`. -/
  | equalsRegister (x y : Nibble)
  /-- 9xy0: `Vx` is not `Vy`. -/
  | differsFromRegister (x y : Nibble)
  /-- Ex9E: the key numbered `Vx` is down. -/
  | keyDown (x : Nibble)
  /-- ExA1: the key numbered `Vx` is not down. -/
  | keyUp (x : Nibble)
  deriving DecidableEq

/-- What an arithmetic instruction with two registers computes. -/
inductive Arithmetic where
  /-- 8xy0. -/
  | move
  /-- 8xy1. -/
  | or
  /-- 8xy2. -/
  | and
  /-- 8xy3. -/
  | xor
  /-- 8xy4: the flag is the carry. -/
  | add
  /-- 8xy5: the flag tells whether `Vx` was the greater. -/
  | subtract
  /-- 8xy7: the flag tells whether `Vy` was the greater. -/
  | subtractReverse
  deriving DecidableEq

/-- One decoded instruction. -/
inductive Instruction where
  /-- 00E0. -/
  | clearScreen
  /-- 00EE: go back to the caller. -/
  | leave
  /-- 0nnn: a routine in machine code, which is ignored. -/
  | machineCode (nnn : Address)
  /-- 1nnn. -/
  | jump (nnn : Address)
  /-- 2nnn. -/
  | call (nnn : Address)
  /-- 3xkk, 4xkk, 5xy0, 9xy0, Ex9E and ExA1. -/
  | skipIf (condition : Condition)
  /-- 6xkk. -/
  | loadByte (x : Nibble) (kk : UInt8)
  /-- 7xkk. -/
  | addByte (x : Nibble) (kk : UInt8)
  /-- 8xy0 to 8xy5 and 8xy7. -/
  | combine (arithmetic : Arithmetic) (x y : Nibble)
  /-- 8xy6: the flag is the bit shifted out. -/
  | shiftRight (x : Nibble)
  /-- 8xyE: the flag is the bit shifted out. -/
  | shiftLeft (x : Nibble)
  /-- Annn. -/
  | loadIndex (nnn : Address)
  /-- Bnnn: jump to `nnn + V0`. -/
  | jumpOffset (nnn : Address)
  /-- Cxkk. -/
  | random (x : Nibble) (kk : UInt8)
  /-- Dxyn. -/
  | draw (x y n : Nibble)
  /-- Fx07. -/
  | readDelay (x : Nibble)
  /-- Fx0A. -/
  | waitKey (x : Nibble)
  /-- Fx15. -/
  | setDelay (x : Nibble)
  /-- Fx18. -/
  | setSound (x : Nibble)
  /-- Fx1E. -/
  | addIndex (x : Nibble)
  /-- Fx29: point the index at the font glyph of a digit. -/
  | loadGlyph (x : Nibble)
  /-- Fx33: store three decimal digits. -/
  | storeDecimal (x : Nibble)
  /-- Fx55: store `V0` to `Vx`. -/
  | storeRegisters (x : Nibble)
  /-- Fx65: load `V0` to `Vx`. -/
  | loadRegisters (x : Nibble)
  /-- Any other word. -/
  | unknown (word : UInt16)
  deriving DecidableEq

end Chip8
