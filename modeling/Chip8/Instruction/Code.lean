import Chip8.Instruction

/-!
# Instruction words

`Instruction.decode` reads every word; `Instruction.encode` writes the word of
an instruction.  Decoding loses only the second register number of a shift,
which is written as zero, so decoding what was encoded gives every well-formed
instruction back.
-/

namespace Chip8

namespace Instruction

/-- The word with the given nibbles, most significant first. -/
def wordOf (family x y n : Nibble) : UInt16 :=
  UInt16.ofNat (4096 * family.val + 256 * x.val + 16 * y.val + n.val)

/-- The word with a family, a register number and a byte. -/
def wordOfByte (family x : Nibble) (kk : UInt8) : UInt16 :=
  UInt16.ofNat (4096 * family.val + 256 * x.val + kk.toNat)

/-- The word with a family and an address. -/
def wordOfAddress (family : Nibble) (nnn : Address) : UInt16 :=
  UInt16.ofNat (4096 * family.val + nnn.val)

/-- The instruction of a word. -/
def decode (word : UInt16) : Instruction :=
  let bits := word.toNat
  let x : Nibble := ⟨bits / 256 % 16, by omega⟩
  let y : Nibble := ⟨bits / 16 % 16, by omega⟩
  let n : Nibble := ⟨bits % 16, by omega⟩
  let kk : UInt8 := UInt8.ofNat (bits % 256)
  let nnn : Address := ⟨bits % 4096, by omega⟩
  match bits / 4096, bits / 256 % 16, bits / 16 % 16, bits % 16 with
  | 0x0, 0x0, 0xE, 0x0 => .clearScreen
  | 0x0, 0x0, 0xE, 0xE => .leave
  | 0x0, _, _, _ => .machineCode nnn
  | 0x1, _, _, _ => .jump nnn
  | 0x2, _, _, _ => .call nnn
  | 0x3, _, _, _ => .skipIf (.equalsByte x kk)
  | 0x4, _, _, _ => .skipIf (.differsFromByte x kk)
  | 0x5, _, _, 0x0 => .skipIf (.equalsRegister x y)
  | 0x6, _, _, _ => .loadByte x kk
  | 0x7, _, _, _ => .addByte x kk
  | 0x8, _, _, 0x0 => .combine .move x y
  | 0x8, _, _, 0x1 => .combine .or x y
  | 0x8, _, _, 0x2 => .combine .and x y
  | 0x8, _, _, 0x3 => .combine .xor x y
  | 0x8, _, _, 0x4 => .combine .add x y
  | 0x8, _, _, 0x5 => .combine .subtract x y
  | 0x8, _, _, 0x6 => .shiftRight x
  | 0x8, _, _, 0x7 => .combine .subtractReverse x y
  | 0x8, _, _, 0xE => .shiftLeft x
  | 0x9, _, _, 0x0 => .skipIf (.differsFromRegister x y)
  | 0xA, _, _, _ => .loadIndex nnn
  | 0xB, _, _, _ => .jumpOffset nnn
  | 0xC, _, _, _ => .random x kk
  | 0xD, _, _, _ => .draw x y n
  | 0xE, _, 0x9, 0xE => .skipIf (.keyDown x)
  | 0xE, _, 0xA, 0x1 => .skipIf (.keyUp x)
  | 0xF, _, 0x0, 0x7 => .readDelay x
  | 0xF, _, 0x0, 0xA => .waitKey x
  | 0xF, _, 0x1, 0x5 => .setDelay x
  | 0xF, _, 0x1, 0x8 => .setSound x
  | 0xF, _, 0x1, 0xE => .addIndex x
  | 0xF, _, 0x2, 0x9 => .loadGlyph x
  | 0xF, _, 0x3, 0x3 => .storeDecimal x
  | 0xF, _, 0x5, 0x5 => .storeRegisters x
  | 0xF, _, 0x6, 0x5 => .loadRegisters x
  | _, _, _, _ => .unknown word

/-- The word of a skip instruction. -/
def encodeSkip : Condition → UInt16
  | .equalsByte x kk => wordOfByte 0x3 x kk
  | .differsFromByte x kk => wordOfByte 0x4 x kk
  | .equalsRegister x y => wordOf 0x5 x y 0x0
  | .differsFromRegister x y => wordOf 0x9 x y 0x0
  | .keyDown x => wordOf 0xE x 0x9 0xE
  | .keyUp x => wordOf 0xE x 0xA 0x1

/-- The last nibble of an arithmetic instruction. -/
def arithmeticCode : Arithmetic → Nibble
  | .move => 0x0
  | .or => 0x1
  | .and => 0x2
  | .xor => 0x3
  | .add => 0x4
  | .subtract => 0x5
  | .subtractReverse => 0x7

/-- The word of an instruction; a shift has zero for its second register. -/
def encode : Instruction → UInt16
  | .clearScreen => 0x00E0
  | .leave => 0x00EE
  | .machineCode nnn => wordOfAddress 0x0 nnn
  | .jump nnn => wordOfAddress 0x1 nnn
  | .call nnn => wordOfAddress 0x2 nnn
  | .skipIf condition => encodeSkip condition
  | .loadByte x kk => wordOfByte 0x6 x kk
  | .addByte x kk => wordOfByte 0x7 x kk
  | .combine arithmetic x y => wordOf 0x8 x y (arithmeticCode arithmetic)
  | .shiftRight x => wordOf 0x8 x 0x0 0x6
  | .shiftLeft x => wordOf 0x8 x 0x0 0xE
  | .loadIndex nnn => wordOfAddress 0xA nnn
  | .jumpOffset nnn => wordOfAddress 0xB nnn
  | .random x kk => wordOfByte 0xC x kk
  | .draw x y n => wordOf 0xD x y n
  | .readDelay x => wordOf 0xF x 0x0 0x7
  | .waitKey x => wordOf 0xF x 0x0 0xA
  | .setDelay x => wordOf 0xF x 0x1 0x5
  | .setSound x => wordOf 0xF x 0x1 0x8
  | .addIndex x => wordOf 0xF x 0x1 0xE
  | .loadGlyph x => wordOf 0xF x 0x2 0x9
  | .storeDecimal x => wordOf 0xF x 0x3 0x3
  | .storeRegisters x => wordOf 0xF x 0x5 0x5
  | .loadRegisters x => wordOf 0xF x 0x6 0x5
  | .unknown word => word

/-- The two bytes of an instruction, most significant first. -/
def toBytes (instruction : Instruction) : List UInt8 :=
  let bits := instruction.encode.toNat
  [UInt8.ofNat (bits / 256), UInt8.ofNat (bits % 256)]

/-- The image of a program. -/
def assemble (program : List Instruction) : List UInt8 :=
  program.flatMap toBytes

end Instruction

end Chip8
