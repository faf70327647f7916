import Chip8.Instruction
import Chip8.Text.Record

/-!
# Instructions written out

An instruction is shown by its name and its operands in decimal.
-/

namespace Chip8

open Text

namespace Instruction

/-- The name and the register number of an instruction with one register. -/
def withRegister (name : String) (x : Nibble) : String :=
  Record.withFields name [("x", toString x.val)]

/-- The name and the register numbers of an instruction with two registers. -/
def withRegisters (name : String) (x y : Nibble) : String :=
  Record.withFields name [("x", toString x.val), ("y", toString y.val)]

/-- The name, register number and immediate byte of an instruction. -/
def withByte (name : String) (x : Nibble) (kk : UInt8) : String :=
  Record.withFields name [("x", toString x.val), ("kk", toString kk.toNat)]

/-- The name and the address of an instruction. -/
def withAddress (name : String) (nnn : Address) : String :=
  Record.withFields name [("nnn", toString nnn.val)]

/-- A skip instruction written out. -/
def skipRecord : Condition → String
  | .equalsByte x kk => withByte "SkipEqImm" x kk
  | .differsFromByte x kk => withByte "SkipNeImm" x kk
  | .equalsRegister x y => withRegisters "SkipEqReg" x y
  | .differsFromRegister x y => withRegisters "SkipNeReg" x y
  | .keyDown x => withRegister "SkipKeyPressed" x
  | .keyUp x => withRegister "SkipKeyNotPressed" x

/-- The name of an arithmetic operation. -/
def arithmeticName : Arithmetic → String
  | .move => "Move"
  | .or => "Or"
  | .and => "And"
  | .xor => "Xor"
  | .add => "Add"
  | .subtract => "Sub"
  | .subtractReverse => "SubReverse"

/-- An instruction written out. -/
def asRecord : Instruction → String
  | .clearScreen => "ClearScreen"
  | .leave => "Return"
  | .machineCode nnn => withAddress "Sys" nnn
  | .jump nnn => withAddress "Jump" nnn
  | .call nnn => withAddress "Call" nnn
  | .skipIf condition => skipRecord condition
  | .loadByte x kk => withByte "LoadImm" x kk
  | .addByte x kk => withByte "AddImm" x kk
  | .combine arithmetic x y => withRegisters (arithmeticName arithmetic) x y
  | .shiftRight x => withRegister "ShiftRight" x
  | .shiftLeft x => withRegister "ShiftLeft" x
  | .loadIndex nnn => withAddress "LoadIndex" nnn
  | .jumpOffset nnn => withAddress "JumpOffset" nnn
  | .random x kk => withByte "Random" x kk
  | .draw x y n =>
      Record.withFields "Draw"
        [("x", toString x.val), ("y", toString y.val), ("n", toString n.val)]
  | .readDelay x => withRegister "ReadDelay" x
  | .waitKey x => withRegister "WaitKey" x
  | .setDelay x => withRegister "SetDelay" x
  | .setSound x => withRegister "SetSound" x
  | .addIndex x => withRegister "AddIndex" x
  | .loadGlyph x => withRegister "LoadGlyph" x
  | .storeDecimal x => withRegister "StoreBcd" x
  | .storeRegisters x => withRegister "StoreRegisters" x
  | .loadRegisters x => withRegister "LoadRegisters" x
  | .unknown word => Record.withPart "Unknown" (toString word.toNat)

end Instruction

end Chip8
