import Chip8.Frame.Sprite
import Chip8.Machine

/-!
# Executing an instruction

`Machine.execute` is what one instruction does to a machine whose program
counter already points past it.  An instruction that fails does nothing at all:
its access to memory or to the stack is checked before anything changes.
-/

namespace Chip8

/-- Whether a condition holds of a machine. -/
def Condition.holds (machine : Machine) : Condition → Bool
  | .equalsByte x kk => machine.register x == kk
  | .differsFromByte x kk => machine.register x != kk
  | .equalsRegister x y => machine.register x == machine.register y
  | .differsFromRegister x y => machine.register x != machine.register y
  | .keyDown x => machine.keypad.isPressed (machine.register x)
  | .keyUp x => !machine.keypad.isPressed (machine.register x)

/-- The condition that holds exactly when this one does not. -/
def Condition.opposite : Condition → Condition
  | .equalsByte x kk => .differsFromByte x kk
  | .differsFromByte x kk => .equalsByte x kk
  | .equalsRegister x y => .differsFromRegister x y
  | .differsFromRegister x y => .equalsRegister x y
  | .keyDown x => .keyUp x
  | .keyUp x => .keyDown x

@[simp]
theorem Condition.holds_opposite (machine : Machine) (condition : Condition) :
    condition.opposite.holds machine = !condition.holds machine := by
  cases condition <;> simp [opposite, holds, bne]

/-- The value that an arithmetic instruction gives to its first register. -/
def Arithmetic.value (vx vy : UInt8) : Arithmetic → UInt8
  | .move => vy
  | .or => vx ||| vy
  | .and => vx &&& vy
  | .xor => vx ^^^ vy
  | .add => vx + vy
  | .subtract => vx - vy
  | .subtractReverse => vy - vx

/-- The flag that an arithmetic instruction sets, if it sets one. -/
def Arithmetic.flag? (vx vy : UInt8) : Arithmetic → Option Bool
  | .move => none
  | .or => none
  | .and => none
  | .xor => none
  | .add => some (255 < vx.toNat + vy.toNat)
  | .subtract => some (vy < vx)
  | .subtractReverse => some (vx < vy)

namespace Machine

/-- Skip the next word if a condition holds. -/
def skipIf (machine : Machine) (condition : Bool) : Machine :=
  if condition then
    { machine with programCounter := machine.programCounter + 2 }
  else machine

/-- Apply an arithmetic operation to two registers. -/
def combine (machine : Machine) (arithmetic : Arithmetic) (x y : Nibble) :
    Machine :=
  let vx := machine.register x
  let vy := machine.register y
  match arithmetic.flag? vx vy with
  | none => machine.setRegister x (arithmetic.value vx vy)
  | some flag => machine.setWithFlag x (arithmetic.value vx vy) flag

/-- V0 to Vx. -/
def firstRegisters (machine : Machine) (x : Nibble) : List UInt8 :=
  machine.registers.toList.take (x.val + 1)

/-- Give values to V0, V1 and so on. -/
def setFirstRegisters (machine : Machine) (values : List UInt8) : Machine :=
  { machine with
    registers := Vector.ofFn fun register =>
      values[register.val]?.getD (machine.register register) }

/-- The decimal digits of a byte, three of them. -/
def decimalDigits (value : UInt8) : List UInt8 :=
  [value / 100, value / 10 % 10, value % 10]

/-- The address of the glyph of a digit; the upper half of a byte is ignored. -/
def glyphAddress (value : UInt8) : UInt16 :=
  UInt16.ofNat
    (Memory.fontStart + Memory.glyphSize * (Nibble.lower value).val)

/-- A sum of addresses without its bits above the twelfth. -/
def addressSum (first second : Nat) : UInt16 :=
  UInt16.ofNat ((first + second) % 4096)

/-- Execute an instruction that was fetched from `pc`. -/
def execute (machine : Machine) (pc : UInt16) :
    Instruction → Except Error Machine
  | .clearScreen => .ok { machine with frame := .dark }
  | .leave =>
      match machine.stack with
      | [] => .error (.stackUnderflow pc)
      | caller :: rest =>
          .ok { machine with programCounter := caller, stack := rest }
  | .machineCode _ => .ok machine
  | .jump nnn =>
      .ok { machine with programCounter := UInt16.ofNat nnn.val }
  | .call nnn =>
      if machine.stack.length < stackLimit then
        .ok { machine with
          programCounter := UInt16.ofNat nnn.val
          stack := machine.programCounter :: machine.stack }
      else .error (.stackOverflow pc)
  | .skipIf condition => .ok (machine.skipIf (condition.holds machine))
  | .loadByte x kk => .ok (machine.setRegister x kk)
  | .addByte x kk => .ok (machine.setRegister x (machine.register x + kk))
  | .combine arithmetic x y => .ok (machine.combine arithmetic x y)
  | .shiftRight x =>
      let vx := machine.register x
      .ok (machine.setWithFlag x (vx >>> 1) (vx.toNat.testBit 0))
  | .shiftLeft x =>
      let vx := machine.register x
      .ok (machine.setWithFlag x (vx <<< 1) (vx.toNat.testBit 7))
  | .loadIndex nnn => .ok { machine with index := UInt16.ofNat nnn.val }
  | .jumpOffset nnn =>
      .ok { machine with
        programCounter := addressSum nnn.val (machine.register 0).toNat }
  | .random x kk =>
      let (byte, random) := machine.random.next
      .ok ({ machine with random }.setRegister x (byte &&& kk))
  | .draw x y n =>
      (machine.memory.slice machine.index n.val).map fun sprite =>
        let (frame, collision) :=
          machine.frame.drawSprite (machine.register x) (machine.register y)
            sprite
        { machine with frame }.setRegister flagRegister collision.toUInt8
  | .readDelay x => .ok (machine.setRegister x machine.delayTimer)
  | .waitKey x => .ok { machine with keyWait := some x }
  | .setDelay x => .ok { machine with delayTimer := machine.register x }
  | .setSound x => .ok { machine with soundTimer := machine.register x }
  | .addIndex x =>
      .ok { machine with
        index := addressSum machine.index.toNat (machine.register x).toNat }
  | .loadGlyph x =>
      .ok { machine with index := glyphAddress (machine.register x) }
  | .storeDecimal x =>
      (machine.memory.write machine.index
        (decimalDigits (machine.register x))).map fun memory =>
          { machine with memory }
  | .storeRegisters x =>
      (machine.memory.write machine.index (machine.firstRegisters x)).map
        fun memory => { machine with memory }
  | .loadRegisters x =>
      (machine.memory.slice machine.index (x.val + 1)).map
        machine.setFirstRegisters
  | .unknown _ => .ok machine

end Machine

end Chip8
