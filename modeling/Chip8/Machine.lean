import Chip8.Frame
import Chip8.Instruction
import Chip8.Keypad
import Chip8.Memory.Loading
import Chip8.Random

/-!
# The machine

Everything a program can see: sixteen registers of a byte, of which VF is also
the flag, the index register, the program counter, the return addresses, two
timers, memory, the frame and the keypad.  A machine may be waiting for a key
into a register, and the host may have paused it.
-/

namespace Chip8

/-- The state of the machine. -/
structure Machine where
  /-- The memory. -/
  memory : Memory
  /-- The pixels. -/
  frame : Frame
  /-- The keys, which only the host changes. -/
  keypad : Keypad
  /-- V0 to VF. -/
  registers : Vector UInt8 16
  /-- The index register I. -/
  index : UInt16
  /-- The address of the next word. -/
  programCounter : UInt16
  /-- The return addresses, the innermost first. -/
  stack : List UInt16
  /-- The delay timer. -/
  delayTimer : UInt8
  /-- The sound timer; the tone sounds while it is not zero. -/
  soundTimer : UInt8
  /-- The register that waits for a key. -/
  keyWait : Option Nibble
  /-- Whether the host has paused the machine. -/
  paused : Bool
  /-- The source of random bytes. -/
  random : RandomSource

namespace Machine

/-- How many return addresses there can be. -/
def stackLimit : Nat := 16

/-- The register that is also the flag. -/
def flagRegister : Nibble := 0xF

/-- The machine without a program. -/
def powerUp (random : RandomSource) : Machine where
  memory := .withFont
  frame := .dark
  keypad := .released
  registers := Vector.replicate 16 0
  index := 0
  programCounter := UInt16.ofNat Memory.programStart
  stack := []
  delayTimer := 0
  soundTimer := 0
  keyWait := none
  paused := false
  random := random

/-- A new machine with a program. -/
def withProgram (random : RandomSource) (program : List UInt8) :
    Except Error Machine :=
  (Memory.withFont.load program).map fun memory =>
    { powerUp random with memory }

/-- A new machine with the program that a reader gives. -/
def fromReader (random : RandomSource) (reader : List Read) :
    Except Error Machine :=
  (Memory.withFont.loadFrom reader).map fun memory =>
    { powerUp random with memory }

/-- The value of a register. -/
def register (machine : Machine) (x : Nibble) : UInt8 :=
  getElem machine.registers x.val x.val_lt

/-- Change a register. -/
def setRegister (machine : Machine) (x : Nibble) (value : UInt8) : Machine :=
  { machine with registers := machine.registers.set x value x.val_lt }

/-- Change a register and then the flag, which wins if they are the same. -/
def setWithFlag (machine : Machine) (x : Nibble) (value : UInt8)
    (flag : Bool) : Machine :=
  (machine.setRegister x value).setRegister flagRegister flag.toUInt8

/-- Start the sequence of a seed. -/
def reseed (machine : Machine) (seed : UInt64) : Machine :=
  { machine with random := machine.random.reseed seed }

/-- Whether the machine waits for a key. -/
def isWaiting (machine : Machine) : Bool :=
  machine.keyWait.isSome

/-- A timer one lower, unless it is zero. -/
def countDown (timer : UInt8) : UInt8 :=
  UInt8.ofNat (timer.toNat - 1)

/-- Count both timers down, stopping at zero, unless the machine is paused. -/
def tick (machine : Machine) : Machine :=
  if machine.paused then machine
  else
    { machine with
      delayTimer := countDown machine.delayTimer
      soundTimer := countDown machine.soundTimer }

/-- A tick changes nothing but the timers. -/
theorem tick_eq (machine : Machine) :
    ∃ delay sound, machine.tick =
      { machine with delayTimer := delay, soundTimer := sound } := by
  rw [tick]
  split
  · exact ⟨machine.delayTimer, machine.soundTimer, rfl⟩
  · exact ⟨_, _, rfl⟩

@[simp]
theorem register_setRegister (machine : Machine) (x y : Nibble)
    (value : UInt8) :
    (machine.setRegister x value).register y =
      if x = y then value else machine.register y := by
  simp only [register, setRegister, Vector.getElem_set, Fin.ext_iff]

end Machine

end Chip8
