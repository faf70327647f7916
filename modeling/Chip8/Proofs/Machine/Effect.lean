import Chip8.Machine.Execution
import Chip8.Proofs.Memory.Access

/-!
# Checks and effects of instructions

An instruction is first checked and then takes effect.  `fault?` is the check:
the error of an instruction that cannot be executed.  `effect` is the change
that an instruction makes when nothing stands against it.  The main theorem
says that executing is nothing but the one followed by the other, so that an
instruction that fails has changed nothing.

The remaining theorems read single parts of a machine off the effect.
-/

namespace Chip8

namespace Machine

/-- The error of an access through the index register that leaves memory. -/
def accessFault? (machine : Machine) (length : Nat) : Option Error :=
  if machine.index.toNat + length ≤ Memory.size then none
  else some (.addressOutOfBounds (max machine.index.toNat Memory.size))

/-- The error of an instruction, fetched from `pc`, that cannot be executed. -/
def fault? (machine : Machine) (pc : UInt16) : Instruction → Option Error
  | .leave =>
      if machine.stack.isEmpty then some (.stackUnderflow pc) else none
  | .call _ =>
      if machine.stack.length < stackLimit then none
      else some (.stackOverflow pc)
  | .draw _ _ n => machine.accessFault? n.val
  | .storeDecimal _ => machine.accessFault? 3
  | .storeRegisters x => machine.accessFault? (x.val + 1)
  | .loadRegisters x => machine.accessFault? (x.val + 1)
  | _ => none

/-- What an instruction does to a machine when it can be executed. -/
def effect (machine : Machine) : Instruction → Machine
  | .clearScreen => { machine with frame := .dark }
  | .leave =>
      { machine with
        programCounter := machine.stack.headD 0
        stack := machine.stack.tail }
  | .machineCode _ => machine
  | .jump nnn => { machine with programCounter := UInt16.ofNat nnn.val }
  | .call nnn =>
      { machine with
        programCounter := UInt16.ofNat nnn.val
        stack := machine.programCounter :: machine.stack }
  | .skipIf condition => machine.skipIf (condition.holds machine)
  | .loadByte x kk => machine.setRegister x kk
  | .addByte x kk => machine.setRegister x (machine.register x + kk)
  | .combine arithmetic x y => machine.combine arithmetic x y
  | .shiftRight x =>
      machine.setWithFlag x (machine.register x >>> 1)
        ((machine.register x).toNat.testBit 0)
  | .shiftLeft x =>
      machine.setWithFlag x (machine.register x <<< 1)
        ((machine.register x).toNat.testBit 7)
  | .loadIndex nnn => { machine with index := UInt16.ofNat nnn.val }
  | .jumpOffset nnn =>
      { machine with
        programCounter := addressSum nnn.val (machine.register 0).toNat }
  | .random x kk =>
      { machine with random := machine.random.next.2 }.setRegister x
        (machine.random.next.1 &&& kk)
  | .draw x y n =>
      let drawn :=
        machine.frame.drawSprite (machine.register x) (machine.register y)
          (machine.memory.stretch machine.index.toNat n.val)
      { machine with frame := drawn.1 }.setRegister flagRegister
        drawn.2.toUInt8
  | .readDelay x => machine.setRegister x machine.delayTimer
  | .waitKey x => { machine with keyWait := some x }
  | .setDelay x => { machine with delayTimer := machine.register x }
  | .setSound x => { machine with soundTimer := machine.register x }
  | .addIndex x =>
      { machine with
        index := addressSum machine.index.toNat (machine.register x).toNat }
  | .loadGlyph x =>
      { machine with index := glyphAddress (machine.register x) }
  | .storeDecimal x =>
      { machine with
        memory := machine.memory.overwrite machine.index.toNat
          (decimalDigits (machine.register x)) }
  | .storeRegisters x =>
      { machine with
        memory := machine.memory.overwrite machine.index.toNat
          (machine.firstRegisters x) }
  | .loadRegisters x =>
      machine.setFirstRegisters
        (machine.memory.stretch machine.index.toNat (x.val + 1))
  | .unknown _ => machine

@[simp]
theorem length_firstRegisters (machine : Machine) (x : Nibble) :
    (machine.firstRegisters x).length = x.val + 1 := by
  simp only [firstRegisters, List.length_take, Vector.length_toList]
  omega

theorem accessFault?_inside {machine : Machine} {length : Nat}
    (inside : machine.index.toNat + length ≤ Memory.size) :
    machine.accessFault? length = none :=
  if_pos inside

theorem accessFault?_outside {machine : Machine} {length : Nat}
    (outside : Memory.size < machine.index.toNat + length) :
    machine.accessFault? length =
      some (.addressOutOfBounds (max machine.index.toNat Memory.size)) :=
  if_neg (Nat.not_le_of_lt outside)

/--
Reading through the index register and going on with what was read fails or
takes effect as the access is judged.
-/
theorem map_slice_eq (machine : Machine) (length : Nat)
    (use : List UInt8 → Machine) :
    (machine.memory.slice machine.index length).map use =
      match machine.accessFault? length with
      | some error => .error error
      | none =>
          .ok (use (machine.memory.stretch machine.index.toNat length)) := by
  rcases Nat.lt_or_ge Memory.size (machine.index.toNat + length) with
    outside | inside
  · rw [Memory.slice_outside outside, accessFault?_outside outside]
    rfl
  · rw [Memory.slice_inside inside, accessFault?_inside inside]
    rfl

/-- Writing through the index register fails or takes effect likewise. -/
theorem map_write_eq (machine : Machine) (data : List UInt8) :
    ((machine.memory.write machine.index data).map fun memory =>
        { machine with memory }) =
      match machine.accessFault? data.length with
      | some error => .error error
      | none =>
          .ok { machine with
            memory := machine.memory.overwrite machine.index.toNat data } := by
  rcases Nat.lt_or_ge Memory.size (machine.index.toNat + data.length) with
    outside | inside
  · rw [Memory.write_outside outside, accessFault?_outside outside]
    rfl
  · rw [Memory.write_inside inside, accessFault?_inside inside]
    rfl

/--
Executing an instruction is checking it and, if the check finds nothing, taking
its effect.
-/
theorem execute_eq (machine : Machine) (pc : UInt16)
    (instruction : Instruction) :
    machine.execute pc instruction =
      match machine.fault? pc instruction with
      | some error => .error error
      | none => .ok (machine.effect instruction) := by
  cases instruction with
  | leave =>
      cases callers : machine.stack <;>
        simp [execute, fault?, effect, callers]
  | call nnn =>
      simp only [execute, fault?]
      split <;> rfl
  | draw x y n =>
      exact machine.map_slice_eq n.val _
  | storeDecimal x =>
      exact machine.map_write_eq (decimalDigits (machine.register x))
  | storeRegisters x =>
      have written := machine.map_write_eq (machine.firstRegisters x)
      rw [length_firstRegisters] at written
      exact written
  | loadRegisters x =>
      exact machine.map_slice_eq (x.val + 1) _
  | _ => rfl

/-! ## Single parts of the effect -/

theorem skipIf_eq (machine : Machine) (condition : Bool) :
    machine.skipIf condition =
      { machine with
        programCounter :=
          if condition then machine.programCounter + 2
          else machine.programCounter } := by
  cases condition <;> rfl

/-- Without a flag, combining only changes the first register. -/
theorem combine_of_silent {machine : Machine} {arithmetic : Arithmetic}
    {x y : Nibble}
    (silent : arithmetic.flag? (machine.register x) (machine.register y) =
      none) :
    machine.combine arithmetic x y =
      machine.setRegister x
        (arithmetic.value (machine.register x) (machine.register y)) := by
  simp only [combine, silent]

/-- With a flag, combining changes the first register and then the flag. -/
theorem combine_of_told {machine : Machine} {arithmetic : Arithmetic}
    {x y : Nibble} {flag : Bool}
    (told : arithmetic.flag? (machine.register x) (machine.register y) =
      some flag) :
    machine.combine arithmetic x y =
      machine.setWithFlag x
        (arithmetic.value (machine.register x) (machine.register y)) flag := by
  simp only [combine, told]

theorem combine_eq (machine : Machine) (arithmetic : Arithmetic)
    (x y : Nibble) :
    machine.combine arithmetic x y =
      { machine with
        registers := (machine.combine arithmetic x y).registers } := by
  cases arithmetic <;> rfl

theorem effect_index (machine : Machine) (instruction : Instruction) :
    (machine.effect instruction).index =
      match instruction with
      | .loadIndex nnn => UInt16.ofNat nnn.val
      | .addIndex x =>
          addressSum machine.index.toNat (machine.register x).toNat
      | .loadGlyph x => glyphAddress (machine.register x)
      | _ => machine.index := by
  cases instruction with
  | skipIf condition => rw [effect, skipIf_eq]
  | combine arithmetic x y => rw [effect, combine_eq]
  | loadRegisters x => rw [effect, setFirstRegisters]
  | _ => rfl

theorem effect_programCounter (machine : Machine)
    (instruction : Instruction) :
    (machine.effect instruction).programCounter =
      match instruction with
      | .leave => machine.stack.headD 0
      | .jump nnn => UInt16.ofNat nnn.val
      | .call nnn => UInt16.ofNat nnn.val
      | .skipIf condition =>
          if condition.holds machine then machine.programCounter + 2
          else machine.programCounter
      | .jumpOffset nnn => addressSum nnn.val (machine.register 0).toNat
      | _ => machine.programCounter := by
  cases instruction with
  | skipIf condition => rw [effect, skipIf_eq]
  | combine arithmetic x y => rw [effect, combine_eq]
  | loadRegisters x => rw [effect, setFirstRegisters]
  | _ => rfl

theorem effect_stack (machine : Machine) (instruction : Instruction) :
    (machine.effect instruction).stack =
      match instruction with
      | .leave => machine.stack.tail
      | .call _ => machine.programCounter :: machine.stack
      | _ => machine.stack := by
  cases instruction with
  | skipIf condition => rw [effect, skipIf_eq]
  | combine arithmetic x y => rw [effect, combine_eq]
  | loadRegisters x => rw [effect, setFirstRegisters]
  | _ => rfl

theorem effect_memory (machine : Machine) (instruction : Instruction) :
    (machine.effect instruction).memory =
      match instruction with
      | .storeDecimal x =>
          machine.memory.overwrite machine.index.toNat
            (decimalDigits (machine.register x))
      | .storeRegisters x =>
          machine.memory.overwrite machine.index.toNat
            (machine.firstRegisters x)
      | _ => machine.memory := by
  cases instruction with
  | skipIf condition => rw [effect, skipIf_eq]
  | combine arithmetic x y => rw [effect, combine_eq]
  | loadRegisters x => rw [effect, setFirstRegisters]
  | _ => rfl

theorem effect_frame (machine : Machine) (instruction : Instruction) :
    (machine.effect instruction).frame =
      match instruction with
      | .clearScreen => .dark
      | .draw x y n =>
          (machine.frame.drawSprite (machine.register x) (machine.register y)
            (machine.memory.stretch machine.index.toNat n.val)).1
      | _ => machine.frame := by
  cases instruction with
  | skipIf condition => rw [effect, skipIf_eq]
  | combine arithmetic x y => rw [effect, combine_eq]
  | loadRegisters x => rw [effect, setFirstRegisters]
  | _ => rfl

theorem effect_delayTimer (machine : Machine) (instruction : Instruction) :
    (machine.effect instruction).delayTimer =
      match instruction with
      | .setDelay x => machine.register x
      | _ => machine.delayTimer := by
  cases instruction with
  | skipIf condition => rw [effect, skipIf_eq]
  | combine arithmetic x y => rw [effect, combine_eq]
  | loadRegisters x => rw [effect, setFirstRegisters]
  | _ => rfl

theorem effect_soundTimer (machine : Machine) (instruction : Instruction) :
    (machine.effect instruction).soundTimer =
      match instruction with
      | .setSound x => machine.register x
      | _ => machine.soundTimer := by
  cases instruction with
  | skipIf condition => rw [effect, skipIf_eq]
  | combine arithmetic x y => rw [effect, combine_eq]
  | loadRegisters x => rw [effect, setFirstRegisters]
  | _ => rfl

theorem effect_keyWait (machine : Machine) (instruction : Instruction) :
    (machine.effect instruction).keyWait =
      match instruction with
      | .waitKey x => some x
      | _ => machine.keyWait := by
  cases instruction with
  | skipIf condition => rw [effect, skipIf_eq]
  | combine arithmetic x y => rw [effect, combine_eq]
  | loadRegisters x => rw [effect, setFirstRegisters]
  | _ => rfl

theorem effect_random (machine : Machine) (instruction : Instruction) :
    (machine.effect instruction).random =
      match instruction with
      | .random _ _ => machine.random.next.2
      | _ => machine.random := by
  cases instruction with
  | skipIf condition => rw [effect, skipIf_eq]
  | combine arithmetic x y => rw [effect, combine_eq]
  | loadRegisters x => rw [effect, setFirstRegisters]
  | _ => rfl

/-- No instruction pauses the machine or lets it go on. -/
@[simp]
theorem effect_paused (machine : Machine) (instruction : Instruction) :
    (machine.effect instruction).paused = machine.paused := by
  cases instruction with
  | skipIf condition => rw [effect, skipIf_eq]
  | combine arithmetic x y => rw [effect, combine_eq]
  | loadRegisters x => rw [effect, setFirstRegisters]
  | _ => rfl

/-- No instruction presses or releases a key. -/
@[simp]
theorem effect_keypad (machine : Machine) (instruction : Instruction) :
    (machine.effect instruction).keypad = machine.keypad := by
  cases instruction with
  | skipIf condition => rw [effect, skipIf_eq]
  | combine arithmetic x y => rw [effect, combine_eq]
  | loadRegisters x => rw [effect, setFirstRegisters]
  | _ => rfl

/-! ## Addresses as numbers -/

theorem toNat_address (nnn : Address) :
    (UInt16.ofNat nnn.val).toNat = nnn.val := by
  rw [UInt16.toNat_ofNat']
  omega

theorem toNat_addressSum (first second : Nat) :
    (addressSum first second).toNat = (first + second) % 4096 := by
  rw [addressSum, UInt16.toNat_ofNat']
  omega

theorem toNat_glyphAddress (value : UInt8) :
    (glyphAddress value).toNat =
      Memory.fontStart + Memory.glyphSize * (Nibble.lower value).val := by
  rw [glyphAddress, UInt16.toNat_ofNat']
  have digit := (Nibble.lower value).val_lt
  simp only [Memory.fontStart, Memory.glyphSize]
  omega

end Machine

end Chip8
