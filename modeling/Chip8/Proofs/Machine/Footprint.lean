import Chip8.Proofs.Machine.StepCases

/-!
# Footprints of instructions

Every instruction has a part of the machine that it may change, and leaves the
rest alone.  `WritesByte` and `WritesRegister` say this for single bytes of
memory and single registers, and `Footprint` puts together what is known of the
machines before and after an instruction, one field for each part.  Only the
program counter is not among them.

The footprint is first that of the effect.  A step that executes an instruction
moves the program counter and then takes the effect, so that it has the same
footprint.  In a run, what lies outside of all footprints is as it was; this is
stated for the bytes of memory, where the program itself is stored.
-/

namespace Chip8

/-- Whether an arithmetic instruction sets the flag. -/
def Arithmetic.setsFlag : Arithmetic → Bool
  | .add | .subtract | .subtractReverse => true
  | .move | .or | .and | .xor => false

theorem Arithmetic.setsFlag_of_flag? {arithmetic : Arithmetic}
    {vx vy : UInt8} {flag : Bool} (given : arithmetic.flag? vx vy = some flag) :
    arithmetic.setsFlag := by
  cases arithmetic with
  | move | or | and | xor => cases given
  | add | subtract | subtractReverse => rfl

namespace Instruction

/-- The bytes that an instruction may write through the index register. -/
def WritesByte (index address : Nat) : Instruction → Prop
  | .storeDecimal _ => index ≤ address ∧ address ≤ index + 2
  | .storeRegisters x => index ≤ address ∧ address ≤ index + x.val
  | _ => False

/-- The registers that an instruction may write. -/
def WritesRegister (k : Nibble) : Instruction → Prop
  | .loadByte x _ | .addByte x _ | .random x _ | .readDelay x => k = x
  | .combine arithmetic x _ =>
      k = x ∨ (k = Machine.flagRegister ∧ arithmetic.setsFlag)
  | .shiftRight x | .shiftLeft x => k = x ∨ k = Machine.flagRegister
  | .draw _ _ _ => k = Machine.flagRegister
  | .loadRegisters x => k ≤ x
  | _ => False

end Instruction

namespace Machine

/-- What an instruction can have changed of a machine. -/
structure Footprint (instruction : Instruction) (before after : Machine) :
    Prop where
  /-- Memory is changed by Fx33 and Fx55 only, where they write. -/
  memory : ∀ address,
    after.memory.byteAt address ≠ before.memory.byteAt address →
      instruction.WritesByte before.index.toNat address
  /-- The frame is changed by 00E0 and Dxyn only. -/
  frame : after.frame ≠ before.frame →
    instruction = .clearScreen ∨ ∃ x y n, instruction = .draw x y n
  /-- The stack loses its top in 00EE, and 2nnn pushes one address. -/
  stack : after.stack ≠ before.stack →
    (instruction = .leave ∧ ∃ caller, before.stack = caller :: after.stack) ∨
      ∃ nnn caller,
        instruction = .call nnn ∧ after.stack = caller :: before.stack
  /-- The index register is changed by Annn, Fx1E and Fx29 only. -/
  index : after.index ≠ before.index →
    (∃ nnn, instruction = .loadIndex nnn) ∨
      ∃ x, instruction = .addIndex x ∨ instruction = .loadGlyph x
  /-- The delay timer is changed by Fx15 only. -/
  delayTimer : after.delayTimer ≠ before.delayTimer →
    ∃ x, instruction = .setDelay x
  /-- The sound timer is changed by Fx18 only. -/
  soundTimer : after.soundTimer ≠ before.soundTimer →
    ∃ x, instruction = .setSound x
  /-- The random bytes are used by Cxkk only. -/
  random : after.random ≠ before.random →
    ∃ x kk, instruction = .random x kk
  /-- A wait for a key is begun by Fx0A only. -/
  keyWait : after.keyWait ≠ before.keyWait →
    ∃ x, instruction = .waitKey x
  /-- A register is changed by an instruction that writes it. -/
  register : ∀ k, after.register k ≠ before.register k →
    instruction.WritesRegister k
  /-- The keys are left to the host. -/
  keypad : after.keypad = before.keypad
  /-- So is the pause. -/
  paused : after.paused = before.paused

/-! ## Registers -/

variable {machine : Machine} {instruction : Instruction} {k x : Nibble}

theorem register_setRegister_ne (other : k ≠ x) (value : UInt8) :
    (machine.setRegister x value).register k = machine.register k := by
  rw [register_setRegister, if_neg other.symm]

theorem register_setWithFlag_ne (other : k ≠ x) (noFlag : k ≠ flagRegister)
    (value : UInt8) (flag : Bool) :
    (machine.setWithFlag x value flag).register k = machine.register k := by
  rw [setWithFlag, register_setRegister_ne noFlag,
    register_setRegister_ne other]

theorem register_combine_ne {arithmetic : Arithmetic} (y : Nibble)
    (other : k ≠ x) (noFlag : ¬(k = flagRegister ∧ arithmetic.setsFlag)) :
    (machine.combine arithmetic x y).register k = machine.register k := by
  cases given : arithmetic.flag? (machine.register x) (machine.register y) with
  | none =>
      rw [combine_of_silent given]
      exact register_setRegister_ne other _
  | some flag =>
      have sets := Arithmetic.setsFlag_of_flag? given
      rw [combine_of_told given]
      exact register_setWithFlag_ne other (fun same => noFlag ⟨same, sets⟩) _ _

/-- Values for the first registers do not reach the later ones. -/
theorem register_setFirstRegisters_ge {values : List UInt8}
    (later : values.length ≤ k.val) :
    (machine.setFirstRegisters values).register k = machine.register k := by
  simp only [register, setFirstRegisters, Vector.getElem_ofFn]
  rw [List.getElem?_eq_none later]
  rfl

/-- An instruction changes no register but those it writes. -/
theorem register_effect (machine : Machine)
    (without : ¬ instruction.WritesRegister k) :
    (machine.effect instruction).register k = machine.register k := by
  cases instruction with
  | loadByte x kk => exact register_setRegister_ne without _
  | addByte x kk => exact register_setRegister_ne without _
  | random x kk => exact register_setRegister_ne without _
  | readDelay x => exact register_setRegister_ne without _
  | draw x y n => exact register_setRegister_ne without _
  | combine arithmetic x y =>
      exact register_combine_ne y (fun same => without (.inl same))
        (fun flagged => without (.inr flagged))
  | shiftRight x =>
      exact register_setWithFlag_ne (fun same => without (.inl same))
        (fun same => without (.inr same)) _ _
  | shiftLeft x =>
      exact register_setWithFlag_ne (fun same => without (.inl same))
        (fun same => without (.inr same)) _ _
  | loadRegisters x =>
      apply register_setFirstRegisters_ge
      rw [Memory.length_stretch]
      exact Fin.not_le.mp without
  | skipIf condition => rw [effect, skipIf_eq]; rfl
  | _ => rfl

/-! ## Memory -/

/-- An instruction changes no byte but those it writes. -/
theorem byteAt_effect (machine : Machine) {address : Nat}
    (without : ¬ instruction.WritesByte machine.index.toNat address) :
    (machine.effect instruction).memory.byteAt address =
      machine.memory.byteAt address := by
  rw [effect_memory]
  cases instruction with
  | storeDecimal x =>
      show (Memory.overwrite _ _ _).byteAt address = _
      rw [Memory.byteAt_overwrite, if_neg]
      rintro ⟨first, last, -⟩
      exact without ⟨first, Nat.le_of_lt_succ last⟩
  | storeRegisters x =>
      show (Memory.overwrite _ _ _).byteAt address = _
      rw [Memory.byteAt_overwrite, length_firstRegisters, if_neg]
      rintro ⟨first, last, -⟩
      exact without ⟨first, Nat.le_of_lt_succ last⟩
  | _ => rfl

/-- Whether the step of a machine writes the byte at an address. -/
def StepWrites (address : Nat) (machine : Machine) : Prop :=
  ∃ instruction, machine.step.result = .ok (.executed instruction) ∧
    instruction.WritesByte machine.index.toNat address

theorem byteAt_step {address : Nat} (without : ¬ machine.StepWrites address) :
    machine.step.state.memory.byteAt address =
      machine.memory.byteAt address := by
  rcases step_executed_or_keeps memory (fun _ => rfl) (fun _ _ _ => rfl)
      machine with ⟨instruction, executed, effected⟩ | ⟨-, kept⟩
  · rw [effected]
    apply byteAt_effect machine.advanced
    exact fun writes => without ⟨instruction, executed, writes⟩
  · rw [kept]

/-- A byte that no step of a run writes is the same at its end. -/
theorem byteAt_after_unwritten {address : Nat} {operations : List Operation}
    (without : NoStepWhere (StepWrites address) machine operations) :
    (machine.after operations).memory.byteAt address =
      machine.memory.byteAt address := by
  refine after_invariant_unless
    (fun later => later.memory.byteAt address = machine.memory.byteAt address)
    ?_ rfl without
  intro before operation same allowed
  cases operation with
  | step => exact (byteAt_step (allowed rfl)).trans same
  | tick =>
      show before.tick.memory.byteAt address = _
      rw [tick_keeps memory (fun _ _ _ => rfl) before]
      exact same
  | _ => exact same

/-! ## All parts -/

/-- The effect of an instruction stays inside of its footprint. -/
theorem footprint_effect (machine : Machine) (instruction : Instruction) :
    Footprint instruction machine (machine.effect instruction) where
  memory address changed :=
    Classical.byContradiction fun without =>
      changed (byteAt_effect machine without)
  frame changed := by
    rw [effect_frame] at changed
    cases instruction with
    | clearScreen => exact .inl rfl
    | draw x y n => exact .inr ⟨x, y, n, rfl⟩
    | _ => exact absurd rfl changed
  stack changed := by
    rw [effect_stack] at changed
    cases instruction with
    | leave =>
        cases callers : machine.stack with
        -- The effect alone takes nothing from an empty stack.
        | nil => exact absurd (by rw [callers]; rfl) changed
        | cons caller rest =>
            refine .inl ⟨rfl, caller, ?_⟩
            rw [effect_stack, callers]
            rfl
    | call nnn => exact .inr ⟨nnn, machine.programCounter, rfl, rfl⟩
    | _ => exact absurd rfl changed
  index changed := by
    rw [effect_index] at changed
    cases instruction with
    | loadIndex nnn => exact .inl ⟨nnn, rfl⟩
    | addIndex x => exact .inr ⟨x, .inl rfl⟩
    | loadGlyph x => exact .inr ⟨x, .inr rfl⟩
    | _ => exact absurd rfl changed
  delayTimer changed := by
    rw [effect_delayTimer] at changed
    cases instruction with
    | setDelay x => exact ⟨x, rfl⟩
    | _ => exact absurd rfl changed
  soundTimer changed := by
    rw [effect_soundTimer] at changed
    cases instruction with
    | setSound x => exact ⟨x, rfl⟩
    | _ => exact absurd rfl changed
  random changed := by
    rw [effect_random] at changed
    cases instruction with
    | random x kk => exact ⟨x, kk, rfl⟩
    | _ => exact absurd rfl changed
  keyWait changed := by
    rw [effect_keyWait] at changed
    cases instruction with
    | waitKey x => exact ⟨x, rfl⟩
    | _ => exact absurd rfl changed
  register k changed :=
    Classical.byContradiction fun without =>
      changed (register_effect machine without)
  keypad := effect_keypad machine instruction
  paused := effect_paused machine instruction

/-- The program counter is not a part of the footprint. -/
theorem Footprint.of_advanced {after : Machine}
    (footprint : Footprint instruction machine.advanced after) :
    Footprint instruction machine after where
  memory := footprint.memory
  frame := footprint.frame
  stack := footprint.stack
  index := footprint.index
  delayTimer := footprint.delayTimer
  soundTimer := footprint.soundTimer
  random := footprint.random
  keyWait := footprint.keyWait
  register := footprint.register
  keypad := footprint.keypad
  paused := footprint.paused

/--
A step that executes an instruction changes nothing outside of its footprint;
a routine in machine code and a word that is no instruction are only passed
over.
-/
theorem step_footprint
    (executed : machine.step.result = .ok (.executed instruction)) :
    Footprint instruction machine machine.step.state ∧
      ((∃ nnn, instruction = .machineCode nnn) ∨
          (∃ word, instruction = .unknown word) →
        machine.step.state =
          { machine with programCounter := machine.programCounter + 2 }) := by
  rcases step_of_executed executed with ⟨-, -, -, effected⟩
  rw [effected]
  constructor
  · exact (footprint_effect machine.advanced instruction).of_advanced
  · rintro (⟨nnn, rfl⟩ | ⟨word, rfl⟩)
    · rfl
    · rfl

/-- An instruction and then an unknown word. -/
def storingProgram : List UInt8 :=
  [0xF1, 0x55, 0x50, 0x01]

def storingMachine : Machine :=
  loaded (.ofSeed 0) storingProgram

/-- The one stays inside of its footprint, and the other is passed over. -/
theorem storingMachine_footprint :
    let passing := storingMachine.advanced
    Footprint (.storeRegisters 1) storingMachine storingMachine.step.state ∧
      passing.step.state =
        { passing with programCounter := passing.programCounter + 2 } := by
  intro passing
  have placed : storingMachine.memory =
      (loaded (.ofSeed 0) storingProgram).memory := by
    rw [storingMachine]
  have stores : storingMachine.nextInstruction = .storeRegisters 1 :=
    nextInstruction_of_loaded storingProgram 0 (by decide) (by decide) placed
      rfl (by decide)
  have passes : passing.nextInstruction = .unknown 0x5001 :=
    nextInstruction_of_loaded storingProgram 2 (by decide) (by decide) placed
      rfl (by decide)
  have stored := step_of_sound rfl rfl (by decide) stores rfl
  have passed := step_of_sound rfl rfl (by decide) passes rfl
  have storing := step_footprint (congrArg (·.result) stored)
  have unknown := step_footprint (congrArg (·.result) passed)
  exact ⟨storing.1, unknown.2 (.inr ⟨0x5001, rfl⟩)⟩

end Machine

end Chip8
