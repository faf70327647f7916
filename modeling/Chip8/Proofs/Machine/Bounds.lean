import Chip8.Proofs.Machine.Run
import Chip8.Proofs.Machine.StepCases

/-!
# Bounds of reachable machines

The index register stays below 0x1000.  The program counter can leave memory,
but only by two words: a skip at the last word of memory moves it to 0x1002, and
from there every fetch fails.  A return address is where a word ends that was
fetched, so it is at least two and at most the size of memory.
-/

namespace Chip8

namespace Machine

/-- The ranges in which the parts of a machine stay. -/
structure Bounded (machine : Machine) : Prop where
  memory_size : machine.memory.bytes.toList.length = 4096
  frame_size : machine.frame.pixels.toList.length = 2048
  index_le : machine.index.toNat ≤ 0xFFF
  /-- The program counter is at most one word behind memory. -/
  programCounter_le : machine.programCounter.toNat ≤ 0x1002
  stack_length_le : machine.stack.length ≤ 16
  /-- Every return address is the end of a word of memory. -/
  caller_bounds : ∀ caller ∈ machine.stack,
    0x0002 ≤ caller.toNat ∧ caller.toNat ≤ 0x1000
  keyWait_lt : ∀ x, machine.keyWait = some x → x.val < 16

variable {machine : Machine}

/-- Only the index register, the program counter and the stack need a proof. -/
theorem Bounded.ofControl
    (index_le : machine.index.toNat ≤ 0xFFF)
    (programCounter_le : machine.programCounter.toNat ≤ 0x1002)
    (stack_length_le : machine.stack.length ≤ 16)
    (caller_bounds : ∀ caller ∈ machine.stack,
      0x0002 ≤ caller.toNat ∧ caller.toNat ≤ 0x1000) :
    Bounded machine where
  memory_size := Vector.length_toList
  frame_size := Vector.length_toList
  index_le := index_le
  programCounter_le := programCounter_le
  stack_length_le := stack_length_le
  caller_bounds := caller_bounds
  keyWait_lt x _ := x.val_lt

/-- A machine with the same control state is bounded as well. -/
theorem Bounded.congr {other : Machine} (bounded : Bounded machine)
    (index : other.index = machine.index)
    (programCounter : other.programCounter = machine.programCounter)
    (stack : other.stack = machine.stack) : Bounded other := by
  apply Bounded.ofControl
  · rw [index]
    exact bounded.index_le
  · rw [programCounter]
    exact bounded.programCounter_le
  · rw [stack]
    exact bounded.stack_length_le
  · rw [stack]
    exact bounded.caller_bounds

theorem Built.bounded (built : Built machine) : Bounded machine := by
  obtain ⟨random, memory, rfl⟩ := built.eq_powerUp_with
  apply Bounded.ofControl
  · exact Nat.zero_le _
  · change 0x200 ≤ 0x1002
    omega
  · exact Nat.zero_le _
  · intro caller member
    cases member

theorem Bounded.advanced (bounded : Bounded machine)
    (inside : machine.programCounter.toNat + 2 ≤ Memory.size) :
    Bounded machine.advanced := by
  apply Bounded.ofControl
  · exact bounded.index_le
  · rw [toNat_advanced inside]
    simp only [Memory.size] at inside
    omega
  · exact bounded.stack_length_le
  · exact bounded.caller_bounds

/-- An instruction that can be executed keeps the index register in range. -/
theorem effect_index_le (instruction : Instruction)
    (index_le : machine.index.toNat ≤ 0xFFF) :
    (machine.effect instruction).index.toNat ≤ 0xFFF := by
  rw [effect_index]
  split
  · rw [toNat_address]
    omega
  · rw [toNat_addressSum]
    omega
  · rw [toNat_glyphAddress]
    simp only [Memory.fontStart, Memory.glyphSize]
    omega
  · exact index_le

/-- A jump leads into memory, a return to a caller, a skip one word further. -/
theorem effect_programCounter_le (instruction : Instruction)
    (here : machine.programCounter.toNat ≤ 0x1000)
    (caller_bounds : ∀ caller ∈ machine.stack,
      0x0002 ≤ caller.toNat ∧ caller.toNat ≤ 0x1000) :
    (machine.effect instruction).programCounter.toNat ≤ 0x1002 := by
  rw [effect_programCounter]
  split
  · cases callers : machine.stack with
    | nil => exact Nat.zero_le _
    | cons caller rest =>
        have bounds := caller_bounds caller (by simp [callers])
        exact Nat.le_trans bounds.2 (by omega)
  · rw [toNat_address]
    omega
  · rw [toNat_address]
    omega
  · split
    · rw [toNat_add_two here]
      omega
    · omega
  · rw [toNat_addressSum]
    omega
  · omega

/-- A call that can be executed finds room for its return address. -/
theorem effect_stack_length_le {pc : UInt16} {instruction : Instruction}
    (sound : machine.fault? pc instruction = none)
    (stack_length_le : machine.stack.length ≤ 16) :
    (machine.effect instruction).stack.length ≤ 16 := by
  rw [effect_stack]
  split
  · rw [List.length_tail]
    omega
  · rename_i nnn
    have room : machine.stack.length < stackLimit := by
      simpa [fault?] using sound
    exact room
  · exact stack_length_le

/-- The return addresses are those from before and the end of the call. -/
theorem effect_caller_bounds (instruction : Instruction)
    (low : 2 ≤ machine.programCounter.toNat)
    (high : machine.programCounter.toNat ≤ 0x1000)
    (caller_bounds : ∀ caller ∈ machine.stack,
      0x0002 ≤ caller.toNat ∧ caller.toNat ≤ 0x1000) :
    ∀ caller ∈ (machine.effect instruction).stack,
      0x0002 ≤ caller.toNat ∧ caller.toNat ≤ 0x1000 := by
  rw [effect_stack]
  intro caller member
  split at member
  · exact caller_bounds caller (List.mem_of_mem_tail member)
  · rcases List.mem_cons.mp member with rfl | earlier
    · exact ⟨low, high⟩
    · exact caller_bounds caller earlier
  · exact caller_bounds caller member

/-- Every step keeps the bounds, whether it succeeds or fails. -/
theorem Bounded.step (bounded : Bounded machine) :
    Bounded machine.step.state := by
  cases machine.stepCase with
  | paused halted made =>
      rw [made]
      exact bounded
  | waiting x running wait noKey made =>
      rw [made]
      exact bounded
  | received x key running wait lowest made =>
      rw [made]
      exact bounded.congr rfl rfl rfl
  | unfetched running idle outside made =>
      rw [made]
      exact bounded
  | failed error running idle inside fault made =>
      rw [made]
      exact bounded.advanced inside
  | executed running idle inside sound made =>
      rw [made]
      have moved := toNat_advanced inside
      have further := bounded.advanced inside
      have high : machine.advanced.programCounter.toNat ≤ 0x1000 := by
        rw [moved]
        exact inside
      apply Bounded.ofControl
      · exact effect_index_le _ further.index_le
      · exact effect_programCounter_le _ high further.caller_bounds
      · exact effect_stack_length_le
          ((fault?_advanced machine _ _).trans sound)
          further.stack_length_le
      · exact effect_caller_bounds _ (by omega) high further.caller_bounds

theorem Bounded.perform (bounded : Bounded machine)
    (operation : Operation) :
    Bounded (operation.perform machine).state := by
  cases operation with
  | step => exact bounded.step
  | tick =>
      change Bounded machine.tick
      obtain ⟨delay, sound, ticked⟩ := machine.tick_eq
      rw [ticked]
      exact bounded.congr rfl rfl rfl
  | pause => exact bounded.congr rfl rfl rfl
  | resume => exact bounded.congr rfl rfl rfl
  | setKey code pressed => exact bounded.congr rfl rfl rfl
  | releaseAll => exact bounded.congr rfl rfl rfl
  | reseed seed => exact bounded.congr rfl rfl rfl

theorem Reachable.bounded (reachable : Reachable machine) :
    Bounded machine :=
  reachable.invariant (fun _ built => built.bounded)
    fun _ operation bounded => bounded.perform operation

end Machine

end Chip8
