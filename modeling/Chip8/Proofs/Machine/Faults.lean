import Chip8.Proofs.Machine.Bounds

/-!
# Faults

`Fault` lists every way in which the step of a machine that runs can fail, with
the error that it gives.  It speaks of the word that is fetched, of the stack
and of the index register only, not of how an instruction is executed.

The step of a reachable machine fails exactly with its faults.  A fetch that
fails leaves everything as it was, so it fails again until the machine is
paused, whatever else is done; an instruction that fails moves the program
counter past itself and does nothing else.
-/

namespace Chip8

namespace Machine

open Instruction

/-- The errors with which a machine that runs fails, each with its cause. -/
inductive Fault (machine : Machine) : Error → Prop where
  /-- The program counter has left memory. -/
  | fetch
      (outside : 4096 < machine.programCounter.toNat + 2) :
      Fault machine
        (.addressOutOfBounds (max machine.programCounter.toNat 0x1000))
  /-- 00EE without a caller. -/
  | leave
      (inside : machine.programCounter.toNat + 2 ≤ 4096)
      (word : machine.nextWord = 0x00EE)
      (empty : machine.stack = []) :
      Fault machine (.stackUnderflow machine.programCounter)
  /-- 2nnn with sixteen callers. -/
  | call (nnn : Address)
      (inside : machine.programCounter.toNat + 2 ≤ 4096)
      (word : machine.nextWord = wordOfAddress 0x2 nnn)
      (full : machine.stack.length = 16) :
      Fault machine (.stackOverflow machine.programCounter)
  /-- Dxyn with a sprite that leaves memory. -/
  | draw (x y n : Nibble)
      (inside : machine.programCounter.toNat + 2 ≤ 4096)
      (word : machine.nextWord = wordOf 0xD x y n)
      (outside : 4096 < machine.index.toNat + n.val) :
      Fault machine (.addressOutOfBounds 0x1000)
  /-- Fx33 with digits that leave memory. -/
  | storeDecimal (x : Nibble)
      (inside : machine.programCounter.toNat + 2 ≤ 4096)
      (word : machine.nextWord = wordOf 0xF x 0x3 0x3)
      (outside : 4096 < machine.index.toNat + 3) :
      Fault machine (.addressOutOfBounds 0x1000)
  /-- Fx55 with registers that leave memory. -/
  | storeRegisters (x : Nibble)
      (inside : machine.programCounter.toNat + 2 ≤ 4096)
      (word : machine.nextWord = wordOf 0xF x 0x5 0x5)
      (outside : 4096 < machine.index.toNat + x.val + 1) :
      Fault machine (.addressOutOfBounds 0x1000)
  /-- Fx65 with registers that leave memory. -/
  | loadRegisters (x : Nibble)
      (inside : machine.programCounter.toNat + 2 ≤ 4096)
      (word : machine.nextWord = wordOf 0xF x 0x6 0x5)
      (outside : 4096 < machine.index.toNat + x.val + 1) :
      Fault machine (.addressOutOfBounds 0x1000)

variable {machine : Machine}

/-- Below the end of memory an access only leaves it at its end. -/
theorem accessFault?_eq_some_iff {length : Nat} {error : Error}
    (index_le : machine.index.toNat ≤ 0xFFF) :
    machine.accessFault? length = some error ↔
      4096 < machine.index.toNat + length ∧
        error = .addressOutOfBounds 0x1000 := by
  have last : max machine.index.toNat Memory.size = 0x1000 :=
    Nat.max_eq_right (Nat.le_succ_of_le index_le)
  constructor
  · intro fault
    rcases Nat.lt_or_ge Memory.size (machine.index.toNat + length) with
      outside | inside
    · rw [accessFault?_outside outside, last] at fault
      exact ⟨outside, (Option.some.inj fault).symm⟩
    · rw [accessFault?_inside inside] at fault
      cases fault
  · rintro ⟨outside, rfl⟩
    rw [accessFault?_outside outside, last]

/-- What keeps the fetched instruction from being executed is a fault. -/
theorem Bounded.fault_of_fault? (bounded : Bounded machine)
    (inside : machine.programCounter.toNat + 2 ≤ 4096) {error : Error}
    (fault : machine.fault? machine.programCounter
      machine.nextInstruction = some error) :
    Fault machine error := by
  have access : ∀ length, machine.accessFault? length = some error →
      4096 < machine.index.toNat + length ∧
        error = .addressOutOfBounds 0x1000 :=
    fun _ => (accessFault?_eq_some_iff bounded.index_le).mp
  cases instruction : machine.nextInstruction with
  | leave =>
      have word := (nextInstruction_eq_iff .leave trivial rfl).mp instruction
      rw [instruction, fault?] at fault
      split at fault
      · rename_i empty
        cases fault
        exact .leave inside word (List.isEmpty_iff.mp empty)
      · cases fault
  | call nnn =>
      have word :=
        (nextInstruction_eq_iff (.call nnn) trivial rfl).mp instruction
      rw [instruction, fault?] at fault
      split at fault
      · cases fault
      · rename_i room
        cases fault
        have full : machine.stack.length = 16 :=
          Nat.le_antisymm bounded.stack_length_le (Nat.le_of_not_lt room)
        exact .call nnn inside word full
  | draw x y n =>
      have word :=
        (nextInstruction_eq_iff (.draw x y n) trivial rfl).mp instruction
      rw [instruction] at fault
      obtain ⟨outside, rfl⟩ := access _ fault
      exact .draw x y n inside word outside
  | storeDecimal x =>
      have word :=
        (nextInstruction_eq_iff (.storeDecimal x) trivial rfl).mp instruction
      rw [instruction] at fault
      obtain ⟨outside, rfl⟩ := access _ fault
      exact .storeDecimal x inside word outside
  | storeRegisters x =>
      have word := (nextInstruction_eq_iff (.storeRegisters x) trivial
        rfl).mp instruction
      rw [instruction] at fault
      obtain ⟨outside, rfl⟩ := access _ fault
      exact .storeRegisters x inside word outside
  | loadRegisters x =>
      have word := (nextInstruction_eq_iff (.loadRegisters x) trivial
        rfl).mp instruction
      rw [instruction] at fault
      obtain ⟨outside, rfl⟩ := access _ fault
      exact .loadRegisters x inside word outside
  | _ =>
      rw [instruction] at fault
      cases fault

/-- A fault inside of memory keeps the fetched instruction from execution. -/
theorem Bounded.fault?_of_fault (bounded : Bounded machine)
    (inside : machine.programCounter.toNat + 2 ≤ 4096) {error : Error}
    (fault : Fault machine error) :
    machine.fault? machine.programCounter machine.nextInstruction =
      some error := by
  have access : ∀ length, 4096 < machine.index.toNat + length →
      machine.accessFault? length = some (.addressOutOfBounds 0x1000) :=
    fun _ outside =>
      (accessFault?_eq_some_iff bounded.index_le).mpr ⟨outside, rfl⟩
  cases fault with
  | fetch outside => exact absurd inside (Nat.not_le_of_lt outside)
  | leave _ word empty =>
      rw [(nextInstruction_eq_iff .leave trivial rfl).mpr word, fault?,
        empty]
      rfl
  | call nnn _ word full =>
      rw [(nextInstruction_eq_iff (.call nnn) trivial rfl).mpr word, fault?,
        full]
      rfl
  | draw x y n _ word outside =>
      rw [(nextInstruction_eq_iff (.draw x y n) trivial rfl).mpr word]
      exact access n.val outside
  | storeDecimal x _ word outside =>
      rw [(nextInstruction_eq_iff (.storeDecimal x) trivial rfl).mpr word]
      exact access 3 outside
  | storeRegisters x _ word outside =>
      rw [(nextInstruction_eq_iff (.storeRegisters x) trivial rfl).mpr word]
      exact access (x.val + 1) outside
  | loadRegisters x _ word outside =>
      rw [(nextInstruction_eq_iff (.loadRegisters x) trivial rfl).mpr word]
      exact access (x.val + 1) outside

/-- The step of a bounded machine that runs fails exactly with its faults. -/
theorem Bounded.step_error_iff (bounded : Bounded machine)
    (running : machine.paused = false) (idle : machine.keyWait = none)
    (error : Error) :
    machine.step.result = .error error ↔ Fault machine error := by
  cases machine.stepCase with
  | paused halted made =>
      rw [running] at halted
      cases halted
  | waiting x _ wait noKey made =>
      rw [idle] at wait
      cases wait
  | received x key _ wait lowest made =>
      rw [idle] at wait
      cases wait
  | unfetched _ _ outside made =>
      rw [made]
      constructor
      · intro result
        cases result
        exact .fetch outside
      · intro fault
        cases fault with
        | fetch _ => rfl
        | _ => exact absurd outside (Nat.not_lt_of_le ‹_›)
  | failed cause _ _ inside fault made =>
      rw [made]
      constructor
      · intro result
        cases result
        exact bounded.fault_of_fault? inside fault
      · intro other
        have same := bounded.fault?_of_fault inside other
        rw [fault] at same
        cases same
        rfl
  | executed _ _ inside sound made =>
      rw [made]
      constructor
      · intro result
        cases result
      · intro fault
        have cause := bounded.fault?_of_fault inside fault
        rw [sound] at cause
        cases cause

/-! ## What a fault leaves behind -/

/-- The machine neither waits for a key nor finds a word to fetch. -/
structure Stranded (machine : Machine) : Prop where
  idle : machine.keyWait = none
  outside : 4096 < machine.programCounter.toNat + 2

/-- A stranded machine makes no step that changes anything. -/
theorem Stranded.step_state (stranded : Stranded machine) :
    machine.step.state = machine := by
  cases machine.stepCase with
  | paused halted made => rw [made]; rfl
  | waiting x running wait noKey made => rw [made]; rfl
  | received x key running wait lowest made =>
      rw [stranded.idle] at wait
      cases wait
  | unfetched running idle outside made => rw [made]
  | failed error running idle inside fault made =>
      exact absurd stranded.outside (Nat.not_lt_of_le inside)
  | executed running idle inside sound made =>
      exact absurd stranded.outside (Nat.not_lt_of_le inside)

/-- Nothing that is done to a stranded machine moves its program counter. -/
theorem Stranded.perform (stranded : Stranded machine)
    (operation : Operation) :
    Stranded (operation.perform machine).state ∧
      (operation.perform machine).state.programCounter =
        machine.programCounter := by
  cases operation with
  | step =>
      change Stranded machine.step.state ∧
        machine.step.state.programCounter = machine.programCounter
      rw [stranded.step_state]
      exact ⟨stranded, rfl⟩
  | tick =>
      change Stranded machine.tick ∧
        machine.tick.programCounter = machine.programCounter
      obtain ⟨delay, sound, ticked⟩ := machine.tick_eq
      rw [ticked]
      exact ⟨⟨stranded.idle, stranded.outside⟩, rfl⟩
  | _ => exact ⟨⟨stranded.idle, stranded.outside⟩, rfl⟩

/-- No run moves the program counter of a stranded machine. -/
theorem Stranded.after (stranded : Stranded machine)
    (operations : List Operation) :
    Stranded (machine.after operations) ∧
      (machine.after operations).programCounter =
        machine.programCounter := by
  refine after_invariant
    (fun later => Stranded later ∧
      later.programCounter = machine.programCounter) ?_
    ⟨stranded, rfl⟩ operations
  intro later operation holds
  have next := holds.1.perform operation
  exact ⟨next.1, next.2.trans holds.2⟩

theorem step_succeeds_of_not_idle
    (blocked : machine.paused = true ∨ machine.keyWait ≠ none) :
    ∃ outcome, machine.step.result = .ok outcome := by
  cases machine.stepCase with
  | paused halted made => exact ⟨.paused, by rw [made]; rfl⟩
  | waiting x running wait noKey made =>
      exact ⟨.waitingForKey, by rw [made]; rfl⟩
  | received x key running wait lowest made =>
      exact ⟨.keyReceived key, by rw [made]⟩
  | executed running idle inside sound made =>
      exact ⟨.executed machine.nextInstruction, by rw [made]⟩
  | unfetched running idle _ _ => simp [running, idle] at blocked
  | failed _ running idle _ _ _ => simp [running, idle] at blocked

/-- A failed fetch is repeated by every step until the machine is paused. -/
theorem Stranded.step_after (stranded : Stranded machine)
    (operations : List Operation)
    (running : (machine.after operations).paused = false) :
    (machine.after operations).step =
      ⟨.error (.addressOutOfBounds
          (max machine.programCounter.toNat 0x1000)),
        machine.after operations, []⟩ := by
  obtain ⟨later, same⟩ := stranded.after operations
  rw [step_of_idle running later.idle, runWord_outside later.outside, same]
  rfl

/-- An instruction that fails moves the program counter and nothing else. -/
theorem step_state_of_failed
    (inside : machine.programCounter.toNat + 2 ≤ 4096) {error : Error}
    (result : machine.step.result = .error error) :
    machine.step.state = machine.advanced := by
  cases machine.stepCase with
  | failed cause running idle inside fault made => rw [made]
  | unfetched running idle outside made =>
      exact absurd inside (Nat.not_le_of_lt outside)
  | paused halted made => rw [made] at result; cases result
  | waiting x running wait noKey made => rw [made] at result; cases result
  | received x key running wait lowest made =>
      rw [made] at result
      cases result
  | executed running idle inside sound made =>
      rw [made] at result
      cases result

/--
The step of a reachable machine fails exactly with its faults, and leaves
nothing behind but a program counter that has passed the word that failed.
-/
theorem step_fails_exactly (reachable : Reachable machine) :
    (machine.paused = true ∨ machine.keyWait ≠ none →
      ∃ outcome, machine.step.result = .ok outcome) ∧
    (machine.paused = false → machine.keyWait = none →
      (∀ error,
        machine.step.result = .error error ↔ Fault machine error) ∧
      ((∀ error, ¬ Fault machine error) →
        ∃ outcome, machine.step.result = .ok outcome) ∧
      (4096 < machine.programCounter.toNat + 2 →
        machine.step.state = machine ∧
        ∀ operations, (machine.after operations).paused = false →
          (machine.after operations).step.result =
            .error (.addressOutOfBounds
              (max machine.programCounter.toNat 0x1000)) ∧
          (machine.after operations).step.state =
            machine.after operations) ∧
      (machine.programCounter.toNat + 2 ≤ 4096 →
        ∀ error, machine.step.result = .error error →
          machine.step.state =
            { machine with
              programCounter := machine.programCounter + 2 } ∧
          machine.step.state.programCounter.toNat =
            machine.programCounter.toNat + 2)) := by
  have bounded := reachable.bounded
  refine ⟨step_succeeds_of_not_idle, ?_⟩
  intro running idle
  have exactly := bounded.step_error_iff running idle
  refine ⟨exactly, ?_, ?_, ?_⟩
  · intro faultless
    cases result : machine.step.result with
    | ok outcome => exact ⟨outcome, rfl⟩
    | error error => exact absurd ((exactly error).mp result) (faultless error)
  · intro outside
    have stranded : Stranded machine := ⟨idle, outside⟩
    refine ⟨stranded.step_state, ?_⟩
    intro operations later
    rw [stranded.step_after operations later]
    exact ⟨rfl, rfl⟩
  · intro inside error result
    have state := step_state_of_failed inside result
    refine ⟨state, ?_⟩
    rw [state]
    exact toNat_advanced inside

/-- A machine whose program returns from a call that was never made. -/
def returningMachine : Machine :=
  { powerUp (.ofSeed 0) with
    memory := Memory.withFont.overwrite Memory.programStart [0x00, 0xEE] }

/-- Its first step fails and moves the program counter only. -/
theorem returningMachine_step_fails :
    Reachable returningMachine ∧
      returningMachine.step.result = .error (.stackUnderflow 0x200) ∧
      returningMachine.step.state =
        { returningMachine with programCounter := 0x202 } := by
  have loaded : Machine.withProgram (.ofSeed 0) [0x00, 0xEE] =
      .ok returningMachine := rfl
  have reachable : Reachable returningMachine :=
    ⟨returningMachine, [], .withProgram loaded, rfl⟩
  obtain ⟨-, ready⟩ := step_fails_exactly reachable
  obtain ⟨exactly, -, -, failed⟩ := ready rfl rfl
  have fault : Fault returningMachine (.stackUnderflow 0x200) :=
    .leave (by decide) (by decide +kernel) rfl
  have result := (exactly _).mpr fault
  exact ⟨reachable, result, (failed (by decide) _ result).1⟩

end Machine

end Chip8
