import Chip8.Machine.Step
import Chip8.Proofs.Instruction.Decoding
import Chip8.Proofs.Machine.Effect
import Chip8.Proofs.Machine.Run

/-!
# The ways a step can go

A step goes one of six ways: the machine is paused; it waits for a key and none
is down, or one is; the fetch leaves memory; the instruction that was fetched
cannot be executed; or it is executed.  `StepCase` lists them, each with what
it presupposes and with everything that the step leaves behind, and every
machine is in one of the cases.
-/

namespace Chip8

namespace Machine

/-- The word that the program counter points at. -/
def nextWord (machine : Machine) : UInt16 :=
  machine.memory.wordAt machine.programCounter.toNat

/-- The instruction that the program counter points at. -/
def nextInstruction (machine : Machine) : Instruction :=
  .decode machine.nextWord

/-- The machine with its program counter moved past one word. -/
def advanced (machine : Machine) : Machine :=
  { machine with programCounter := machine.programCounter + 2 }

/-- The machine after a key has ended its wait. -/
def received (machine : Machine) (x key : Nibble) : Machine :=
  { machine.setRegister x key.toByte with keyWait := none }

/-- What a step tells about the instruction that it has fetched. -/
def fetchRecords (machine : Machine) : List LogRecord :=
  .fetched machine.programCounter machine.nextWord machine.nextInstruction ::
    machine.nextInstruction.records machine.programCounter

/-- The ways in which the step of a machine can go. -/
inductive StepCase (machine : Machine) : Prop where
  /-- The host has paused the machine. -/
  | paused
      (halted : machine.paused = true)
      (made : machine.step = .done .paused machine)
  /-- The machine waits for a key and none is down. -/
  | waiting (x : Nibble)
      (running : machine.paused = false)
      (wait : machine.keyWait = some x)
      (noKey : machine.keypad.lowestPressed? = none)
      (made : machine.step = .done .waitingForKey machine)
  /-- The machine waits for a key and this one is the lowest that is down. -/
  | received (x key : Nibble)
      (running : machine.paused = false)
      (wait : machine.keyWait = some x)
      (lowest : machine.keypad.lowestPressed? = some key)
      (made : machine.step =
        ⟨.ok (.keyReceived key), machine.received x key, [.released key x]⟩)
  /-- The word to be fetched is not inside of memory. -/
  | unfetched
      (running : machine.paused = false)
      (idle : machine.keyWait = none)
      (outside : Memory.size < machine.programCounter.toNat + 2)
      (made : machine.step =
        ⟨.error (.addressOutOfBounds
            (max machine.programCounter.toNat Memory.size)),
          machine, []⟩)
  /-- The fetched instruction cannot be executed. -/
  | failed (error : Error)
      (running : machine.paused = false)
      (idle : machine.keyWait = none)
      (inside : machine.programCounter.toNat + 2 ≤ Memory.size)
      (fault : machine.fault? machine.programCounter
        machine.nextInstruction = some error)
      (made : machine.step =
        ⟨.error error, machine.advanced, machine.fetchRecords⟩)
  /-- The fetched instruction is executed. -/
  | executed
      (running : machine.paused = false)
      (idle : machine.keyWait = none)
      (inside : machine.programCounter.toNat + 2 ≤ Memory.size)
      (sound : machine.fault? machine.programCounter
        machine.nextInstruction = none)
      (made : machine.step =
        ⟨.ok (.executed machine.nextInstruction),
          machine.advanced.effect machine.nextInstruction,
          machine.fetchRecords⟩)

variable {machine : Machine}

theorem toNat_add_two {pc : UInt16} (below : pc.toNat ≤ 0x1000) :
    (pc + 2).toNat = pc.toNat + 2 := by
  rw [UInt16.toNat_add]
  change (pc.toNat + 2) % 65536 = pc.toNat + 2
  omega

/-- Moving past a word of memory leads to its end. -/
theorem toNat_advanced
    (inside : machine.programCounter.toNat + 2 ≤ Memory.size) :
    machine.advanced.programCounter.toNat =
      machine.programCounter.toNat + 2 := by
  simp only [Memory.size] at inside
  exact toNat_add_two (by omega)

/-- A decoded instruction tells the word that was fetched. -/
theorem nextInstruction_eq_iff (instruction : Instruction)
    (wellFormed : instruction.WellFormed)
    (exact : instruction.isShift = false) :
    machine.nextInstruction = instruction ↔
      machine.nextWord = instruction.encode :=
  Instruction.decode_eq_iff wellFormed exact

/-- A machine comes to the word at a place of a loaded program. -/
theorem nextWord_of_loaded {random : RandomSource}
    (program : List UInt8) (offset : Nat)
    (fits : program.length ≤ Memory.programCapacity)
    (inside : offset + 1 < program.length)
    (stored : machine.memory = (loaded random program).memory)
    (here : machine.programCounter.toNat = Memory.programStart + offset) :
    machine.nextWord =
      UInt16.ofNat
        (256 * (program.getD offset 0).toNat +
          (program.getD (offset + 1) 0).toNat) := by
  rw [nextWord, here, stored]
  exact wordAt_loaded random fits inside

/-- A machine comes to the instruction at a place of a loaded program. -/
theorem nextInstruction_of_loaded {random : RandomSource}
    (program : List UInt8) (offset : Nat) {instruction : Instruction}
    (fits : program.length ≤ Memory.programCapacity)
    (inside : offset + 1 < program.length)
    (stored : machine.memory = (loaded random program).memory)
    (here : machine.programCounter.toNat = Memory.programStart + offset)
    (decoded : Instruction.decode
      (UInt16.ofNat
        (256 * (program.getD offset 0).toNat +
          (program.getD (offset + 1) 0).toNat)) = instruction) :
    machine.nextInstruction = instruction := by
  rw [← decoded, nextInstruction,
    nextWord_of_loaded program offset fits inside stored here]

theorem step_of_paused (halted : machine.paused = true) :
    machine.step = .done .paused machine := by
  rw [step, halted]
  rfl

theorem step_of_waiting {x : Nibble} (running : machine.paused = false)
    (wait : machine.keyWait = some x) :
    machine.step = machine.pollKey x := by
  rw [step, running, wait]
  rfl

theorem step_of_idle (running : machine.paused = false)
    (idle : machine.keyWait = none) :
    machine.step = machine.runWord := by
  rw [step, running, idle]
  rfl

/-- Moving the program counter does not change what can be executed. -/
@[simp]
theorem fault?_advanced (machine : Machine) (pc : UInt16)
    (instruction : Instruction) :
    machine.advanced.fault? pc instruction =
      machine.fault? pc instruction := by
  cases instruction <;> rfl

theorem runWord_outside
    (outside : Memory.size < machine.programCounter.toNat + 2) :
    machine.runWord =
      ⟨.error (.addressOutOfBounds
          (max machine.programCounter.toNat Memory.size)),
        machine, []⟩ := by
  rw [runWord, Memory.readWord_outside outside]

/-- A word is fetched whose instruction cannot be executed. -/
theorem runWord_of_fault
    (inside : machine.programCounter.toNat + 2 ≤ Memory.size)
    {error : Error}
    (fault : machine.fault? machine.programCounter
      machine.nextInstruction = some error) :
    machine.runWord =
      ⟨.error error, machine.advanced, machine.fetchRecords⟩ := by
  have failed : machine.advanced.execute machine.programCounter
      machine.nextInstruction = .error error := by
    rw [execute_eq, fault?_advanced, fault]
  simp only [advanced, nextInstruction, nextWord] at failed
  simp only [runWord, Memory.readWord_inside inside, failed]
  rfl

/-- A word is fetched and its instruction is executed. -/
theorem runWord_of_sound
    (inside : machine.programCounter.toNat + 2 ≤ Memory.size)
    (sound : machine.fault? machine.programCounter
      machine.nextInstruction = none) :
    machine.runWord =
      ⟨.ok (.executed machine.nextInstruction),
        machine.advanced.effect machine.nextInstruction,
        machine.fetchRecords⟩ := by
  have executed : machine.advanced.execute machine.programCounter
      machine.nextInstruction =
        .ok (machine.advanced.effect machine.nextInstruction) := by
    rw [execute_eq, fault?_advanced, sound]
  simp only [advanced, nextInstruction, nextWord] at executed
  simp only [runWord, Memory.readWord_inside inside, executed]
  rfl

/-- Whatever comes of the instruction, the fetch is told. -/
theorem runWord_trace
    (inside : machine.programCounter.toNat + 2 ≤ Memory.size) :
    machine.runWord.trace = machine.fetchRecords := by
  cases checked : machine.fault? machine.programCounter
      machine.nextInstruction with
  | some error => rw [runWord_of_fault inside checked]
  | none => rw [runWord_of_sound inside checked]

/-- Every machine is in one of the cases. -/
theorem stepCase (machine : Machine) : StepCase machine := by
  cases halted : machine.paused with
  | true => exact .paused halted (step_of_paused halted)
  | false =>
      cases wait : machine.keyWait with
      | some x =>
          have polled := step_of_waiting halted wait
          cases lowest : machine.keypad.lowestPressed? with
          | none =>
              refine .waiting x halted wait lowest ?_
              rw [polled, pollKey, lowest]
          | some key =>
              refine .received x key halted wait lowest ?_
              rw [polled, pollKey, lowest]
              rfl
      | none =>
          have ran := step_of_idle halted wait
          rcases Nat.lt_or_ge Memory.size
              (machine.programCounter.toNat + 2) with outside | inside
          · exact .unfetched halted wait outside
              (ran.trans (runWord_outside outside))
          · cases checked : machine.fault? machine.programCounter
                machine.nextInstruction with
            | some error =>
                exact .failed error halted wait inside checked
                  (ran.trans (runWord_of_fault inside checked))
            | none =>
                exact .executed halted wait inside checked
                  (ran.trans (runWord_of_sound inside checked))

/-- What is known of a step that has executed an instruction. -/
theorem step_eq_of_executed {instruction : Instruction}
    (executed : machine.step.result = .ok (.executed instruction)) :
    machine.programCounter.toNat + 2 ≤ Memory.size ∧
      instruction = machine.nextInstruction ∧
      machine.fault? machine.programCounter instruction = none ∧
      machine.step =
        ⟨.ok (.executed instruction), machine.advanced.effect instruction,
          machine.fetchRecords⟩ := by
  cases machine.stepCase with
  | executed running idle inside sound made =>
      rw [made] at executed
      cases executed
      exact ⟨inside, rfl, sound, made⟩
  | paused halted made => rw [made] at executed; cases executed
  | waiting x running wait noKey made => rw [made] at executed; cases executed
  | received x key running wait lowest made =>
      rw [made] at executed
      cases executed
  | unfetched running idle outside made => rw [made] at executed; cases executed
  | failed error running idle inside fault made =>
      rw [made] at executed
      cases executed

theorem step_of_executed {instruction : Instruction}
    (executed : machine.step.result = .ok (.executed instruction)) :
    machine.programCounter.toNat + 2 ≤ Memory.size ∧
      instruction = machine.nextInstruction ∧
      machine.fault? machine.programCounter instruction = none ∧
      machine.step.state = machine.advanced.effect instruction := by
  obtain ⟨inside, decoded, sound, made⟩ := step_eq_of_executed executed
  exact ⟨inside, decoded, sound, congrArg Activity.state made⟩

/-- A step that makes no progress does nothing. -/
theorem step_of_no_progress {outcome : Outcome}
    (gave : machine.step.result = .ok outcome)
    (idle : outcome.madeProgress = false) :
    machine.step = .done outcome machine := by
  cases machine.stepCase with
  | paused halted made =>
      rw [made] at gave
      cases gave
      exact made
  | waiting x running wait noKey made =>
      rw [made] at gave
      cases gave
      exact made
  | received x key running wait lowest made =>
      rw [made] at gave
      cases gave
      cases idle
  | unfetched running idle outside made =>
      rw [made] at gave
      cases gave
  | failed error running idle inside fault made =>
      rw [made] at gave
      cases gave
  | executed running _ inside sound made =>
      rw [made] at gave
      cases gave
      cases idle

/-- A step that is not prevented executes the instruction it comes to. -/
theorem step_of_sound {instruction : Instruction}
    (running : machine.paused = false) (idle : machine.keyWait = none)
    (inside : machine.programCounter.toNat + 2 ≤ Memory.size)
    (decoded : machine.nextInstruction = instruction)
    (sound : machine.fault? machine.programCounter instruction = none) :
    machine.step =
      ⟨.ok (.executed instruction), machine.advanced.effect instruction,
        machine.fetchRecords⟩ := by
  cases decoded
  exact (step_of_idle running idle).trans (runWord_of_sound inside sound)

/--
A part that neither the fetch nor a key changes is kept by every step that does
not execute an instruction.
-/
theorem step_executed_or_keeps {Part : Type} (part : Machine → Part)
    (advanced : ∀ machine, part (Machine.advanced machine) = part machine)
    (received : ∀ machine x key,
      part (Machine.received machine x key) = part machine)
    (machine : Machine) :
    (∃ instruction,
        machine.step.result = .ok (.executed instruction) ∧
          machine.step.state = machine.advanced.effect instruction) ∨
      ((∀ instruction,
          machine.step.result ≠ .ok (.executed instruction)) ∧
        part machine.step.state = part machine) := by
  cases machine.stepCase with
  | executed running idle inside sound made =>
      rw [made]
      exact .inl ⟨machine.nextInstruction, rfl, rfl⟩
  | paused halted made => rw [made]; exact .inr ⟨nofun, rfl⟩
  | waiting x running wait noKey made => rw [made]; exact .inr ⟨nofun, rfl⟩
  | received x key running wait lowest made =>
      rw [made]
      exact .inr ⟨nofun, received machine x key⟩
  | unfetched running idle outside made => rw [made]; exact .inr ⟨nofun, rfl⟩
  | failed error running idle inside fault made =>
      rw [made]
      exact .inr ⟨nofun, advanced machine⟩

/-- A part that no instruction and no key changes is kept by every step. -/
theorem step_keeps {Part : Type} (part : Machine → Part)
    (advanced : ∀ machine, part (Machine.advanced machine) = part machine)
    (received : ∀ machine x key,
      part (Machine.received machine x key) = part machine)
    (effect : ∀ machine instruction,
      part (Machine.effect machine instruction) = part machine)
    (machine : Machine) :
    part machine.step.state = part machine := by
  rcases step_executed_or_keeps part advanced received machine with
    ⟨instruction, -, effected⟩ | ⟨-, kept⟩
  · rw [effected]
    exact (effect machine.advanced instruction).trans (advanced machine)
  · exact kept

/-- A step neither pauses the machine nor lets it go on. -/
@[simp]
theorem paused_step (machine : Machine) :
    machine.step.state.paused = machine.paused :=
  step_keeps paused (fun _ => rfl) (fun _ _ _ => rfl) effect_paused machine

/-- A tick keeps what does not depend on the timers. -/
theorem tick_keeps {Part : Type} (part : Machine → Part)
    (timers : ∀ (machine : Machine) delayTimer soundTimer,
      part { machine with delayTimer, soundTimer } = part machine)
    (machine : Machine) :
    part machine.tick = part machine := by
  rcases machine.tick_eq with ⟨delay, sound, ticked⟩
  rw [ticked]
  exact timers machine delay sound

/-- A tick neither pauses the machine nor lets it go on. -/
theorem paused_tick (machine : Machine) :
    machine.tick.paused = machine.paused :=
  tick_keeps paused (fun _ _ _ => rfl) machine

/-- The steps of a frame neither pause a machine nor let it go on. -/
theorem paused_stepUpTo (machine : Machine) (limit : Nat) :
    (machine.stepUpTo limit).state.paused = machine.paused := by
  induction limit generalizing machine with
  | zero => rfl
  | succ limit further =>
      rw [stepUpTo]
      refine Activity.andThen_keeps (paused_step machine) ?_
      intro outcome stepped kept
      cases outcome.madeProgress with
      | false => exact kept
      | true => exact (further stepped).trans kept

/-- A step neither presses nor releases a key. -/
@[simp]
theorem keypad_step (machine : Machine) :
    machine.step.state.keypad = machine.keypad :=
  step_keeps keypad (fun _ => rfl) (fun _ _ _ => rfl) effect_keypad machine

end Machine

end Chip8
