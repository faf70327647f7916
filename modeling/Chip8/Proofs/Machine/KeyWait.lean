import Chip8.Proofs.Keypad
import Chip8.Proofs.Machine.Run
import Chip8.Proofs.Machine.StepCases

/-!
# Waiting for a key

An instruction Fx0A suspends the program.  Until a step is made that is not
paused and finds a key down, all that the program can see but the timers and
the keypad stays as it was, whatever the host does.  That step puts the lowest
key into the register and ends the wait, and the next step goes on behind the
instruction.

`Suspended` is the invariant of the wait: it relates a machine to the one that
executed the instruction.
-/

namespace Chip8

namespace Machine

open Instruction

/-- The machine is not paused and a key is down. -/
def HearsKey (machine : Machine) : Prop :=
  machine.paused = false ∧ ∃ code, machine.keypad.isPressed code = true

/-- The machine waits since the other one has executed an instruction Fx0A. -/
structure Suspended (origin : Machine) (x : Nibble) (machine : Machine) :
    Prop where
  keyWait : machine.keyWait = some x
  programCounter : machine.programCounter = origin.programCounter + 2
  registers : machine.registers = origin.registers
  index : machine.index = origin.index
  stack : machine.stack = origin.stack
  memory : machine.memory = origin.memory
  frame : machine.frame = origin.frame

variable {machine origin : Machine} {x : Nibble}

/-! ## The wait -/

/-- A word Fx0A that is executed begins a wait. -/
theorem suspended_of_executed {instruction : Instruction}
    (word : machine.nextWord = wordOf 0xF x 0x0 0xA)
    (executed : machine.step.result = .ok (.executed instruction)) :
    Suspended machine x machine.step.state := by
  have decoded : machine.nextInstruction = .waitKey x :=
    (nextInstruction_eq_iff (.waitKey x) trivial rfl).mpr word
  obtain ⟨-, rfl, -, state⟩ := step_of_executed executed
  rw [state, decoded]
  exact ⟨rfl, rfl, rfl, rfl, rfl, rfl, rfl⟩

/-- A step that hears no key changes nothing. -/
theorem Suspended.step_state (suspended : Suspended origin x machine)
    (unheard : ¬ HearsKey machine) : machine.step.state = machine := by
  cases machine.stepCase with
  | paused halted made => rw [made]; rfl
  | waiting _ running wait noKey made => rw [made]; rfl
  | received _ key running wait lowest made =>
      have pressed := (Keypad.lowestPressed?_eq_some_iff.mp lowest).1
      exact absurd ⟨running, key.toByte, pressed⟩ unheard
  | unfetched running idle outside made =>
      rw [suspended.keyWait] at idle
      cases idle
  | failed error running idle inside fault made =>
      rw [suspended.keyWait] at idle
      cases idle
  | executed running idle inside sound made =>
      rw [suspended.keyWait] at idle
      cases idle

/-- An operation keeps the wait unless it is a step that hears a key. -/
theorem Suspended.perform (suspended : Suspended origin x machine)
    {operation : Operation}
    (unheard : operation = .step → ¬ HearsKey machine) :
    Suspended origin x (operation.perform machine).state := by
  have same := suspended
  obtain ⟨keyWait, programCounter, registers, index, stack, memory, frame⟩ :=
    same
  cases operation with
  | step =>
      change Suspended origin x machine.step.state
      rw [suspended.step_state (unheard rfl)]
      exact suspended
  | tick =>
      change Suspended origin x machine.tick
      obtain ⟨delay, sound, ticked⟩ := machine.tick_eq
      rw [ticked]
      exact ⟨keyWait, programCounter, registers, index, stack, memory, frame⟩
  | _ =>
      exact ⟨keyWait, programCounter, registers, index, stack, memory, frame⟩

/-- A run keeps the wait until one of its steps hears a key. -/
theorem Suspended.after (suspended : Suspended origin x machine)
    {operations : List Operation}
    (unheard : NoStepWhere HearsKey machine operations) :
    Suspended origin x (machine.after operations) :=
  after_invariant_unless (Suspended origin x)
    (fun _ _ before silent => before.perform silent) suspended unheard

/-- A step that is not paused and finds no key down goes on waiting. -/
theorem Suspended.step_of_silence (suspended : Suspended origin x machine)
    (running : machine.paused = false)
    (silence : ∀ code, machine.keypad.isPressed code = false) :
    machine.step = .done .waitingForKey machine := by
  have noKey := Keypad.lowestPressed?_eq_none_iff.mpr silence
  rw [step_of_waiting running suspended.keyWait, pollKey, noKey]

/-- A step that hears a key receives the lowest one. -/
theorem Suspended.step_of_key (suspended : Suspended origin x machine)
    (heard : HearsKey machine) :
    ∃ key : Nibble, machine.keypad.isPressed key.toByte = true ∧
      (∀ code, code < key.toByte →
        machine.keypad.isPressed code = false) ∧
      machine.step =
        ⟨.ok (.keyReceived key), machine.received x key,
          [.released key x]⟩ := by
  obtain ⟨running, code, pressed⟩ := heard
  obtain ⟨key, lowest⟩ := Keypad.exists_lowestPressed pressed
  obtain ⟨down, below⟩ := Keypad.lowestPressed?_eq_some_iff.mp lowest
  refine ⟨key, down, below, ?_⟩
  rw [step_of_waiting running suspended.keyWait, pollKey, lowest]
  rfl

/-! ## The step after the wait -/

/-- The wait since the other machine executed an instruction is over. -/
structure Resumable (origin machine : Machine) : Prop where
  idle : machine.keyWait = none
  programCounter : machine.programCounter = origin.programCounter + 2
  memory : machine.memory = origin.memory

/-- An operation leaves the next fetch as it is, unless it is a step. -/
theorem Resumable.perform (resumable : Resumable origin machine)
    {operation : Operation}
    (halted : operation = .step → ¬ machine.paused = false) :
    Resumable origin (operation.perform machine).state := by
  have same := resumable
  obtain ⟨idle, programCounter, memory⟩ := same
  cases operation with
  | step =>
      have paused : machine.paused = true :=
        eq_true_of_ne_false (halted rfl)
      change Resumable origin machine.step.state
      rw [step_of_paused paused]
      exact resumable
  | tick =>
      change Resumable origin machine.tick
      obtain ⟨delay, sound, ticked⟩ := machine.tick_eq
      rw [ticked]
      exact ⟨idle, programCounter, memory⟩
  | _ => exact ⟨idle, programCounter, memory⟩

/-- A run leaves the next fetch as it is until a step is not paused. -/
theorem Resumable.after (resumable : Resumable origin machine)
    {operations : List Operation}
    (halted : NoStepWhere (fun later => later.paused = false) machine
      operations) :
    Resumable origin (machine.after operations) :=
  after_invariant_unless (Resumable origin)
    (fun _ _ before unpaused => before.perform unpaused) resumable halted

/-- The next step fetches the word behind the instruction, if there is one. -/
theorem Resumable.step_fetches (resumable : Resumable origin machine)
    (running : machine.paused = false)
    (inside : origin.programCounter.toNat + 2 ≤ 4096) :
    (origin.programCounter.toNat + 4 ≤ 4096 →
      ∃ told, machine.step.trace =
        .fetched (origin.programCounter + 2)
          (origin.memory.wordAt (origin.programCounter.toNat + 2))
          (.decode
            (origin.memory.wordAt (origin.programCounter.toNat + 2))) ::
          told) ∧
    (4096 < origin.programCounter.toNat + 4 →
      machine.step.result = .error (.addressOutOfBounds 0x1000)) := by
  have address : machine.programCounter.toNat =
      origin.programCounter.toNat + 2 := by
    rw [resumable.programCounter]
    exact toNat_advanced inside
  have word : machine.nextWord =
      origin.memory.wordAt (origin.programCounter.toNat + 2) := by
    rw [nextWord, address, resumable.memory]
  rw [step_of_idle running resumable.idle]
  constructor
  · intro further
    have fits : machine.programCounter.toNat + 2 ≤ Memory.size := by
      rw [address]
      exact further
    refine ⟨machine.nextInstruction.records machine.programCounter, ?_⟩
    rw [← word, ← resumable.programCounter, runWord_trace fits]
    rfl
  · intro last
    have outside : Memory.size < machine.programCounter.toNat + 2 := by
      rw [address]
      exact last
    have ends : max machine.programCounter.toNat Memory.size = 0x1000 := by
      rw [address]
      exact Nat.max_eq_right inside
    rw [runWord_outside outside, ends]

/-! ## Keys that are up again -/

/-- Releasing a key, alone or with all others, leaves it up. -/
theorem isPressed_of_release {release : Operation} {code : UInt8}
    (releases : release = .releaseAll ∨ release = .setKey code false) :
    (release.perform machine).state.keypad.isPressed code = false := by
  rcases releases with rfl | rfl
  · exact Keypad.isPressed_released code
  · change (machine.keypad.setKey code false).isPressed code = false
    rw [Keypad.isPressed_setKey]
    split
    · rfl
    · rename_i outside
      have large : 16 ≤ code.toNat := by
        apply Nat.le_of_not_lt
        intro small
        exact outside ⟨rfl, small⟩
      exact Keypad.isPressed_of_no_key large

/-- A key that is up stays up unless it is pressed. -/
theorem isPressed_perform {operation : Operation} {code : UInt8}
    (up : machine.keypad.isPressed code = false)
    (other : operation ≠ .setKey code true) :
    (operation.perform machine).state.keypad.isPressed code = false := by
  cases operation with
  | step =>
      change machine.step.state.keypad.isPressed code = false
      rw [keypad_step]
      exact up
  | tick =>
      change machine.tick.keypad.isPressed code = false
      obtain ⟨delay, sound, ticked⟩ := machine.tick_eq
      rw [ticked]
      exact up
  | pause => exact up
  | resume => exact up
  | setKey changed pressed =>
      change (machine.keypad.setKey changed pressed).isPressed code = false
      rw [Keypad.isPressed_setKey]
      split
      · rename_i same
        obtain ⟨rfl, -⟩ := same
        cases pressed with
        | false => rfl
        | true => exact absurd rfl other
      · exact up
  | releaseAll => exact Keypad.isPressed_released code
  | reseed seed => exact up

/-- A key that is up stays up during a run that does not press it. -/
theorem isPressed_after {code : UInt8}
    (up : machine.keypad.isPressed code = false)
    {operations : List Operation}
    (others : ∀ operation ∈ operations, operation ≠ .setKey code true) :
    (machine.after operations).keypad.isPressed code = false := by
  induction operations generalizing machine with
  | nil => exact up
  | cons operation rest step =>
      have here := isPressed_perform up
        (others operation List.mem_cons_self)
      exact step here fun later member =>
        others later (List.mem_cons_of_mem operation member)

/-- A step does not receive a key that is up. -/
theorem not_received_of_up {key : Nibble}
    (up : machine.keypad.isPressed key.toByte = false) :
    machine.step.result ≠ .ok (.keyReceived key) := by
  intro result
  cases machine.stepCase with
  | received x lowest running wait found made =>
      rw [made] at result
      cases result
      have down := (Keypad.lowestPressed?_eq_some_iff.mp found).1
      rw [up] at down
      cases down
  | paused halted made => rw [made] at result; cases result
  | waiting x running wait noKey made => rw [made] at result; cases result
  | unfetched running idle outside made => rw [made] at result; cases result
  | failed error running idle inside fault made =>
      rw [made] at result
      cases result
  | executed running idle inside sound made => rw [made] at result; cases result

/-! ## The whole wait -/

/-- Receiving a key leaves the machine ready for the next fetch. -/
theorem Suspended.resumable (suspended : Suspended origin x machine)
    (key : Nibble) : Resumable origin (machine.received x key) :=
  ⟨rfl, suspended.programCounter, suspended.memory⟩

/--
After a word Fx0A was executed at `pc`, every run whose steps are paused or
find no key down leaves the machine suspended at `pc + 2`, and a step that is
not paused goes on waiting as long as no key is down.  The first one that finds
a key down puts the lowest such key into the register, ends the wait and does
nothing else; the next step that is not paused fetches at `pc + 2`.  A key that
was released is not received unless it is pressed again.
-/
theorem suspended_until_key {instruction : Instruction}
    (word : machine.nextWord = wordOf 0xF x 0x0 0xA)
    (executed : machine.step.result = .ok (.executed instruction)) :
    (∀ operations, NoStepWhere HearsKey machine.step.state operations →
      let waiting := machine.step.state.after operations
      Suspended machine x waiting ∧
      waiting.isWaiting = true ∧
      waiting.programCounter.toNat = machine.programCounter.toNat + 2 ∧
      (waiting.paused = false →
        (∀ code, waiting.keypad.isPressed code = false) →
        waiting.step = .done .waitingForKey waiting) ∧
      (waiting.paused = false →
        (∃ code, waiting.keypad.isPressed code = true) →
        ∃ key : Nibble, waiting.keypad.isPressed key.toByte = true ∧
          (∀ code, code < key.toByte →
            waiting.keypad.isPressed code = false) ∧
          waiting.step =
            ⟨.ok (.keyReceived key),
              { waiting.setRegister x key.toByte with keyWait := none },
              [.released key x]⟩ ∧
          ∀ further, NoStepWhere (fun later => later.paused = false)
              waiting.step.state further →
            let next := waiting.step.state.after further
            next.paused = false →
              (machine.programCounter.toNat + 4 ≤ 4096 →
                ∃ told, next.step.trace =
                  .fetched (machine.programCounter + 2)
                    (machine.memory.wordAt
                      (machine.programCounter.toNat + 2))
                    (.decode (machine.memory.wordAt
                      (machine.programCounter.toNat + 2))) ::
                  told) ∧
              (4096 < machine.programCounter.toNat + 4 →
                next.step.result =
                  .error (.addressOutOfBounds 0x1000)))) ∧
    (∀ earlier release later (key : Nibble),
      release = .releaseAll ∨ release = .setKey key.toByte false →
      (∀ operation ∈ later, operation ≠ .setKey key.toByte true) →
      (machine.step.state.after
          (earlier ++ release :: later)).step.result ≠
        .ok (.keyReceived key)) := by
  have begun := suspended_of_executed word executed
  have inside := (step_of_executed executed).1
  constructor
  · intro operations unheard waiting
    have suspended : Suspended machine x waiting := begun.after unheard
    refine ⟨suspended, ?_, ?_, suspended.step_of_silence, ?_⟩
    · rw [isWaiting, suspended.keyWait]
      rfl
    · rw [suspended.programCounter]
      exact toNat_advanced inside
    · intro running pressed
      obtain ⟨key, down, lowest, made⟩ :=
        suspended.step_of_key ⟨running, pressed⟩
      refine ⟨key, down, lowest, made, ?_⟩
      intro further halted next unpaused
      have ready : Resumable machine waiting.step.state := by
        rw [made]
        exact suspended.resumable key
      exact (ready.after halted).step_fetches unpaused inside
  · intro earlier release later key releases others
    apply not_received_of_up
    rw [after_append]
    exact isPressed_after (isPressed_of_release releases) others

/-- A machine whose program waits for a key into V5. -/
def waitingMachine : Machine :=
  { powerUp (.ofSeed 0) with
    memory := Memory.withFont.overwrite Memory.programStart [0xF5, 0x0A] }

/-- Of two keys that are pressed during a pause the lower one is received. -/
theorem waitingMachine_suspended_until_key :
    let pressing : List Operation :=
      [.pause, .setKey 7 true, .setKey 3 true, .step, .resume]
    waitingMachine.nextWord = wordOf 0xF 5 0x0 0xA ∧
      waitingMachine.step.result = .ok (.executed (.waitKey 5)) ∧
      (waitingMachine.step.state.after pressing).step.result =
        .ok (.keyReceived 3) := by
  intro pressing
  have word : waitingMachine.nextWord = wordOf 0xF 5 0x0 0xA := by
    decide +kernel
  have decoded : waitingMachine.nextInstruction = .waitKey 5 :=
    (nextInstruction_eq_iff (.waitKey 5) trivial rfl).mpr word
  have executed : waitingMachine.step.result =
      .ok (.executed (.waitKey 5)) := by
    have sound : waitingMachine.fault? waitingMachine.programCounter
        waitingMachine.nextInstruction = none := by
      rw [decoded]
      rfl
    rw [step_of_idle rfl rfl, runWord_of_sound (by decide) sound, decoded]
  have unheard : NoStepWhere HearsKey waitingMachine.step.state pressing := by
    simp only [pressing, noStepWhere_cons, noStepWhere_nil, and_true]
    refine ⟨?_, ?_, ?_, ?_, ?_⟩ <;> intro same
    case refine_4 =>
      rintro ⟨running, -⟩
      cases running
    all_goals cases same
  have keys : ∀ machine : Machine, (machine.after pressing).keypad =
      (machine.keypad.setKey 7 true).setKey 3 true := fun _ => rfl
  have running : ∀ machine : Machine,
      (machine.after pressing).paused = false := fun _ => rfl
  have lowest : (waitingMachine.step.state.after
      pressing).keypad.lowestPressed? = some 3 := by
    rw [keys, keypad_step]
    decide
  obtain ⟨within, -⟩ := suspended_until_key word executed
  obtain ⟨-, -, -, -, heard⟩ := within pressing unheard
  have pressed := (Keypad.lowestPressed?_eq_some_iff.mp lowest).1
  obtain ⟨key, down, below, made, -⟩ := heard (running _) ⟨_, pressed⟩
  have found := Keypad.lowestPressed?_eq_some_iff.mpr ⟨down, below⟩
  rw [lowest] at found
  cases found
  refine ⟨word, executed, ?_⟩
  rw [made]

end Machine

end Chip8
