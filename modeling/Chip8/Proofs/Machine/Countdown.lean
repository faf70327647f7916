import Chip8.Proofs.Machine.StepCases

/-!
# What the timers count

A timer is set by one instruction and counts down with the ticks that come
while the machine is not paused.  At the end of a run it therefore holds the
value that it was given last, or had at the start, less the number of those
ticks since then; it stops at zero.

The law is proved for both timers at once.  `Timer.LastSet` finds the part of a
run that counts, `countedTicks` counts its ticks on the machine that they come
to, and `unpausedTicks` counts them without any machine: steps, whatever comes
of them, do not count, and a machine that waits for a key counts like any other.
-/

namespace Chip8

/-- One of the two timers. -/
inductive Timer where
  /-- The timer that programs can read. -/
  | delay
  /-- The timer that makes the tone. -/
  | sound

namespace Timer

/-- What a timer of a machine holds. -/
def value (machine : Machine) : Timer → UInt8
  | .delay => machine.delayTimer
  | .sound => machine.soundTimer

/-- The instruction that gives a timer the value of a register. -/
def setting (x : Nibble) : Timer → Instruction
  | .delay => .setDelay x
  | .sound => .setSound x

/-- Whether the step of a machine sets a timer. -/
def SetBy (timer : Timer) (machine : Machine) : Prop :=
  ∃ x, machine.step.result = .ok (.executed (timer.setting x))

/--
A run gave a timer a value for the last time; the machine that it led to, and
the operations that followed.
-/
inductive LastSet (timer : Timer) (machine : Machine)
    (operations : List Operation) :
    (value : UInt8) → (since : Machine) → (later : List Operation) → Prop where
  /-- No step has set it, so it counts from the start. -/
  | never
      (without : Machine.NoStepWhere timer.SetBy machine operations) :
      LastSet timer machine operations (timer.value machine) machine operations
  /-- A step gave it the value of a register, and no later one set it. -/
  | step (earlier later : List Operation) (x : Nibble)
      (split : operations = earlier ++ .step :: later)
      (set : (machine.after earlier).step.result =
        .ok (.executed (timer.setting x)))
      (without : Machine.NoStepWhere timer.SetBy
        (machine.after earlier).step.state later) :
      LastSet timer machine operations ((machine.after earlier).register x)
        (machine.after earlier).step.state later

end Timer

namespace Operation

/-- How much the timers count in an operation. -/
def counted (machine : Machine) : Operation → Nat
  | .tick => if machine.paused then 0 else 1
  | _ => 0

/-- The ticks of a run that begins paused or not and that are not paused. -/
def unpausedTicks (paused : Bool) : List Operation → Nat
  | [] => 0
  | .tick :: rest => (if paused then 0 else 1) + unpausedTicks paused rest
  | .pause :: rest => unpausedTicks true rest
  | .resume :: rest => unpausedTicks false rest
  | _ :: rest => unpausedTicks paused rest

/-- The operations of a run but for its steps. -/
def withoutSteps (operations : List Operation) : List Operation :=
  operations.filter fun operation => operation ≠ .step

end Operation

namespace Machine

/-- The ticks of a run that come to a machine that is not paused. -/
def countedTicks (machine : Machine) : List Operation → Nat
  | [] => 0
  | operation :: rest =>
      operation.counted machine +
        countedTicks (operation.perform machine).state rest

variable {machine : Machine} {timer : Timer}

/-! ## Steps -/

theorem value_effect_setting (timer : Timer) (machine : Machine) (x : Nibble) :
    timer.value (machine.effect (timer.setting x)) = machine.register x := by
  cases timer with
  | delay | sound => rfl

theorem value_effect_other {instruction : Instruction}
    (other : ∀ x, instruction ≠ timer.setting x) :
    timer.value (machine.effect instruction) = timer.value machine := by
  cases timer with
  | delay =>
      show (machine.effect instruction).delayTimer = machine.delayTimer
      rw [effect_delayTimer]
      cases instruction with
      | setDelay x => exact absurd rfl (other x)
      | _ => rfl
  | sound =>
      show (machine.effect instruction).soundTimer = machine.soundTimer
      rw [effect_soundTimer]
      cases instruction with
      | setSound x => exact absurd rfl (other x)
      | _ => rfl

/-- The step that sets a timer gives it the value of its register. -/
theorem value_step_of_set {x : Nibble}
    (set : machine.step.result = .ok (.executed (timer.setting x))) :
    timer.value machine.step.state = machine.register x := by
  rcases step_of_executed set with ⟨-, -, -, effected⟩
  rw [effected]
  exact value_effect_setting timer machine.advanced x

/-- Any other step, whatever comes of it, leaves the timer alone. -/
theorem value_step_of_not_set (without : ¬ timer.SetBy machine) :
    timer.value machine.step.state = timer.value machine := by
  have advanced : ∀ machine : Machine,
      timer.value machine.advanced = timer.value machine := by
    cases timer with
    | delay | sound => exact fun _ => rfl
  have received : ∀ (machine : Machine) (x key : Nibble),
      timer.value (machine.received x key) = timer.value machine := by
    cases timer with
    | delay | sound => exact fun _ _ _ => rfl
  rcases step_executed_or_keeps timer.value advanced received machine with
    ⟨instruction, executed, effected⟩ | ⟨-, kept⟩
  · rw [effected]
    have other : ∀ x, instruction ≠ timer.setting x := by
      rintro x rfl
      exact without ⟨x, executed⟩
    exact (value_effect_other other).trans (advanced machine)
  · exact kept

/-! ## Operations -/

theorem toNat_countDown (count : UInt8) :
    (countDown count).toNat = count.toNat - 1 := by
  have below := count.toNat_lt
  rw [countDown, UInt8.toNat_ofNat']
  exact Nat.mod_eq_of_lt (by omega)

theorem toNat_value_tick (timer : Timer) (machine : Machine) :
    (timer.value machine.tick).toNat =
      (timer.value machine).toNat - if machine.paused then 0 else 1 := by
  rw [tick]
  split
  · rfl
  · cases timer with
    | delay => exact toNat_countDown machine.delayTimer
    | sound => exact toNat_countDown machine.soundTimer

/-- An operation that does not set a timer changes it by what it counts. -/
theorem toNat_value_perform {operation : Operation}
    (without : operation = .step → ¬ timer.SetBy machine) :
    (timer.value (operation.perform machine).state).toNat =
      (timer.value machine).toNat - operation.counted machine := by
  cases operation with
  | step => exact congrArg UInt8.toNat (value_step_of_not_set (without rfl))
  | tick => exact toNat_value_tick timer machine
  | _ =>
      cases timer with
      | delay | sound => rfl

/-- Whether the machine is paused is up to the host. -/
theorem countedTicks_eq (machine : Machine) (operations : List Operation) :
    machine.countedTicks operations =
      Operation.unpausedTicks machine.paused operations := by
  induction operations generalizing machine with
  | nil => rfl
  | cons operation rest ih =>
      rw [countedTicks, ih]
      cases operation with
      | step =>
          show 0 + Operation.unpausedTicks machine.step.state.paused rest = _
          rw [paused_step, Nat.zero_add]
          rfl
      | tick =>
          show _ + Operation.unpausedTicks machine.tick.paused rest = _
          rw [paused_tick]
          rfl
      | _ => exact Nat.zero_add _

theorem unpausedTicks_withoutSteps (paused : Bool)
    (operations : List Operation) :
    Operation.unpausedTicks paused (Operation.withoutSteps operations) =
      Operation.unpausedTicks paused operations := by
  induction operations generalizing paused with
  | nil => rfl
  | cons operation rest ih =>
      cases operation with
      | step => exact ih paused
      | tick => exact congrArg (_ + ·) (ih paused)
      | pause => exact ih true
      | resume => exact ih false
      | setKey code pressed => exact ih paused
      | releaseAll => exact ih paused
      | reseed seed => exact ih paused

/-! ## Runs -/

/-- While no step sets it, a timer loses what is counted. -/
theorem toNat_value_after {operations : List Operation}
    (without : NoStepWhere timer.SetBy machine operations) :
    (timer.value (machine.after operations)).toNat =
      (timer.value machine).toNat - machine.countedTicks operations := by
  induction operations generalizing machine with
  | nil => rfl
  | cons operation rest ih =>
      rcases noStepWhere_cons.mp without with ⟨here, further⟩
      rw [after_cons, ih further, toNat_value_perform here, countedTicks,
        Nat.sub_sub]

/-- In every run there is a last setting, if only that of the start. -/
theorem exists_lastSet (timer : Timer) (machine : Machine)
    (operations : List Operation) :
    ∃ value since later,
      timer.LastSet machine operations value since later := by
  induction operations generalizing machine with
  | nil => exact ⟨_, _, _, .never (noStepWhere_nil timer.SetBy machine)⟩
  | cons operation rest ih =>
      rcases ih (operation.perform machine).state with
        ⟨value, since, later, last⟩
      -- What set the timer last in the rest did so in the whole run; if nothing
      -- did, the first operation may have.
      cases last with
      | never without =>
          by_cases sets : operation = .step ∧ timer.SetBy machine
          · rcases sets with ⟨rfl, x, set⟩
            exact ⟨_, _, _, .step [] rest x rfl set without⟩
          · refine ⟨_, _, _, .never (noStepWhere_cons.mpr ⟨?_, without⟩)⟩
            exact fun same set => sets ⟨same, set⟩
      | step earlier later x split set without =>
          cases split
          exact ⟨_, _, _, .step (operation :: earlier) later x rfl set without⟩

/--
At the end of a run a timer holds what it was given last less the ticks since
then that came while the machine was not paused, of which there are as many
without the steps of the run; if there were more ticks, it is zero.
-/
theorem timer_after (timer : Timer) (machine : Machine)
    (operations : List Operation) :
    (∃ value since later,
        timer.LastSet machine operations value since later) ∧
      ∀ value since later,
        timer.LastSet machine operations value since later →
          (timer.value (machine.after operations)).toNat =
              value.toNat - since.countedTicks later ∧
            since.countedTicks later =
              Operation.unpausedTicks since.paused
                (Operation.withoutSteps later) := by
  refine ⟨exists_lastSet timer machine operations, ?_⟩
  intro value since later last
  constructor
  · cases last with
    | never without => exact toNat_value_after without
    | step earlier _ x split set without =>
        cases split
        rw [after_append, after_cons, ← value_step_of_set set]
        exact toNat_value_after without
  · rw [unpausedTicks_withoutSteps]
    exact countedTicks_eq since later

/-- The delay timer is set, and then a key is waited for. -/
def delayingProgram : List UInt8 :=
  [0xF0, 0x15, 0xF0, 0x0A]

def delayingMachine : Machine :=
  { loaded (.ofSeed 0) delayingProgram with
    registers := Vector.replicate 16 5 }

/-- Its timer counts while it waits, and stands still while it is paused. -/
theorem delayingMachine_timer :
    let later : List Operation :=
      [.tick, .step, .tick, .pause, .tick, .resume, .tick]
    Timer.delay.LastSet delayingMachine (.step :: later) 5
        delayingMachine.step.state later ∧
      (delayingMachine.after (.step :: later)).delayTimer = 2 := by
  intro later
  have stored : delayingMachine.memory =
      (loaded (.ofSeed 0) delayingProgram).memory := by
    rw [delayingMachine]
  have sets : delayingMachine.nextInstruction = .setDelay 0 :=
    nextInstruction_of_loaded delayingProgram 0 (by decide) (by decide) stored
      rfl (by decide)
  have waits : delayingMachine.advanced.nextInstruction = .waitKey 0 :=
    nextInstruction_of_loaded delayingProgram 2 (by decide) (by decide) stored
      rfl (by decide)
  have set := step_of_sound rfl rfl (by decide) sets rfl
  have since : delayingMachine.step.state =
      { delayingMachine.advanced with delayTimer := 5 } := by
    rw [set]
    rfl
  have without :
      NoStepWhere Timer.delay.SetBy delayingMachine.step.state later := by
    rw [since]
    refine noStepWhere_cons.mpr ⟨nofun, noStepWhere_cons.mpr ⟨?_, ?_⟩⟩
    · rintro - ⟨x, executed⟩
      rcases step_of_executed executed with ⟨-, decoded, -⟩
      cases waits.symm.trans decoded.symm
    · exact noStepWhere_of_not_mem (by decide)
  have executed : delayingMachine.step.result =
      .ok (.executed (.setDelay 0)) := by
    rw [set]
  have last : Timer.delay.LastSet delayingMachine (.step :: later) _ _ later :=
    .step [] later 0 rfl executed without
  rcases (timer_after .delay delayingMachine (.step :: later)).2 _ _ _ last with
    ⟨held, counted⟩
  refine ⟨last, UInt8.toNat_inj.mp (held.trans ?_)⟩
  rw [counted, paused_step]
  rfl

end Machine

end Chip8
