import Chip8.Proofs.Machine.Pausing

/-!
# The timers are apart from the rest

An instruction Fx07 is the only one that reads a timer, and what it reads is
the delay timer.  Two machines that differ in their timers therefore go on
alike until one of them executes such an instruction, and a difference in the
sound timer is never seen at all.

Both facts are one: a machine is looked at without its sound timer and, as the
view demands, without its delay timer too.  An operation does the same to what
is seen of a machine, whatever is not seen of it; the theorems on runs follow by
induction.  A tick changes nothing that is seen without the timers, so it may
stand anywhere in a run.
-/

namespace Chip8

/-- How much of the timers is looked at. -/
inductive TimerView where
  /-- Neither of the timers. -/
  | neither
  /-- Only the delay timer. -/
  | delay

/-- What is seen of a delay timer. -/
def TimerView.ofDelay (timer : UInt8) : TimerView → UInt8
  | .neither => 0
  | .delay => timer

namespace Machine

/-- The machine with zeros in place of the timers that are not seen. -/
def asSeen (view : TimerView) (machine : Machine) : Machine :=
  { machine with
    delayTimer := view.ofDelay machine.delayTimer
    soundTimer := 0 }

/-- Two machines that are equal but for their timers. -/
def SameButTimers (first second : Machine) : Prop :=
  ∃ delayTimer soundTimer, second = { first with delayTimer, soundTimer }

/-- Two machines that are equal but for their sound timers. -/
def SameButSound (first second : Machine) : Prop :=
  ∃ soundTimer, second = { first with soundTimer }

/-- The operations of a run but for its ticks. -/
def withoutTicks (operations : List Operation) : List Operation :=
  operations.filter fun operation => operation ≠ .tick

/-- Whether a step executed an instruction that the view keeps apart. -/
def Reads (view : TimerView) (result : Except Error Outcome) : Prop :=
  view = .neither ∧ ∃ x, result = .ok (.executed (.readDelay x))

variable {machine first second : Machine}

theorem sameButTimers_iff :
    SameButTimers first second ↔
      first.asSeen .neither = second.asSeen .neither := by
  constructor
  · rintro ⟨delayTimer, soundTimer, rfl⟩
    rfl
  · intro same
    refine ⟨second.delayTimer, second.soundTimer, ?_⟩
    cases first
    cases second
    simp_all [asSeen]

theorem sameButSound_iff :
    SameButSound first second ↔
      first.asSeen .delay = second.asSeen .delay := by
  constructor
  · rintro ⟨soundTimer, rfl⟩
    rfl
  · intro same
    refine ⟨second.soundTimer, ?_⟩
    cases first
    cases second
    simp_all [asSeen, TimerView.ofDelay]

/-! ## One operation -/

/-- Looking twice is looking once. -/
@[simp]
theorem asSeen_asSeen (view : TimerView) (machine : Machine) :
    (machine.asSeen view).asSeen view = machine.asSeen view := by
  cases view <;> rfl

/-- No condition of a skip depends on a timer. -/
theorem holds_asSeen (view : TimerView) (condition : Condition) :
    condition.holds (machine.asSeen view) = condition.holds machine := by
  cases condition <;> rfl

/-- Whether an instruction can be executed does not depend on a timer. -/
theorem fault?_asSeen (view : TimerView) (machine : Machine) (pc : UInt16)
    (instruction : Instruction) :
    (machine.asSeen view).fault? pc instruction =
      machine.fault? pc instruction := by
  cases instruction <;> rfl

/-- The effect of an instruction is seen alike, unless it reads a timer. -/
theorem effect_asSeen {view : TimerView} (machine : Machine)
    (instruction : Instruction)
    (hidden : view = .neither → ∀ x, instruction ≠ .readDelay x) :
    ((machine.asSeen view).effect instruction).asSeen view =
      (machine.effect instruction).asSeen view := by
  cases instruction with
  | readDelay x =>
      cases view with
      | neither => exact absurd rfl (hidden rfl x)
      | delay => rfl
  | skipIf condition =>
      rw [effect, effect, skipIf_eq, skipIf_eq, holds_asSeen]
      cases view <;> rfl
  | combine arithmetic x y => cases arithmetic <;> cases view <;> rfl
  | _ => cases view <;> rfl

/--
A step gives and tells the same, whatever is not seen, and leaves the same to
be seen unless it reads a timer that is not seen.
-/
theorem step_asSeen (view : TimerView) (machine : Machine) :
    (machine.asSeen view).step.result = machine.step.result ∧
      (machine.asSeen view).step.trace = machine.step.trace ∧
      (¬ Reads view machine.step.result →
        (machine.asSeen view).step.state.asSeen view =
          machine.step.state.asSeen view) := by
  cases machine.stepCase with
  | paused halted made =>
      have other : (machine.asSeen view).step = _ := step_of_paused halted
      rw [made, other]
      exact ⟨rfl, rfl, fun _ => asSeen_asSeen view machine⟩
  | waiting x running wait noKey made =>
      have other : (machine.asSeen view).step = _ :=
        step_of_waiting running wait
      have silent : (machine.asSeen view).keypad.lowestPressed? = none :=
        noKey
      rw [made, other, pollKey, silent]
      exact ⟨rfl, rfl, fun _ => asSeen_asSeen view machine⟩
  | received x key running wait lowest made =>
      have other : (machine.asSeen view).step = _ :=
        step_of_waiting running wait
      have heard : (machine.asSeen view).keypad.lowestPressed? = some key :=
        lowest
      rw [made, other, pollKey, heard]
      exact ⟨rfl, rfl, fun _ => asSeen_asSeen view (machine.received x key)⟩
  | unfetched running idle outside made =>
      have other : (machine.asSeen view).step = _ :=
        step_of_idle running idle
      have ran : (machine.asSeen view).runWord = _ :=
        runWord_outside outside
      rw [made, other, ran]
      exact ⟨rfl, rfl, fun _ => asSeen_asSeen view machine⟩
  | failed error running idle inside fault made =>
      have other : (machine.asSeen view).step = _ :=
        step_of_idle running idle
      have fails := (fault?_asSeen view machine _ _).trans fault
      have ran :=
        @runWord_of_fault (machine.asSeen view) inside error fails
      rw [made, other, ran]
      exact ⟨rfl, rfl, fun _ => asSeen_asSeen view machine.advanced⟩
  | executed running idle inside sound made =>
      have other : (machine.asSeen view).step = _ :=
        step_of_idle running idle
      have succeeds := (fault?_asSeen view machine _ _).trans sound
      have ran := @runWord_of_sound (machine.asSeen view) inside succeeds
      rw [made, other, ran]
      refine ⟨rfl, rfl, fun unread => ?_⟩
      apply effect_asSeen machine.advanced
      rintro rfl x same
      have reads : machine.nextInstruction = .readDelay x := same
      exact unread ⟨rfl, x, by rw [reads]⟩

/-- A tick is seen at most on the delay timer. -/
theorem tick_asSeen (view : TimerView) (machine : Machine) :
    (machine.asSeen view).tick.asSeen view = machine.tick.asSeen view := by
  have flag : (machine.asSeen view).paused = machine.paused := rfl
  rw [tick, tick, flag]
  split <;> cases view <;> rfl

/-- A tick is not seen without the timers. -/
theorem tick_unseen (machine : Machine) :
    machine.tick.asSeen .neither = machine.asSeen .neither := by
  obtain ⟨delay, sound, ticked⟩ := machine.tick_eq
  rw [ticked]
  rfl

/--
An operation gives and tells the same, whatever is not seen, and leaves the
same to be seen unless it reads a timer that is not seen.
-/
theorem perform_asSeen (view : TimerView) (machine : Machine)
    (operation : Operation) :
    operation.results (machine.asSeen view) = operation.results machine ∧
      (operation.perform (machine.asSeen view)).trace =
        (operation.perform machine).trace ∧
      ((∀ result ∈ operation.results machine, ¬ Reads view result) →
        (operation.perform (machine.asSeen view)).state.asSeen view =
          (operation.perform machine).state.asSeen view) := by
  cases operation with
  | step =>
      obtain ⟨result, trace, state⟩ := step_asSeen view machine
      refine ⟨?_, trace, fun unread => state ?_⟩
      · rw [Operation.results, Operation.results, result]
      · exact unread _ (List.mem_singleton.mpr rfl)
  | tick => exact ⟨rfl, rfl, fun _ => tick_asSeen view machine⟩
  | _ => exact ⟨rfl, rfl, fun _ => by cases view <;> rfl⟩

/-- Two machines that are seen alike are seen alike after an operation. -/
theorem perform_seen_alike {view : TimerView}
    (same : first.asSeen view = second.asSeen view)
    (operation : Operation) :
    operation.results second = operation.results first ∧
      (operation.perform second).trace = (operation.perform first).trace ∧
      ((∀ result ∈ operation.results first, ¬ Reads view result) →
        (operation.perform first).state.asSeen view =
          (operation.perform second).state.asSeen view) := by
  obtain ⟨result, trace, state⟩ :=
    perform_asSeen view first operation
  obtain ⟨result', trace', state'⟩ :=
    perform_asSeen view second operation
  rw [← same] at result' trace' state'
  have results := result'.symm.trans result
  refine ⟨results, trace'.symm.trans trace, fun unread => ?_⟩
  rw [← state unread, state' (results ▸ unread)]

/-! ## Runs -/

/-- Two machines that are seen alike go on alike unless a timer is read. -/
theorem run_seen_alike {view : TimerView}
    (same : first.asSeen view = second.asSeen view)
    (operations : List Operation)
    (unread : ∀ result ∈ first.outcomes operations, ¬ Reads view result) :
    second.outcomes operations = first.outcomes operations ∧
      second.records operations = first.records operations ∧
      (first.after operations).asSeen view =
        (second.after operations).asSeen view := by
  induction operations generalizing first second with
  | nil => exact ⟨rfl, rfl, same⟩
  | cons operation rest step =>
      rw [outcomes_cons] at unread
      obtain ⟨results, trace, state⟩ := perform_seen_alike same operation
      have next := state fun result member =>
        unread result (List.mem_append_left _ member)
      obtain ⟨outcomes, records, ends⟩ := step next fun result member =>
        unread result (List.mem_append_right _ member)
      rw [outcomes_cons, outcomes_cons, records_cons, records_cons, results,
        trace, outcomes, records]
      exact ⟨rfl, rfl, ends⟩

theorem withoutTicks_cons {operation : Operation}
    (other : operation ≠ .tick) (rest : List Operation) :
    withoutTicks (operation :: rest) = operation :: withoutTicks rest :=
  List.filter_cons_of_pos (decide_eq_true other)

/--
Taking the ticks out of a run changes nothing that is seen without the timers,
if no timer is read with the ticks or none is read without them.
-/
theorem run_withoutTicks
    (same : first.asSeen .neither = second.asSeen .neither)
    (operations : List Operation)
    (unread : (∀ result ∈ first.outcomes operations,
        ¬ Reads .neither result) ∨
      ∀ result ∈ second.outcomes (withoutTicks operations),
        ¬ Reads .neither result) :
    second.outcomes (withoutTicks operations) = first.outcomes operations ∧
      second.records (withoutTicks operations) = first.records operations ∧
      (first.after operations).asSeen .neither =
        (second.after (withoutTicks operations)).asSeen .neither := by
  induction operations generalizing first second with
  | nil => exact ⟨rfl, rfl, same⟩
  | cons operation rest step =>
      by_cases ticks : operation = .tick
      · subst ticks
        exact step ((tick_unseen first).trans same) unread
      · rw [withoutTicks_cons ticks] at unread ⊢
        rw [outcomes_cons, outcomes_cons] at unread
        obtain ⟨results, trace, state⟩ := perform_seen_alike same operation
        rw [results] at unread
        have here : ∀ result ∈ operation.results first,
            ¬ Reads .neither result := by
          intro result member
          rcases unread with ticking | without
          · exact ticking result (List.mem_append_left _ member)
          · exact without result (List.mem_append_left _ member)
        obtain ⟨outcomes, records, ends⟩ := step (state here) <|
          unread.imp
            (fun all result member =>
              all result (List.mem_append_right _ member))
            (fun all result member =>
              all result (List.mem_append_right _ member))
        rw [outcomes_cons, outcomes_cons, records_cons, records_cons,
          results, trace, outcomes, records]
        exact ⟨rfl, rfl, ends⟩

/--
Two machines that are equal but for their timers give and tell the same in two
runs that are equal but for their ticks, and end equal but for their timers, if
the first run executes no instruction Fx07.  Two machines that are equal but
for their sound timers give and tell the same in every run, and end equal but
for their sound timers.
-/
theorem timers_do_not_interfere (first second : Machine) :
    (SameButTimers first second →
      ∀ operations others,
        withoutTicks operations = withoutTicks others →
        (∀ x, .ok (.executed (.readDelay x)) ∉ first.outcomes operations) →
          second.outcomes others = first.outcomes operations ∧
            second.records others = first.records operations ∧
            SameButTimers (first.after operations) (second.after others)) ∧
    (SameButSound first second →
      ∀ operations,
        second.outcomes operations = first.outcomes operations ∧
          second.records operations = first.records operations ∧
          SameButSound (first.after operations)
            (second.after operations)) := by
  constructor
  · intro same operations others ticks unread
    have apart : ∀ result ∈ first.outcomes operations,
        ¬ Reads .neither result := by
      rintro result member ⟨-, x, rfl⟩
      exact unread x member
    -- Both runs are compared with the first machine making no ticks at all.
    have itself : first.asSeen .neither = first.asSeen .neither := rfl
    obtain ⟨outcomes, records, ends⟩ :=
      run_withoutTicks itself operations (.inl apart)
    rw [ticks] at outcomes records ends
    obtain ⟨outcomes', records', ends'⟩ :=
      run_withoutTicks (sameButTimers_iff.mp same).symm others
        (.inr (outcomes ▸ apart))
    exact ⟨outcomes'.symm.trans outcomes, records'.symm.trans records,
      sameButTimers_iff.mpr (ends.trans ends'.symm)⟩
  · intro same operations
    have apart : ∀ result ∈ first.outcomes operations,
        ¬ Reads .delay result := by
      rintro result - ⟨view, -⟩
      cases view
    obtain ⟨outcomes, records, ends⟩ :=
      run_seen_alike (sameButSound_iff.mp same) operations apart
    exact ⟨outcomes, records, sameButSound_iff.mpr ends⟩

/-- A machine whose program jumps to itself. -/
def spinningMachine : Machine :=
  { powerUp (.ofSeed 0) with
    memory := Memory.withFont.overwrite Memory.programStart [0x12, 0x00] }

/-- It does not see what its timers are and when they tick. -/
theorem spinningMachine_ignores_timers :
    let counting :=
      { spinningMachine with delayTimer := 5, soundTimer := 9 }
    counting.outcomes [.tick, .step, .step, .tick] =
        [.ok (.executed (.jump 0x200)), .ok (.executed (.jump 0x200))] ∧
      SameButTimers (spinningMachine.after [.step, .step])
        (counting.after [.tick, .step, .step, .tick]) := by
  intro counting
  have word : spinningMachine.nextWord =
      Instruction.encode (.jump 0x200) := by
    decide +kernel
  have decoded := (nextInstruction_eq_iff (.jump 0x200) trivial rfl).mpr word
  have sound : spinningMachine.fault? spinningMachine.programCounter
      spinningMachine.nextInstruction = none := by
    rw [decoded]
    rfl
  have step : spinningMachine.step = _ :=
    (step_of_idle rfl rfl).trans (runWord_of_sound (by decide) sound)
  have result : spinningMachine.step.result =
      .ok (.executed (.jump 0x200)) := by
    rw [step, decoded]
  have state : spinningMachine.step.state = spinningMachine := by
    rw [step, decoded]
    rfl
  have outcomes : spinningMachine.outcomes [.step, .step] =
      [.ok (.executed (.jump 0x200)), .ok (.executed (.jump 0x200))] := by
    simp only [outcomes_cons, Operation.results, Operation.perform, state,
      result]
    rfl
  have unread : ∀ x, .ok (.executed (.readDelay x)) ∉
      spinningMachine.outcomes [.step, .step] := by
    simp [outcomes]
  have same := (timers_do_not_interfere spinningMachine counting).1
    ⟨5, 9, rfl⟩ [.step, .step] [.tick, .step, .step, .tick] rfl unread
  exact ⟨same.1.trans outcomes, same.2.2⟩

end Machine

end Chip8
