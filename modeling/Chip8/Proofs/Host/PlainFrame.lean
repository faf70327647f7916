import Chip8.Proofs.Host.Operations

/-!
# Frames and the plain loop

A frame stops making steps when one of them makes no progress.  The plain loop
makes all of its steps, unless one fails.  A step without progress leaves the
whole machine as it was, so it is made again and again by the plain loop, and
the two end in the same way.

What a frame does to its machine is therefore some steps, at most as many as
the settings allow, and one tick after them unless the last one has failed.
-/

namespace Chip8

/-- Whether an instruction was executed or a key received. -/
def isPerformed : Except Error Outcome → Bool
  | .ok (.executed _) => true
  | .ok (.keyReceived _) => true
  | .ok .waitingForKey => false
  | .ok .paused => false
  | .error _ => false

theorem isPerformed_ok (outcome : Outcome) :
    isPerformed (.ok outcome) = outcome.madeProgress := by
  cases outcome <;> rfl

namespace Machine

/-- As many steps as are asked for, until one fails. -/
def stepTimes (machine : Machine) :
    (count : Nat) → Activity LogRecord Error Machine Unit
  | 0 => .done () machine
  | count + 1 =>
      machine.step.andThen fun _ stepped => stepped.stepTimes count

/-- All the steps of a frame and, if none failed, one tick. -/
def plainFrame (cycles : Nat) (machine : Machine) :
    Activity LogRecord Error Machine Unit :=
  (machine.stepTimes cycles).andThen fun () stepped => .done () stepped.tick

/-- However many steps a machine makes, they give this and nothing else. -/
structure Stalled (machine : Machine) (outcome : Outcome) : Prop where
  step_eq : machine.step = .done outcome machine
  stepTimes_eq : ∀ count, machine.stepTimes count = .done () machine
  after_eq : ∀ count, machine.after (List.replicate count .step) = machine
  outcomes_eq : ∀ count,
    machine.outcomes (List.replicate count .step) =
      List.replicate count (.ok outcome)

variable {machine : Machine} {outcome : Outcome}

/-- A machine whose step does nothing makes the same step for ever. -/
theorem stalled_of_step (made : machine.step = .done outcome machine) :
    Stalled machine outcome := by
  have state : (Operation.perform machine .step).state = machine := by
    rw [Operation.perform, made]
    rfl
  have results : Operation.results machine .step = [.ok outcome] := by
    rw [Operation.results, made]
    rfl
  refine ⟨made, ?_, ?_, ?_⟩
  · intro count
    induction count with
    | zero => rfl
    | succ count ih => rw [stepTimes, made, Activity.andThen_done, ih]
  · intro count
    induction count with
    | zero => rfl
    | succ count ih => rw [List.replicate_succ, after_cons, state, ih]
  · intro count
    induction count with
    | zero => rfl
    | succ count ih =>
        rw [List.replicate_succ, outcomes_cons, state, results, ih]
        rfl

theorem stalled_of_no_progress (gave : machine.step.result = .ok outcome)
    (idle : outcome.madeProgress = false) : Stalled machine outcome :=
  stalled_of_step (step_of_no_progress gave idle)

/-- Ending the steps early makes no difference. -/
theorem stepUpTo_eq_stepTimes (machine : Machine) (limit : Nat) :
    machine.stepUpTo limit = machine.stepTimes limit := by
  induction limit generalizing machine with
  | zero => rfl
  | succ limit ih =>
      rw [stepUpTo, stepTimes]
      cases gave : machine.step.result with
      | error error =>
          rw [Activity.andThen_of_error gave, Activity.andThen_of_error gave]
      | ok outcome =>
          cases progress : outcome.madeProgress with
          | false =>
              -- The steps that are left out of the frame would do nothing.
              have stalled := stalled_of_no_progress gave progress
              rw [stalled.step_eq, Activity.andThen_done,
                Activity.andThen_done, stalled.stepTimes_eq]
              simp only [progress, Bool.false_eq_true, if_false]
          | true =>
              rw [Activity.andThen_of_ok gave, Activity.andThen_of_ok gave]
              simp only [progress, if_true, ih]

/-! ## The steps of a frame -/

theorem length_outcomes (machine : Machine) (operations : List Operation) :
    (machine.outcomes operations).length = operations.count .step := by
  induction operations generalizing machine with
  | nil => rfl
  | cons operation rest ih =>
      rw [outcomes_cons, List.length_append, ih, List.count_cons, Nat.add_comm]
      cases operation <;> rfl

/-- These are the steps that a machine makes of so many. -/
structure StepsMade (machine : Machine) (limit steps : Nat) : Prop where
  limited : steps ≤ limit
  made : machine.stepsUpTo limit = List.replicate steps .step
  /-- Every step but the last one makes progress. -/
  performed : ∀ given ∈
    (machine.outcomes (List.replicate steps .step)).dropLast, isPerformed given
  /-- The last step fails if any does. -/
  failed_iff : ∀ error, (machine.stepUpTo limit).result = .error error ↔
    (machine.outcomes (List.replicate steps .step)).getLast? =
      some (.error error)

variable {limit steps : Nat}

theorem outcomes_replicate_succ (machine : Machine) (steps : Nat) :
    machine.outcomes (List.replicate (steps + 1) .step) =
      machine.step.result ::
        machine.step.state.outcomes (List.replicate steps .step) := by
  rw [List.replicate_succ, outcomes_cons]
  rfl

/-- A step is followed by others if it makes progress. -/
theorem StepsMade.next (gave : machine.step.result = .ok outcome)
    (progress : outcome.madeProgress = true)
    (further : StepsMade machine.step.state limit steps) :
    StepsMade machine (limit + 1) (steps + 1) := by
  constructor
  · exact Nat.succ_le_succ further.limited
  · rw [stepsUpTo, gave, List.replicate_succ, ← further.made]
    simp only [progress, if_true]
  · have performed := further.performed
    rw [outcomes_replicate_succ, gave]
    cases later : machine.step.state.outcomes
        (List.replicate steps .step) with
    | nil => exact List.forall_mem_nil _
    | cons given rest =>
        rw [later] at performed
        have first := (isPerformed_ok outcome).trans progress
        exact List.forall_mem_cons.mpr ⟨first, performed⟩
  · intro error
    have result : (machine.stepUpTo (limit + 1)).result =
        (machine.step.state.stepUpTo limit).result := by
      rw [stepUpTo, Activity.andThen_of_ok gave]
      simp only [progress, if_true]
    rw [result, further.failed_iff, outcomes_replicate_succ, gave,
      List.getLast?_cons]
    cases (machine.step.state.outcomes
        (List.replicate steps .step)).getLast? with
    | none => simp
    | some given => simp

/-- A step that fails or makes no progress is the last one. -/
theorem stepsMade_last
    (ends : ∀ outcome, machine.step.result = .ok outcome →
      outcome.madeProgress = false) :
    StepsMade machine (limit + 1) 1 := by
  constructor
  · exact Nat.le_add_left 1 limit
  · rw [stepsUpTo]
    cases gave : machine.step.result with
    | error error => rfl
    | ok outcome => simp [ends outcome gave]
  · rw [outcomes_replicate_succ]
    exact List.forall_mem_nil _
  · intro error
    rw [outcomes_replicate_succ, stepUpTo]
    cases gave : machine.step.result with
    | error cause =>
        rw [Activity.andThen_of_error gave]
        simp [outcomes]
    | ok outcome =>
        rw [Activity.andThen_of_ok gave]
        simp [outcomes, ends outcome gave, Activity.done]

theorem exists_stepsMade (machine : Machine) (limit : Nat) :
    ∃ steps, StepsMade machine limit steps := by
  induction limit generalizing machine with
  | zero => exact ⟨0, Nat.le_refl 0, rfl, nofun, fun _ => ⟨nofun, nofun⟩⟩
  | succ limit ih =>
      cases gave : machine.step.result with
      | error error =>
          refine ⟨1, stepsMade_last fun outcome succeeded => ?_⟩
          cases gave.symm.trans succeeded
      | ok outcome =>
          cases progress : outcome.madeProgress with
          | false =>
              refine ⟨1, stepsMade_last fun other succeeded => ?_⟩
              cases gave.symm.trans succeeded
              exact progress
          | true =>
              rcases ih machine.step.state with ⟨steps, further⟩
              exact ⟨steps + 1, further.next gave progress⟩

/-- No more instructions and keys are dealt with than there are steps. -/
theorem StepsMade.countP_le (made : StepsMade machine limit steps) :
    (machine.outcomes (List.replicate steps .step)).countP isPerformed ≤
      limit :=
  calc
    _ ≤ (machine.outcomes (List.replicate steps .step)).length :=
      List.countP_le_length
    _ = steps := by rw [length_outcomes, List.count_replicate_self]
    _ ≤ limit := made.limited

end Machine

namespace Host

open Machine

variable {ι δ σ : Type} {host : Host ι δ σ} {steps : Nat}

/-- What a frame does after its steps. -/
def closing : Except Error Unit → List Operation
  | .ok () => [.tick]
  | .error _ => []

/--
A frame does this to its machine: so many steps, of which the last one fails if
the frame does, and a tick if it does not.
-/
structure FrameMade (host : Host ι δ σ) (steps : Nat) : Prop where
  limited : steps ≤ host.config.cyclesPerFrame.toNat
  performs : Performs host.machine
    (List.replicate steps .step ++ closing host.runFrame.result)
    host.runFrame.state.machine host.runFrame.trace
  performed : ∀ given ∈
    (host.machine.outcomes (List.replicate steps .step)).dropLast,
      isPerformed given
  failed_iff : ∀ error, host.runFrame.result = .error error ↔
    (host.machine.outcomes (List.replicate steps .step)).getLast? =
      some (.error error)
  counted :
    (host.machine.outcomes (List.replicate steps .step)).countP isPerformed ≤
      host.config.cyclesPerFrame.toNat

theorem exists_frameMade (host : Host ι δ σ) :
    ∃ steps, FrameMade host steps := by
  rcases host.machine.exists_stepsMade host.config.cyclesPerFrame.toNat with
    ⟨steps, made⟩
  have performs := host.performs_runFrame
  refine ⟨steps, made.limited, ?_, made.performed, ?_, made.countP_le⟩
  · rw [operationsOfRunFrame, made.made, ← host.runFrame_result] at performs
    exact performs
  · intro error
    rw [host.runFrame_result]
    exact made.failed_iff error

/-- Neither the steps nor the tick of a frame change a paused machine. -/
theorem runFrame_of_paused (halted : host.machine.paused = true) :
    host.runFrame = .done () host := by
  have stalled := stalled_of_step (step_of_paused halted)
  have still : host.machine.tick = host.machine := by
    rw [tick, halted]
    rfl
  rw [runFrame_eq_onMachine, onMachine, stepUpTo_eq_stepTimes,
    stalled.stepTimes_eq, Activity.andThen_done, still]
  rfl

/--
A frame and the plain loop leave behind the same of every machine.  A frame
makes at most as many steps as the settings allow and one tick after them,
unless a step fails; of a paused machine nothing is changed.  After a step
without progress every further step gives the same and does nothing.
-/
theorem runFrame_agrees_with_plain_loop (host : Host ι δ σ) :
    host.runFrame =
        host.onMachine (plainFrame host.config.cyclesPerFrame.toNat) ∧
      (∃ steps, FrameMade host steps) ∧
      (host.machine.paused = true → host.runFrame = .done () host) ∧
      ∀ machine outcome, machine.step.result = .ok outcome →
        outcome.madeProgress = false → Stalled machine outcome := by
  refine ⟨?_, host.exists_frameMade, runFrame_of_paused, ?_⟩
  · rw [runFrame_eq_onMachine]
    simp only [stepUpTo_eq_stepTimes]
    rfl
  · exact fun machine outcome => stalled_of_no_progress

/-- A host whose machine waits for a key, and no key is down. -/
def waitingHost : Host KeyScript FrameRecorder SilentSound where
  config := ⟨3, 60, false, none, none⟩
  machine :=
    { Machine.powerUp (.ofSeed 0) with keyWait := some 5, delayTimer := 2 }
  input := ⟨[]⟩
  display := .empty
  sound := ⟨false⟩
  muted := false

/-- Its frame ticks once, and not at all when the machine is paused. -/
theorem waitingHost_agrees_with_plain_loop :
    let paused : Host KeyScript FrameRecorder SilentSound :=
      { waitingHost with
        machine := { waitingHost.machine with paused := true } }
    Stalled waitingHost.machine .waitingForKey ∧
      waitingHost.runFrame =
        .done () { waitingHost with machine := waitingHost.machine.tick } ∧
      waitingHost.machine.tick.delayTimer = 1 ∧
      paused.runFrame = .done () paused := by
  intro paused
  rcases waitingHost.runFrame_agrees_with_plain_loop with
    ⟨agrees, -, -, stalls⟩
  have waits : waitingHost.machine.step.result = .ok .waitingForKey := rfl
  have stalled := stalls _ _ waits rfl
  refine ⟨stalled, ?_, rfl, ?_⟩
  · rw [agrees, onMachine, plainFrame, stalled.stepTimes_eq,
      Activity.andThen_done]
    rfl
  · exact paused.runFrame_agrees_with_plain_loop.2.2.1 rfl

end Host

end Chip8
