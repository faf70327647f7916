import Chip8.Proofs.Machine.Run
import Chip8.Proofs.Machine.StepCases

/-!
# Paused intervals

A pause is invisible to the program.  `visible` deletes from a run all pauses
and resumptions, and the steps and ticks that a paused machine was asked to
make.  What is left, done to a machine that is never paused, gives the same
machine up to the paused flag, and the same result at every step that is left.

One operation is treated first: it is hidden and changes at most the paused
flag, or it is visible and does the same to a machine that is not paused.  The
theorems on runs follow by induction.
-/

namespace Chip8

/-- Whether a pause hides the operation from the program. -/
def Operation.isHidden (machine : Machine) : Operation → Bool
  | .step => machine.paused
  | .tick => machine.paused
  | .pause => true
  | .resume => true
  | .setKey _ _ => false
  | .releaseAll => false
  | .reseed _ => false

/-- What an operation gives: one result if it is a step, and else none. -/
def Operation.results (machine : Machine) :
    Operation → List (Except Error Outcome)
  | .step => [machine.step.result]
  | _ => []

namespace Machine

/-- The machine with its paused flag cleared. -/
def unpaused (machine : Machine) : Machine :=
  { machine with paused := false }

/-- The operations of a run that no pause hides from the program. -/
def visible (machine : Machine) : List Operation → List Operation
  | [] => []
  | operation :: rest =>
      let later := (operation.perform machine).state.visible rest
      if operation.isHidden machine then later else operation :: later

/-- Whether a step gave anything else than that the machine is paused. -/
def isUnpausedResult : Except Error Outcome → Bool
  | .ok .paused => false
  | _ => true

variable {machine : Machine}

/-- Clearing a flag that is clear changes nothing. -/
theorem unpaused_of_running (running : machine.paused = false) :
    machine.unpaused = machine := by
  rw [unpaused, ← running]

/-- A machine that runs does not say that it is paused. -/
theorem isUnpausedResult_step (running : machine.paused = false) :
    isUnpausedResult machine.step.result = true := by
  cases machine.stepCase with
  | paused halted made =>
      rw [running] at halted
      cases halted
  | waiting x _ wait noKey made => rw [made]; rfl
  | received x key _ wait lowest made => rw [made]; rfl
  | unfetched _ idle outside made => rw [made]; rfl
  | failed error _ idle inside fault made => rw [made]; rfl
  | executed _ idle inside sound made => rw [made]; rfl

/-! ## One operation -/

/-- A hidden operation changes at most the paused flag. -/
theorem unpaused_perform_of_hidden {operation : Operation}
    (hidden : operation.isHidden machine = true) :
    (operation.perform machine).state.unpaused = machine.unpaused := by
  cases operation with
  | step =>
      have halted : machine.paused = true := hidden
      change machine.step.state.unpaused = machine.unpaused
      rw [step_of_paused halted]
      rfl
  | tick =>
      have halted : machine.paused = true := hidden
      change machine.tick.unpaused = machine.unpaused
      rw [tick, if_pos halted]
  | pause => rfl
  | resume => rfl
  | setKey code pressed => cases hidden
  | releaseAll => cases hidden
  | reseed seed => cases hidden

/-- The result of a hidden operation, if any, is that of a pause. -/
theorem filter_results_of_hidden {operation : Operation}
    (hidden : operation.isHidden machine = true) :
    (operation.results machine).filter isUnpausedResult = [] := by
  cases operation with
  | step =>
      have halted : machine.paused = true := hidden
      rw [Operation.results, step_of_paused halted]
      rfl
  | _ => rfl

/-- A visible operation does the same to a machine that is not paused. -/
theorem perform_unpaused_of_shown {operation : Operation}
    (shown : operation.isHidden machine = false) :
    (operation.perform machine.unpaused).state =
      (operation.perform machine).state.unpaused := by
  cases operation with
  | step =>
      have running : machine.paused = false := shown
      have still : machine.step.state.paused = false :=
        (paused_step machine).trans running
      rw [unpaused_of_running running]
      exact (unpaused_of_running still).symm
  | tick =>
      have running : machine.paused = false := shown
      have still : machine.tick.paused = false :=
        (paused_tick machine).trans running
      rw [unpaused_of_running running]
      exact (unpaused_of_running still).symm
  | pause => cases shown
  | resume => cases shown
  | setKey code pressed => rfl
  | releaseAll => rfl
  | reseed seed => rfl

/-- The result of a visible operation, if any, is the same and no pause. -/
theorem results_of_shown {operation : Operation}
    (shown : operation.isHidden machine = false) :
    operation.results machine.unpaused =
      (operation.results machine).filter isUnpausedResult := by
  cases operation with
  | step =>
      have running : machine.paused = false := shown
      have going := isUnpausedResult_step running
      rw [unpaused_of_running running, Operation.results,
        List.filter_cons_of_pos going]
      rfl
  | _ => rfl

/-! ## Runs -/

theorem visible_of_hidden {operation : Operation}
    (hidden : operation.isHidden machine = true)
    (rest : List Operation) :
    machine.visible (operation :: rest) =
      (operation.perform machine).state.visible rest := by
  rw [visible, if_pos hidden]

theorem visible_of_shown {operation : Operation}
    (shown : operation.isHidden machine = false)
    (rest : List Operation) :
    machine.visible (operation :: rest) =
      operation :: (operation.perform machine).state.visible rest := by
  rw [visible, shown]
  rfl

/-- What is visible of a run in two parts is what is visible of the parts. -/
theorem visible_append (machine : Machine)
    (earlier later : List Operation) :
    machine.visible (earlier ++ later) =
      machine.visible earlier ++ (machine.after earlier).visible later := by
  induction earlier generalizing machine with
  | nil => rfl
  | cons operation rest step =>
      have further := step (operation.perform machine).state
      rw [List.cons_append, after_cons]
      cases seen : operation.isHidden machine with
      | true => rw [visible_of_hidden seen, visible_of_hidden seen, further]
      | false =>
          rw [visible_of_shown seen, visible_of_shown seen, further,
            List.cons_append]

/-- The visible operations alone lead to the same machine. -/
theorem after_visible (machine : Machine) (operations : List Operation) :
    machine.unpaused.after (machine.visible operations) =
      (machine.after operations).unpaused := by
  induction operations generalizing machine with
  | nil => rfl
  | cons operation rest step =>
      have further := step (operation.perform machine).state
      cases seen : operation.isHidden machine with
      | true =>
          rw [visible_of_hidden seen, after_cons, ← further,
            unpaused_perform_of_hidden seen]
      | false =>
          rw [visible_of_shown seen, after_cons, after_cons, ← further,
            perform_unpaused_of_shown seen]

/-- The results of a run are those of its operations in order. -/
theorem outcomes_cons (machine : Machine) (operation : Operation)
    (rest : List Operation) :
    machine.outcomes (operation :: rest) =
      operation.results machine ++
        (operation.perform machine).state.outcomes rest := by
  cases operation with
  | step =>
      rw [outcomes]
      cases given : machine.step.result <;>
        simp [Operation.perform, Operation.results, given, Except.map]
  | _ => rfl

/-- The visible operations alone give the results of the unpaused steps. -/
theorem outcomes_visible (machine : Machine) (operations : List Operation) :
    machine.unpaused.outcomes (machine.visible operations) =
      (machine.outcomes operations).filter isUnpausedResult := by
  induction operations generalizing machine with
  | nil => rfl
  | cons operation rest step =>
      have further := step (operation.perform machine).state
      rw [outcomes_cons, List.filter_append]
      cases seen : operation.isHidden machine with
      | true =>
          rw [visible_of_hidden seen, filter_results_of_hidden seen,
            List.nil_append, ← further, unpaused_perform_of_hidden seen]
      | false =>
          rw [visible_of_shown seen, outcomes_cons, ← further,
            perform_unpaused_of_shown seen, results_of_shown seen]

/--
Take all pauses and resumptions out of a run, and all steps and ticks that it
asks a paused machine to make.  What is left leads from the machine with its
paused flag cleared to the same machine with its paused flag cleared.  A step
that was taken out was paused; one that is left gives what it gave before.
-/
theorem paused_intervals_invisible (machine : Machine)
    (operations : List Operation) :
    machine.unpaused.after (machine.visible operations) =
        (machine.after operations).unpaused ∧
      machine.unpaused.outcomes (machine.visible operations) =
        (machine.outcomes operations).filter isUnpausedResult ∧
      ∀ earlier later, operations = earlier ++ .step :: later →
        ((machine.after earlier).paused = true ∧
          machine.visible operations =
            machine.visible earlier ++
              (machine.after earlier).visible later ∧
          (machine.after earlier).step.result = .ok .paused) ∨
        ((machine.after earlier).paused = false ∧
          machine.visible operations =
            machine.visible earlier ++
              .step :: (machine.after earlier).step.state.visible later ∧
          (machine.unpaused.after (machine.visible earlier)).step.result =
            (machine.after earlier).step.result) := by
  refine ⟨after_visible machine operations,
    outcomes_visible machine operations, ?_⟩
  rintro earlier later rfl
  rw [visible_append]
  cases flag : (machine.after earlier).paused with
  | true =>
      left
      have halted := step_of_paused flag
      have same : (machine.after earlier).step.state =
          machine.after earlier := by
        rw [halted]
        rfl
      refine ⟨rfl, ?_, ?_⟩
      · have hidden : Operation.isHidden (machine.after earlier) .step =
            true := flag
        rw [visible_of_hidden hidden]
        change _ ++ (machine.after earlier).step.state.visible later = _
        rw [same]
      · rw [halted]
        rfl
  | false =>
      right
      refine ⟨rfl, ?_, ?_⟩
      · have shown : Operation.isHidden (machine.after earlier) .step =
            false := flag
        rw [visible_of_shown shown]
        rfl
      · rw [after_visible, unpaused_of_running flag]

/-- A key that is pressed during a pause is seen by the step after it. -/
theorem paused_interval_with_key_invisible :
    let machine := powerUp (.ofSeed 0)
    let operations : List Operation :=
      [.pause, .step, .setKey 3 true, .tick, .resume, .step]
    machine.visible operations = [.setKey 3 true, .step] ∧
      (machine.after [.pause]).step.result = .ok .paused ∧
      machine.unpaused.after [.setKey 3 true, .step] =
        (machine.after operations).unpaused := by
  intro machine operations
  obtain ⟨same, -, steps⟩ := paused_intervals_invisible machine operations
  rcases steps [.pause] [.setKey 3 true, .tick, .resume, .step] rfl with
    ⟨-, -, halted⟩ | ⟨running, -, -⟩
  · exact ⟨rfl, halted, same⟩
  · cases running

end Machine

end Chip8
