import Chip8.Host.Request
import Chip8.Proofs.Host.Loop

/-!
# The course of a machine

A host has one machine after another: a new one from each load, one from each
scan, one from each command, one from each step and one from each tick.  Their
sequence is the course of what was asked of the host.  It ends with the machine
that the request leaves behind.

A run that does not end within its patience leaves nothing behind, but what was
seen of it while it was watched is a part of the course all the same.
-/

namespace Chip8

/-- The machines that the steps of one frame leave behind. -/
def Machine.courseOfSteps (machine : Machine) : (limit : Nat) → List Machine
  | 0 => []
  | limit + 1 =>
      let made := machine.step
      made.state ::
        match made.result with
        | .ok outcome =>
            if outcome.madeProgress then made.state.courseOfSteps limit
            else []
        | .error _ => []

namespace Host

variable {ι δ σ : Type}

/-- The machines in the steps of a frame, and the one behind their tick. -/
def courseOfRunFrame (host : Host ι δ σ) : List Machine :=
  host.machine.courseOfSteps host.config.cyclesPerFrame.toNat ++
    [host.runFrame.state.machine]

theorem getLastD_courseOfRunFrame (host : Host ι δ σ) (before : Machine) :
    host.courseOfRunFrame.getLastD before = host.runFrame.state.machine :=
  List.getLastD_concat

theorem machine_present [DisplayDevice δ] (host : Host ι δ σ) :
    host.present.state.machine = host.machine := by
  rw [host.present_state]

variable [InputDevice ι] [DisplayDevice δ] [SoundDevice σ]

/-- The machines in the parts of a frame. -/
def courseOfFrame (host : Host ι δ σ) : List Machine :=
  let scanned := host.scan.state
  scanned.machine ::
    match host.scan.result with
    | .ok command =>
        if command = some .quit then []
        else
          let obeyed := (scanned.obey command).state
          obeyed.machine :: obeyed.courseOfRunFrame
    | .error _ => []

/-- The machines in the frames of a run. -/
def courseOfFrames (host : Host ι δ σ) : (limit : Nat) → List Machine
  | 0 => []
  | limit + 1 =>
      host.courseOfFrame ++
        match host.frame.result with
        | .ok true => host.frame.state.courseOfFrames limit
        | .ok false => []
        | .error _ => []

/-- The machines that a host has while it meets a request. -/
def courseOf (host : Host ι δ σ) : Request → List Machine
  | .load fresh program => [(host.load fresh program).state.machine]
  | .runFrame => host.courseOfRunFrame
  | .mainLoop patience =>
      host.courseOfFrames (frameBound host.config patience)

/-- The machines that a host has while it meets requests. -/
def courseOfAll (host : Host ι δ σ) : List Request → List Machine
  | [] => []
  | request :: rest =>
      host.courseOf request ++
        match host.meet? request with
        | some made => made.state.courseOfAll rest
        | none => []

/-- What is seen of a request, which of a run are its frames. -/
def seenOf (host : Host ι δ σ) : Request → List Event
  | .load fresh program => (host.load fresh program).trace
  | .runFrame => host.runFrame.trace
  | .mainLoop patience =>
      (host.runFrames (frameBound host.config patience)).trace

/-- What is seen of requests. -/
def seenOfAll (host : Host ι δ σ) : List Request → List Event
  | [] => []
  | request :: rest =>
      host.seenOf request ++
        match host.meet? request with
        | some made => made.state.seenOfAll rest
        | none => []

/-! ## Where a course ends -/

theorem getLastD_append {α : Type} (earlier later : List α) (before : α) :
    (earlier ++ later).getLastD before =
      later.getLastD (earlier.getLastD before) := by
  rw [List.getLastD_eq_getLast?, List.getLast?_append, Option.getD_or,
    ← List.getLastD_eq_getLast?, ← List.getLastD_eq_getLast?]

/-- What follows the steps and the tick of a frame keeps the machine. -/
theorem machine_frame {host : Host ι δ σ} {command : Option Command}
    (scanned : host.scan.result = .ok command) (going : command ≠ some .quit) :
    host.frame.state.machine =
      (host.scan.state.obey command).state.runFrame.state.machine := by
  rw [frame, Activity.andThen_of_ok scanned, if_neg going,
    Activity.andThen_of_ok (obey_eq _ command).1]
  refine Activity.andThen_keeps rfl ?_
  intro _ ran kept
  refine Activity.andThen_keeps (ran.updateSound_eq.2.1.trans kept) ?_
  intro _ sounded kept
  exact Activity.andThen_keeps (sounded.machine_present.trans kept)
    fun _ _ shown => shown

theorem getLastD_courseOfFrame (host : Host ι δ σ) (before : Machine) :
    host.courseOfFrame.getLastD before = host.frame.state.machine := by
  rw [courseOfFrame, List.getLastD_cons]
  cases scanned : host.scan.result with
  | error error =>
      rw [frame, Activity.andThen_of_error scanned]
      rfl
  | ok command =>
      by_cases quit : command = some .quit
      · rw [frame, Activity.andThen_of_ok scanned]
        simp [quit, Activity.done]
      · rw [machine_frame scanned quit]
        simp only [if_neg quit, List.getLastD_cons]
        exact getLastD_courseOfRunFrame _ _

theorem getLastD_courseOfFrames (host : Host ι δ σ) (limit : Nat) :
    (host.courseOfFrames limit).getLastD host.machine =
      (host.runFrames limit).host.machine := by
  induction limit generalizing host with
  | zero => rfl
  | succ limit further =>
      rw [courseOfFrames, getLastD_append, getLastD_courseOfFrame, runFrames]
      cases host.frame.result with
      | error error => rfl
      | ok goesOn =>
          cases goesOn with
          | true => exact further host.frame.state
          | false => rfl

/-- The course of a request ends with the machine that it leaves behind. -/
theorem getLastD_courseOf {host : Host ι δ σ} {request : Request}
    {made : Activity Event Error (Host ι δ σ) (Option Nat)}
    (met : host.meet? request = some made) :
    (host.courseOf request).getLastD host.machine = made.state.machine := by
  cases request with
  | load fresh program =>
      cases met
      rfl
  | runFrame =>
      cases met
      exact host.getLastD_courseOfRunFrame host.machine
  | mainLoop patience =>
      obtain ⟨ran, ended, rfl⟩ := Option.map_eq_some_iff.mp met
      obtain ⟨rfl, -⟩ := mainLoop_eq_some_iff.mp ended
      rw [courseOf, getLastD_courseOfFrames]
      exact (congrArg Host.machine (silence_state _)).symm

end Host

end Chip8
