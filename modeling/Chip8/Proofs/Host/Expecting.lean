import Chip8.Proofs.Host.Loop
import Chip8.Session.Progress

/-!
# Scans to come

What is going to wait at later scans does not matter before they are due: a
host for which something is waiting makes its next frame in the same way
whatever it expects behind that.  After a frame that is not a last one, what
was waiting at its scan is gone.
-/

namespace Chip8

namespace Activity

variable {ω ε σ τ α β : Type}

/-- The same activity with something else made of its state. -/
def mapState (made : Activity ω ε σ α) (change : σ → τ) : Activity ω ε τ α :=
  ⟨made.result, change made.state, made.trace⟩

/-- What both parts of an activity commute with, the whole commutes with. -/
theorem andThen_mapState {change : σ → τ} {first : Activity ω ε σ α}
    {following : α → σ → Activity ω ε σ β}
    {changed : α → τ → Activity ω ε τ β}
    (commutes : ∀ value state,
      changed value (change state) = (following value state).mapState change) :
    (first.mapState change).andThen changed =
      (first.andThen following).mapState change := by
  cases result : first.result with
  | error error =>
      have failed : (first.mapState change).result = .error error := result
      rw [andThen_of_error result, andThen_of_error failed]
      rfl
  | ok value =>
      have made : (first.mapState change).result = .ok value := result
      rw [andThen_of_ok result, andThen_of_ok made]
      simp only [mapState, commutes]

end Activity

namespace Host

variable {δ σ : Type} (host : Host Keyboard δ σ) (scans : List (List Arrival))

theorem expecting_append (later : List (List Arrival)) :
    host.expecting (scans ++ later) =
      (host.expecting scans).expecting later := by
  simp [expecting]

/-! ## The parts of a frame -/

/-- Only what is waiting at the scan that is due is read. -/
theorem scan_expecting (due : host.input.waiting ≠ []) :
    (host.expecting scans).scan =
      host.scan.mapState fun host => host.expecting scans := by
  obtain ⟨now, later, waiting⟩ := List.exists_cons_of_ne_nil due
  simp only [scan, expecting, InputDevice.scan, Keyboard.scan, waiting,
    List.cons_append, List.headD_cons, List.tail_cons, Activity.mapState]
  cases Keyboard.failure? now <;> rfl

theorem waiting_scan {command : Option Command}
    (scanned : host.scan.result = .ok command) :
    host.scan.state.input.waiting = host.input.waiting.tail := by
  simp only [scan, InputDevice.scan, Keyboard.scan] at scanned ⊢
  cases failure : Keyboard.failure? (host.input.waiting.headD []) with
  | none => rfl
  | some found =>
      simp only [failure] at scanned
      cases scanned

theorem obey_expecting (command : Option Command) :
    (host.expecting scans).obey command =
      (host.obey command).mapState fun host => host.expecting scans := by
  cases command with
  | none => rfl
  | some command =>
      cases command with
      | quit => rfl
      | toggleMute => rfl
      | togglePause =>
          rw [obey, obey]
          cases paused : host.machine.paused with
          | true =>
              simp only [expecting, paused]
              rfl
          | false =>
              simp only [expecting, paused]
              rfl

theorem runFrame_expecting :
    (host.expecting scans).runFrame =
      host.runFrame.mapState fun host => host.expecting scans := by
  rw [runFrame_eq_onMachine, runFrame_eq_onMachine]
  rfl

theorem updateSound_expecting [SoundDevice σ] :
    (host.expecting scans).updateSound =
      host.updateSound.mapState fun host => host.expecting scans := by
  have audible : (host.expecting scans).isAudible = host.isAudible := rfl
  have answer : SoundDevice.isBeeping (host.expecting scans).sound =
      SoundDevice.isBeeping host.sound := rfl
  have switched : ∀ (made : Activity Emission SoundError σ Unit)
      (event : Bool → Event),
      (host.expecting scans).asked.afterSound made event =
        (host.asked.afterSound made event).mapState
          fun host => host.expecting scans := by
    intro made event
    rw [afterSound, afterSound]
    cases made.result <;> rfl
  rw [updateSound, updateSound, audible, answer]
  cases host.isAudible with
  | true =>
      cases SoundDevice.isBeeping host.sound with
      | true => rfl
      | false => exact switched _ _
  | false =>
      cases SoundDevice.isBeeping host.sound with
      | true => exact switched _ _
      | false => rfl

theorem load_expecting [SoundDevice σ] (fresh : RandomSource)
    (program : List UInt8) :
    (host.expecting scans).load fresh program =
      (host.load fresh program).mapState fun host => host.expecting scans := by
  have settings : (host.expecting scans).config = host.config := rfl
  rw [load, load, settings]
  cases Machine.withProgram (host.config.randomSource fresh) program with
  | error error => rfl
  | ok machine =>
      rw [← Activity.andThen_mapState fun _ loaded =>
        updateSound_expecting loaded scans]
      rfl

theorem input_load [SoundDevice σ] (fresh : RandomSource)
    (program : List UInt8) :
    (host.load fresh program).state.input = host.input := by
  rw [load]
  split
  · rfl
  · rw [Activity.andThen_of_ok rfl, updateSound_state]
    rfl

theorem present_expecting [DisplayDevice δ] :
    (host.expecting scans).present =
      host.present.mapState fun host => host.expecting scans := by
  have drawn : DisplayDevice.draw (host.expecting scans).display
      (host.expecting scans).machine.frame =
      DisplayDevice.draw host.display host.machine.frame := rfl
  rw [present, present, drawn]
  cases (DisplayDevice.draw host.display host.machine.frame).result <;> rfl

/-- The end of a run does not depend on what is expected behind it. -/
theorem windUp_expecting [SoundDevice σ]
    (run : FrameRun (Host Keyboard δ σ)) (trace : List Event) :
    windUp ⟨run.completed, run.ending, run.host.expecting scans, trace⟩ =
      (windUp run).mapState fun host => host.expecting scans := by
  simp only [windUp, silence, expecting, Activity.mapState]
  cases (SoundDevice.stop run.host.sound).result <;> rfl

/-! ## A frame -/

variable [DisplayDevice δ] [SoundDevice σ]

/-- A frame that is due does not depend on what is expected behind it. -/
theorem frame_expecting (due : host.input.waiting ≠ []) :
    (host.expecting scans).frame =
      host.frame.mapState fun host => host.expecting scans := by
  rw [frame, frame, host.scan_expecting scans due]
  refine Activity.andThen_mapState fun command scanned => ?_
  split
  · rfl
  rw [scanned.obey_expecting]
  refine Activity.andThen_mapState fun _ obeyed => ?_
  rw [obeyed.runFrame_expecting]
  refine Activity.andThen_mapState fun _ ran => ?_
  rw [ran.updateSound_expecting]
  refine Activity.andThen_mapState fun _ sounded => ?_
  rw [sounded.present_expecting]
  exact Activity.andThen_mapState fun _ _ => rfl

/-- A frame leaves the keyboard as its scan has left it. -/
theorem input_frame : host.frame.state.input = host.scan.state.input := by
  refine Activity.andThen_keeps rfl ?_
  intro command scanned kept
  split
  · exact kept
  have obeyed : (scanned.obey command).state.input = host.scan.state.input := by
    rw [scanned.obey_state command]
    exact kept
  refine Activity.andThen_keeps obeyed ?_
  intro _ obeyed kept
  have ran : obeyed.runFrame.state.input = host.scan.state.input := by
    rw [obeyed.runFrame_state]
    exact kept
  refine Activity.andThen_keeps ran ?_
  intro _ ran kept
  have sounded : ran.updateSound.state.input = host.scan.state.input := by
    rw [ran.updateSound_state]
    exact kept
  refine Activity.andThen_keeps sounded ?_
  intro _ sounded kept
  have shown : sounded.present.state.input = host.scan.state.input := by
    rw [sounded.present_state]
    exact kept
  exact Activity.andThen_keeps shown fun _ _ kept => kept

/-- After a frame that did not fail, its scan is no longer waited for. -/
theorem waiting_frame {goesOn : Bool}
    (made : host.frame.result = .ok goesOn) :
    host.frame.state.input.waiting = host.input.waiting.tail := by
  rw [host.input_frame]
  cases scanned : host.scan.result with
  | error error =>
      rw [frame, Activity.andThen_of_error scanned] at made
      cases made
  | ok command => exact host.waiting_scan scanned

/-! ## A run of one frame -/

theorem runFrames_one_expecting (due : host.input.waiting ≠ []) :
    (host.expecting scans).runFrames 1 =
      { host.runFrames 1 with
        host := (host.runFrames 1).host.expecting scans } := by
  simp only [runFrames, host.frame_expecting scans due, Activity.mapState]
  cases host.frame.result with
  | error error => rfl
  | ok goesOn => cases goesOn <;> rfl

/-- If another frame is to follow, the first one was completed. -/
theorem runFrames_one_of_limit (goesOn : (host.runFrames 1).ending = .limit) :
    (host.runFrames 1).completed = 1 ∧
      (host.runFrames 1).host.input.waiting = host.input.waiting.tail := by
  rw [runFrames] at goesOn ⊢
  cases result : host.frame.result with
  | error error =>
      rw [result] at goesOn
      cases goesOn
  | ok another =>
      cases another with
      | false =>
          rw [result] at goesOn
          cases goesOn
      | true => exact ⟨rfl, host.waiting_frame result⟩

end Host

end Chip8
