import Chip8.Device.Display
import Chip8.Device.Keyboard
import Chip8.Device.Sound
import Chip8.Proofs.Host.Loop
import Chip8.Proofs.Machine.StepCases
import Mathlib.Algebra.Ring.Parity

/-!
# The commands of a user at the keyboard

Several events can wait at one scan of a keyboard, but a scan reports only one
command, the last one.  What a user may expect is nevertheless that Esc ends
the run, and that otherwise each `p` pauses or resumes the machine and each `m`
mutes or unmutes the tone: a scan for which this holds is heeded.

If the devices work, a completed frame toggles as the last command of its scan
asks for, and the run ends at a scan if Esc is the last command there.  The
final theorem says exactly which scans are heeded: an Esc behind which another
command comes is lost, and so are toggles that do not cancel out.
-/

namespace Chip8

/-! ## Devices that work -/

section Devices

variable {δ σ : Type}

/-- A display after it was shown some frames. -/
def shownAll [DisplayDevice δ] (display : δ) (frames : List Frame) : δ :=
  frames.foldl (fun before frame => (DisplayDevice.draw before frame).state)
    display

/-- Every frame can be drawn on the display, whatever it was shown before. -/
def DrawsAlways [DisplayDevice δ] (display : δ) : Prop :=
  ∀ earlier frame,
    (DisplayDevice.draw (shownAll display earlier) frame).result = .ok ()

/-- The tone can be switched, whatever was done with the device before. -/
def SoundsAlways [SoundDevice σ] (sound : σ) : Prop :=
  ∀ earlier on, (switchTone (usedAll sound earlier) on).result = .ok ()

theorem DrawsAlways.next [DisplayDevice δ] {display : δ}
    (draws : DrawsAlways display) (frame : Frame) :
    DrawsAlways (DisplayDevice.draw display frame).state :=
  fun earlier => draws (frame :: earlier)

theorem SoundsAlways.next [SoundDevice σ] {sound : σ}
    (sounds : SoundsAlways sound) (use : SoundUse) :
    SoundsAlways (used sound use) :=
  fun earlier => sounds (use :: earlier)

end Devices

namespace Host

open Keyboard

variable {δ σ : Type} [DisplayDevice δ] [SoundDevice σ]

/-- A host whose devices do not fail. -/
structure Working (host : Host Keyboard δ σ) : Prop where
  /-- All that the terminal tells can be read. -/
  readable : ∀ arrivals ∈ host.input.waiting, failure? arrivals = none
  draws : DrawsAlways host.display
  sounds : SoundsAlways host.sound

/-- The events that wait at the next scan. -/
def events (host : Host Keyboard δ σ) : List KeyEvent :=
  eventsRead (host.input.waiting.headD [])

/-- A flag after a command, if the command is the one that toggles it. -/
def toggledBy (toggle : Command) (command : Option Command) (flag : Bool) :
    Bool :=
  if command = some toggle then !flag else flag

/-- What is known of a host in the middle of a frame. -/
structure Settled (paused muted : Bool) (waiting : List (List Arrival))
    (host : Host Keyboard δ σ) : Prop where
  paused_eq : host.machine.paused = paused
  muted_eq : host.muted = muted
  waiting_eq : host.input.waiting = waiting
  draws : DrawsAlways host.display
  sounds : SoundsAlways host.sound

variable {host last next : Host Keyboard δ σ} {paused muted : Bool}
  {waiting : List (List Arrival)} {trace : List Event} {count : Nat}

/-- A scan reports the last command and takes up what was waiting for it. -/
theorem Working.scan (working : host.Working) :
    host.scan.result = .ok (lastCommand? host.events) ∧
      Settled host.machine.paused host.muted host.input.waiting.tail
        host.scan.state := by
  have readable : failure? (host.input.waiting.headD []) = none := by
    cases waiting : host.input.waiting with
    | nil => rfl
    | cons now later =>
        exact working.readable now (by rw [waiting]; exact List.mem_cons_self)
  obtain ⟨result, taken⟩ :
      (InputDevice.scan host.input host.machine.keypad).result =
          .ok (lastCommand? host.events) ∧
        (InputDevice.scan host.input host.machine.keypad).state.1.waiting =
          host.input.waiting.tail := by
    simp only [InputDevice.scan, Keyboard.scan, readable, events, and_self]
  rw [Host.scan, result]
  exact ⟨rfl, rfl, rfl, taken, working.draws, working.sounds⟩

theorem Settled.obey (settled : Settled paused muted waiting host)
    (command : Option Command) :
    Settled (toggledBy .togglePause command paused)
      (toggledBy .toggleMute command muted) waiting
      (host.obey command).state := by
  obtain ⟨paused_eq, muted_eq, waiting_eq, draws, sounds⟩ := settled
  subst paused_eq muted_eq
  cases command with
  | none => exact ⟨rfl, rfl, waiting_eq, draws, sounds⟩
  | some command =>
      cases command with
      | quit => exact ⟨rfl, rfl, waiting_eq, draws, sounds⟩
      | toggleMute => exact ⟨rfl, rfl, waiting_eq, draws, sounds⟩
      | togglePause =>
          rw [Host.obey]
          cases running : host.machine.paused with
          | false => exact ⟨rfl, rfl, waiting_eq, draws, sounds⟩
          | true => exact ⟨rfl, rfl, waiting_eq, draws, sounds⟩

theorem Settled.runFrame (settled : Settled paused muted waiting host) :
    Settled paused muted waiting host.runFrame.state := by
  obtain ⟨paused_eq, muted_eq, waiting_eq, draws, sounds⟩ := settled
  have kept := host.machine.paused_stepUpTo host.config.cyclesPerFrame.toNat
  rw [Host.runFrame, Host.onMachine, Activity.andThen]
  cases (host.machine.stepUpTo host.config.cyclesPerFrame.toNat).result with
  | error error =>
      exact ⟨kept.trans paused_eq, muted_eq, waiting_eq, draws, sounds⟩
  | ok value =>
      refine ⟨?_, muted_eq, waiting_eq, draws, sounds⟩
      exact (Machine.paused_tick _).trans (kept.trans paused_eq)

/-- A sound device that works is not muted. -/
theorem Settled.updateSound (settled : Settled paused muted waiting host) :
    Settled paused muted waiting host.updateSound.state := by
  obtain ⟨paused_eq, muted_eq, waiting_eq, draws, sounds⟩ := settled
  have sounds : SoundsAlways host.asked.sound := sounds.next .ask
  rcases host.updateSound_cases with ⟨-, update⟩ | ⟨on, -, -, update⟩
  · rw [update]
    exact ⟨paused_eq, muted_eq, waiting_eq, draws, sounds⟩
  · have result : (switchTone host.asked.sound on).result = .ok () :=
      sounds [] on
    rw [update, afterSound, result]
    exact ⟨paused_eq, muted_eq, waiting_eq, draws, sounds.next (.switch on)⟩

theorem Settled.present (settled : Settled paused muted waiting host) :
    Settled paused muted waiting host.present.state := by
  obtain ⟨paused_eq, muted_eq, waiting_eq, draws, sounds⟩ := settled
  have result :
      (DisplayDevice.draw host.display host.machine.frame).result = .ok () :=
    draws [] host.machine.frame
  rw [Host.present, result]
  exact ⟨paused_eq, muted_eq, waiting_eq, draws.next _, sounds⟩

/-! ## What a frame does for its command -/

/-- The host is settled by the last command of its next scan. -/
def SettledNext (host next : Host Keyboard δ σ) : Prop :=
  Settled
    (toggledBy .togglePause (lastCommand? host.events) host.machine.paused)
    (toggledBy .toggleMute (lastCommand? host.events) host.muted)
    host.input.waiting.tail next

theorem Begun.settled {command : Option Command} (working : host.Working)
    (begun : Begun host command next trace) :
    command = lastCommand? host.events ∧ SettledNext host next := by
  cases begun with
  | made _ _ scan going obey scan_calls obey_calls =>
      obtain ⟨result, settled⟩ := working.scan
      rw [scan] at result settled
      cases result
      have obeyed := settled.obey (lastCommand? host.events)
      rw [obey] at obeyed
      exact ⟨rfl, obeyed⟩

theorem Played.settled {command : Option Command} {ran : Host Keyboard δ σ}
    (working : host.Working) (played : Played host command ran next trace) :
    SettledNext host next := by
  cases played with
  | made begun run sound run_calls sound_calls =>
      have settled := (begun.settled working).2.runFrame
      rw [run] at settled
      have sounded := settled.updateSound
      rw [sound] at sounded
      exact sounded

/-- A completed frame toggles what the last command of its scan asks for. -/
theorem CompletedFrame.settled (working : host.Working)
    (frame : CompletedFrame host next trace) : SettledNext host next := by
  cases frame with
  | made played _ _ draw draw_calls =>
      have settled := (played.settled working).present
      rw [draw] at settled
      exact settled

/-- The steps of the next frame fail. -/
def Faults (host : Host Keyboard δ σ) : Prop :=
  ∃ command begun trace error,
    Begun host command begun trace ∧ begun.runFrame.result = .error error

theorem Faults.frame_result (faults : host.Faults) :
    ∃ error, host.frame.result = .error error := by
  obtain ⟨command, obeyed, trace, error, begun, run⟩ := faults
  cases begun with
  | made _ _ scan going obey scan_calls obey_calls =>
      refine ⟨error, ?_⟩
      simp [Host.frame, Activity.andThen, scan, going, obey, run]

/-- A frame ends the run without an error if Esc is its last command. -/
theorem Working.frame_result_eq_false_iff (working : host.Working) :
    host.frame.result = .ok false ↔
      lastCommand? host.events = some .quit := by
  have scanned := working.scan.1
  constructor
  · intro result
    cases host.frameCase with
    | completed other => rw [result] at other; cases other
    | failed error other => rw [result] at other; cases other
    | quit _ frame =>
        generalize host.frame.state = after, host.frame.trace = trace at frame
        cases frame with
        | quit _ scan untouched scan_calls =>
            rw [scan] at scanned
            exact (Except.ok.inj scanned).symm
  · intro quit
    rw [quit] at scanned
    rw [Host.frame, Activity.andThen_of_ok scanned]
    rfl

/-- If the user does not quit, a frame is completed or a step of it fails. -/
theorem Working.completed_or_faults (working : host.Working)
    (going : lastCommand? host.events ≠ some .quit) :
    (∃ next trace, CompletedFrame host next trace) ∨ host.Faults := by
  cases host.frameCase with
  | completed _ frame => exact .inl ⟨_, _, frame⟩
  | quit result =>
      exact absurd (working.frame_result_eq_false_iff.mp result) going
  | failed error _ frame =>
      refine .inr ?_
      generalize host.frame.state = after, host.frame.trace = trace at frame
      cases frame with
      | scanFailed device scan scan_calls =>
          have scanned := working.scan.1
          rw [scan] at scanned
          cases scanned
      | stepFailed begun step run run_calls =>
          refine ⟨_, _, _, error, begun, ?_⟩
          rw [run]
      | drawFailed played device _ draw draw_calls =>
          have failed :=
            device.symm.trans ((played.settled working).draws [] _)
          cases failed

/-! ## Scans in the course of a run -/

/-- The events that wait at a scan to come, counting from zero. -/
def eventsAt (host : Host Keyboard δ σ) (scan : Nat) : List KeyEvent :=
  eventsRead (host.input.waiting[scan]?.getD [])

theorem Working.afterFrame (working : host.Working)
    (frame : CompletedFrame host next trace) :
    next.Working ∧ next.input.waiting = host.input.waiting.tail := by
  have settled := frame.settled working
  refine ⟨⟨?_, settled.draws, settled.sounds⟩, settled.waiting_eq⟩
  intro arrivals member
  rw [settled.waiting_eq] at member
  exact working.readable arrivals (List.mem_of_mem_tail member)

/-- After some frames the devices still work, and what comes next waits. -/
theorem Working.after (working : host.Working)
    (frames : CompletedFrames host count last trace) :
    last.Working ∧ last.input.waiting = host.input.waiting.drop count := by
  induction frames with
  | none host => exact ⟨working, rfl⟩
  | more first rest further =>
      obtain ⟨nextWorking, taken⟩ := working.afterFrame first
      obtain ⟨lastWorking, waits⟩ := further nextWorking
      refine ⟨lastWorking, ?_⟩
      rw [waits, taken, List.drop_tail]

theorem events_after (working : host.Working)
    (frames : CompletedFrames host count last trace) :
    last.events = host.eventsAt count := by
  rw [events, eventsAt, (working.after frames).2, List.headD_eq_head?_getD,
    List.head?_drop]

theorem lastFrame_of_quit (quits : host.frame.result = .ok false) :
    LastFrame host (.ok ()) host.frame.state host.frame.trace := by
  cases host.frameCase with
  | completed other => rw [quits] at other; cases other
  | failed error other => rw [quits] at other; cases other
  | quit _ frame => exact frame

theorem completedFrame_of_goesOn (goesOn : host.frame.result = .ok true) :
    CompletedFrame host host.frame.state host.frame.trace := by
  cases host.frameCase with
  | completed _ frame => exact frame
  | failed error other => rw [goesOn] at other; cases other
  | quit other => rw [goesOn] at other; cases other

/-- The run ends at the scan behind so many frames, and without an error. -/
def QuitsAfter (host : Host Keyboard δ σ) (count : Nat) : Prop :=
  ∀ patience, count < patience →
    ∃ made, host.mainLoop? patience = some made ∧
      made.result = .ok count ∧
      made.trace.countP Event.isScan = count + 1

/-- If a frame behind some others is allowed, a run is watched till then. -/
theorem frameBound_eq {config : Config} {patience : Nat}
    (allowed : ∀ limit, config.maxFrames = some limit →
      count < limit.toNat)
    (patient : count < patience) :
    ∃ further, frameBound config patience = count + (further + 1) := by
  rw [frameBound]
  cases limited : config.maxFrames with
  | none => exact Nat.exists_eq_add_of_lt patient
  | some limit => exact Nat.exists_eq_add_of_lt (allowed limit limited)

/-- The run ends at a scan if the frame of this scan ends it. -/
theorem quitsAfter_iff (frames : CompletedFrames host count last trace)
    (allowed : ∀ limit, host.config.maxFrames = some limit →
      count < limit.toNat) :
    host.QuitsAfter count ↔ last.frame.result = .ok false := by
  constructor
  · intro quits
    obtain ⟨made, ran, result, -⟩ := quits (count + 1) (Nat.lt_succ_self _)
    obtain ⟨further, bound⟩ := frameBound_eq allowed (Nat.lt_succ_self _)
    obtain ⟨rfl, -⟩ := mainLoop_eq_some_iff.mp ran
    rw [bound, frames.runFrames_add, runFrames, finish, windUp] at result
    cases frameResult : last.frame.result with
    | error error => simp [frameResult] at result
    | ok goesOn =>
        cases goesOn with
        | false => rfl
        | true =>
            -- One more frame is completed, and it would be counted.
            simp only [frameResult] at result
            split at result
            · have counted := Except.ok.inj result
              omega
            · have counted := Except.ok.inj result
              omega
            · cases result
  · intro quits patience patient
    obtain ⟨further, bound⟩ := frameBound_eq allowed patient
    have final := lastFrame_of_quit quits
    have run : host.runFrames (frameBound host.config patience) =
        ⟨count, .quit, last.frame.state, trace ++ last.frame.trace⟩ := by
      rw [bound, frames.runFrames_add, runFrames, quits]
      rfl
    have kept := host.config_runFrames (frameBound host.config patience)
    rw [run] at kept
    have ended := loopRun_finish frames (.frame allowed final) (.inl rfl) kept
    refine ⟨_, mainLoop_eq_some_iff.mpr ⟨rfl, ?_⟩, ?_, ?_⟩
    · intro unlimited
      rw [frameBound, unlimited, Option.map_none, Option.getD_none] at run
      rw [run]
      exact Ending.noConfusion
    · rw [run]
      exact ended.result_eq
    · rw [run]
      exact ended.counts.1.trans (by rw [final.counts.1])

/-! ## Scans that are heeded -/

/-- To turn a flag over and over is to turn it, if that is done oddly often. -/
theorem toggledBy_eq_iff {toggle : Command} {command : Option Command}
    {flag : Bool} {times : Nat} :
    toggledBy toggle command flag = not^[times] flag ↔
      (command = some toggle ↔ Odd times) := by
  rw [toggledBy]
  rcases Nat.even_or_odd times with even | odd
  · rw [Bool.involutive_not.iterate_even even, id, iff_false_right
      (Nat.not_odd_iff_even.mpr even)]
    cases flag <;> simp
  · rw [Bool.involutive_not.iterate_odd odd, iff_true_right odd]
    cases flag <;> simp

/-- Only Esc asks to quit. -/
theorem escape_mem_of_quit {events : List KeyEvent}
    (quit : lastCommand? events = some .quit) : .escape ∈ events := by
  obtain ⟨event, member, asks⟩ :=
    List.mem_filterMap.mp (List.mem_of_getLast? quit)
  cases event with
  | escape => exact member
  | character char =>
      unfold commandOf? at asks
      split at asks <;> simp_all
  | other => cases asks

/--
What the user may expect of a scan: Esc ends the run there; otherwise, if the
frame is completed, every `p` has toggled the pause and every `m` the tone.
-/
structure Heeds (host : Host Keyboard δ σ) (count : Nat)
    (last : Host Keyboard δ σ) : Prop where
  quits : .escape ∈ host.eventsAt count → host.QuitsAfter count
  toggles : .escape ∉ host.eventsAt count →
    ∀ next trace, CompletedFrame last next trace →
      next.machine.paused =
          not^[(host.eventsAt count).count (.character 'p')]
            last.machine.paused ∧
        next.muted =
          not^[(host.eventsAt count).count (.character 'm')] last.muted

/--
A scan is heeded if and only if no command behind an Esc overwrites it, and
without an Esc the last command is what all the toggles come to, unless a step
of the frame fails.
-/
theorem heeds_iff (working : host.Working)
    (frames : CompletedFrames host count last trace)
    (allowed : ∀ limit, host.config.maxFrames = some limit →
      count < limit.toNat) :
    host.Heeds count last ↔
      (.escape ∈ host.eventsAt count →
        lastCommand? (host.eventsAt count) = some .quit) ∧
      (.escape ∉ host.eventsAt count →
        last.Faults ∨
          ((lastCommand? (host.eventsAt count) = some .togglePause ↔
            Odd ((host.eventsAt count).count (.character 'p'))) ∧
          (lastCommand? (host.eventsAt count) = some .toggleMute ↔
            Odd ((host.eventsAt count).count (.character 'm'))))) := by
  have lastWorking := (working.after frames).1
  have seen := events_after working frames
  have quitsIff := quitsAfter_iff frames allowed
  rw [lastWorking.frame_result_eq_false_iff, seen] at quitsIff
  constructor
  · intro heeds
    refine ⟨fun escape => quitsIff.mp (heeds.quits escape), ?_⟩
    intro noEscape
    have going : lastCommand? last.events ≠ some .quit := by
      rw [seen]
      exact fun quit => noEscape (escape_mem_of_quit quit)
    rcases lastWorking.completed_or_faults going with
      ⟨next, trace, frame⟩ | faults
    · have settled := frame.settled lastWorking
      obtain ⟨paused, muted⟩ := heeds.toggles noEscape next trace frame
      rw [settled.paused_eq, seen] at paused
      rw [settled.muted_eq, seen] at muted
      exact .inr ⟨toggledBy_eq_iff.mp paused, toggledBy_eq_iff.mp muted⟩
    · exact .inl faults
  · rintro ⟨quits, toggles⟩
    refine ⟨fun escape => quitsIff.mpr (quits escape), ?_⟩
    intro noEscape next trace frame
    rcases toggles noEscape with faults | ⟨paused, muted⟩
    · obtain ⟨error, failed⟩ := faults.frame_result
      rw [frame.frame_eq] at failed
      cases failed
    · have settled := frame.settled lastWorking
      rw [settled.paused_eq, settled.muted_eq, seen]
      exact ⟨toggledBy_eq_iff.mpr paused, toggledBy_eq_iff.mpr muted⟩

/-- A host whose user presses these keys. -/
def attended (waiting : List (List Arrival)) :
    Host Keyboard FrameRecorder SilentSound :=
  .start ⟨10, 60, false, none, none⟩ (.ofSeed 0)
    ⟨Vector.replicate 16 0, waiting⟩ .empty ⟨false⟩

/-- A recorder and a silent device never fail. -/
theorem attended_working {waiting : List (List Arrival)}
    (readable : ∀ arrivals ∈ waiting, failure? arrivals = none) :
    (attended waiting).Working := by
  refine ⟨readable, fun _ _ => rfl, ?_⟩
  intro earlier on
  cases on <;> rfl

/-- An Esc behind another command ends the run. -/
theorem attended_heeds :
    let host :=
      attended [[.event (.character 'p'), .event .escape]]
    host.Working ∧ host.Heeds 0 host := by
  intro host
  have working : host.Working := attended_working (by decide)
  refine ⟨working, (heeds_iff working (.none host) ?_).mpr ⟨?_, ?_⟩⟩
  · intro limit limited
    cases limited
  · intro _
    decide
  · intro noEscape
    exact absurd (by decide) noEscape

/-- An Esc before another command is lost, and so is the first of two `p`. -/
theorem attended_not_heeded :
    let escaping :=
      attended [[.event .escape, .event (.character 'p')]]
    let toggling :=
      attended [[.event (.character 'p'), .event (.character 'p')]]
    escaping.Working ∧ ¬ escaping.Heeds 0 escaping ∧
      toggling.Working ∧ ¬ toggling.Heeds 0 toggling := by
  intro escaping toggling
  refine ⟨attended_working (by decide), ?_, attended_working (by decide), ?_⟩
  · intro heeds
    obtain ⟨made, ran, -⟩ := heeds.quits (by decide) 1 Nat.one_pos
    have unfinished : escaping.mainLoop? 1 = none := rfl
    rw [unfinished] at ran
    cases ran
  · intro heeds
    have result : toggling.frame.result = .ok true := rfl
    have frame := completedFrame_of_goesOn result
    have paused := (heeds.toggles (by decide) _ _ frame).1
    exact absurd paused (by decide)

end Host

end Chip8
