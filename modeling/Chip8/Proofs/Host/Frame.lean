import Chip8.Proofs.Host.Update
import Chip8.Proofs.Machine.Run

/-!
# The ways a frame can go

A frame is completed, or it is the last one of a run: because the user quits,
or because the scan, a step or the drawing fails.  `CompletedFrame` and
`LastFrame` say for each of these ways which parts of the frame are made and
which calls to the devices are seen in its trace; every frame goes one of them.

What the devices and the machine do besides is in the trace as well, but it is
no call: no part of a frame calls a device that is not its own.
-/

namespace Chip8

namespace Event

/-- Whether the event is a call of the host to one of its devices. -/
def isCall : Event → Bool
  | .input _ => false
  | .display _ => false
  | .sound _ => false
  | .told _ => false
  | .scanned _ _ => true
  | .scanFailed _ => true
  | .beep _ => true
  | .stop _ => true
  | .drew _ => true
  | .drawFailed _ => true

/-- Whether the event is a scan, successful or not. -/
def isScan : Event → Bool
  | .scanned _ _ => true
  | .scanFailed _ => true
  | _ => false

/-- Whether the event is a call to the sound device. -/
def isSoundCall : Event → Bool
  | .beep _ => true
  | .stop _ => true
  | _ => false

/-- Whether the event is a successful drawing. -/
def isDrew : Event → Bool
  | .drew _ => true
  | _ => false

end Event

/-- The calls among some events. -/
def callsOf (trace : List Event) : List Event :=
  trace.filter Event.isCall

@[simp]
theorem callsOf_append (earlier later : List Event) :
    callsOf (earlier ++ later) = callsOf earlier ++ callsOf later :=
  List.filter_append earlier later

/-- Where every item makes an event of another sort, none is of this sort. -/
theorem filter_map_eq_nil {α : Type} {test : Event → Bool} {event : α → Event}
    (silent : ∀ item, test (event item) = false) (items : List α) :
    (items.map event).filter test = [] := by
  rw [List.filter_eq_nil_iff]
  intro made member
  obtain ⟨item, -, rfl⟩ := List.mem_map.mp member
  rw [silent item]
  exact Bool.false_ne_true

/-- What is emitted under way is no call. -/
theorem callsOf_map {α : Type} {event : α → Event}
    (silent : ∀ item, (event item).isCall = false) (items : List α) :
    callsOf (items.map event) = [] :=
  filter_map_eq_nil silent items

/-- The calls of a kind are found among the calls. -/
theorem filter_callsOf {test : Event → Bool}
    (calls : ∀ event, test event → event.isCall) (trace : List Event) :
    trace.filter test = (callsOf trace).filter test := by
  rw [callsOf, List.filter_filter]
  apply List.filter_congr
  intro event _
  rw [Bool.eq_iff_iff, Bool.and_eq_true]
  exact ⟨fun holds => ⟨holds, calls event holds⟩, fun both => both.1⟩

/-- The number of calls of a kind is their number among the calls. -/
theorem countP_callsOf {test : Event → Bool}
    (calls : ∀ event, test event → event.isCall) (trace : List Event) :
    trace.countP test = (callsOf trace).countP test := by
  rw [List.countP_eq_length_filter, List.countP_eq_length_filter,
    filter_callsOf calls]

/-- Calls to the sound device are neither scans nor drawings. -/
theorem countP_soundCalls {test : Event → Bool}
    (others : ∀ event, event.isSoundCall → test event = false)
    {tone : List Event} (sound_calls : ∀ call ∈ tone, call.isSoundCall) :
    tone.countP test = 0 := by
  rw [List.countP_eq_zero]
  intro call member
  rw [others call (sound_calls call member)]
  exact Bool.false_ne_true

namespace Event

theorem isCall_of_isScan (event : Event) (scan : event.isScan) :
    event.isCall := by
  cases event <;> trivial

theorem isCall_of_isDrew (event : Event) (drew : event.isDrew) :
    event.isCall := by
  cases event <;> trivial

theorem isCall_of_isSoundCall (event : Event) (sound : event.isSoundCall) :
    event.isCall := by
  cases event <;> trivial

theorem isSoundCall_switched (on succeeded : Bool) :
    (switched on succeeded).isSoundCall := by
  cases on <;> rfl

theorem isScan_of_isSoundCall (event : Event) (sound : event.isSoundCall) :
    event.isScan = false := by
  cases event <;> trivial

theorem isDrew_of_isSoundCall (event : Event) (sound : event.isSoundCall) :
    event.isDrew = false := by
  cases event <;> trivial

end Event

namespace Machine

/-- If the steps of a frame fail, the last one of them has failed. -/
theorem stepUpTo_error {machine : Machine} {limit : Nat} {error : Error}
    (failed : (machine.stepUpTo limit).result = .error error) :
    ∃ steps, steps < limit ∧
      (machine.after (List.replicate steps .step)).step.result =
        .error error := by
  induction limit generalizing machine with
  | zero => cases failed
  | succ limit further =>
      rw [stepUpTo] at failed
      cases result : machine.step.result with
      | error cause =>
          rw [Activity.andThen_of_error result] at failed
          cases failed
          exact ⟨0, Nat.succ_pos limit, result⟩
      | ok outcome =>
          rw [Activity.andThen_of_ok result] at failed
          cases progress : outcome.madeProgress with
          | false =>
              rw [progress] at failed
              cases failed
          | true =>
              rw [progress] at failed
              obtain ⟨steps, fewer, cause⟩ := further failed
              exact ⟨steps + 1, Nat.succ_lt_succ fewer, cause⟩

end Machine

namespace Host

variable {ι δ σ : Type}

/-! ## The parts of a frame -/

section Parts

variable (host : Host ι δ σ)

theorem callsOf_onMachine {α : Type}
    (action : Machine → Activity LogRecord Error Machine α) :
    callsOf (host.onMachine action).trace = [] :=
  callsOf_map (fun _ => rfl) _

/-- A frame without its devices is an affair of the machine. -/
theorem runFrame_eq_onMachine :
    host.runFrame = host.onMachine fun machine =>
      (machine.stepUpTo host.config.cyclesPerFrame.toNat).andThen
        fun () machine => .done () machine.tick := by
  rw [runFrame, onMachine, onMachine]
  cases stepped :
      (host.machine.stepUpTo host.config.cyclesPerFrame.toNat).result with
  | ok value => simp [Activity.andThen, Activity.done, stepped]
  | error error => simp [Activity.andThen, stepped]

theorem runFrame_result :
    host.runFrame.result =
      (host.machine.stepUpTo host.config.cyclesPerFrame.toNat).result := by
  rw [host.runFrame_eq_onMachine, onMachine]
  cases result :
      (host.machine.stepUpTo host.config.cyclesPerFrame.toNat).result with
  | error error => rw [Activity.andThen_of_error result]
  | ok value =>
      rw [Activity.andThen_of_ok result]
      rfl

/-- A scan calls the input device once and changes only the keypad. -/
theorem scan_eq [InputDevice ι] :
    (∃ command,
      (InputDevice.scan host.input host.machine.keypad).result =
          .ok command ∧
        host.scan.result = .ok command ∧
        callsOf host.scan.trace =
          [.scanned host.scan.state.machine.keypad command]) ∨
    ∃ error,
      (InputDevice.scan host.input host.machine.keypad).result =
          .error error ∧
        host.scan.result = .error (.io error) ∧
        callsOf host.scan.trace = [.scanFailed error] := by
  have silent : ∀ items : List Emission,
      callsOf (items.map Event.input) = [] := callsOf_map fun _ => rfl
  rw [scan]
  cases (InputDevice.scan host.input host.machine.keypad).result with
  | ok command =>
      refine .inl ⟨command, rfl, rfl, ?_⟩
      rw [callsOf_append, silent]
      rfl
  | error error =>
      refine .inr ⟨error, rfl, rfl, ?_⟩
      rw [callsOf_append, silent]
      rfl

/-- What a scan leaves behind is what the input device has left behind. -/
theorem scan_left [InputDevice ι] :
    (InputDevice.scan host.input host.machine.keypad).state =
      (host.scan.state.input, host.scan.state.machine.keypad) := by
  rw [scan]
  cases (InputDevice.scan host.input host.machine.keypad).result <;> rfl

theorem scan_machine [InputDevice ι] :
    host.scan.state.machine =
      { host.machine with keypad := host.scan.state.machine.keypad } := by
  rw [scan]
  cases (InputDevice.scan host.input host.machine.keypad).result <;> rfl

/-! What the parts of a frame leave alone, stated as a whole for each part. -/

theorem scan_state [InputDevice ι] :
    host.scan.state =
      { host with
        input := host.scan.state.input
        machine := host.scan.state.machine } := by
  rw [scan]
  cases (InputDevice.scan host.input host.machine.keypad).result <;> rfl

theorem obey_state (command : Option Command) :
    (host.obey command).state =
      { host with
        machine := (host.obey command).state.machine
        muted := (host.obey command).state.muted } := by
  cases command with
  | none => rfl
  | some command =>
      cases command with
      | quit => rfl
      | toggleMute => rfl
      | togglePause =>
          rw [obey]
          split <;> rfl

theorem runFrame_state :
    host.runFrame.state =
      { host with machine := host.runFrame.state.machine } := by
  rw [host.runFrame_eq_onMachine]
  rfl

theorem present_state [DisplayDevice δ] :
    host.present.state =
      { host with
        display :=
          (DisplayDevice.draw host.display host.machine.frame).state } := by
  rw [present]
  cases (DisplayDevice.draw host.display host.machine.frame).result <;> rfl

/--
Obeying a command always succeeds, and nothing is seen of it but what the
machine tells.
-/
theorem obey_eq (command : Option Command) :
    (host.obey command).result = .ok () ∧
      ∃ records : List LogRecord,
        (host.obey command).trace = records.map Event.told := by
  cases command with
  | none => exact ⟨rfl, [], rfl⟩
  | some command =>
      cases command with
      | quit => exact ⟨rfl, [], rfl⟩
      | toggleMute => exact ⟨rfl, [], rfl⟩
      | togglePause =>
          rw [obey]
          split
          · exact ⟨rfl, _, rfl⟩
          · exact ⟨rfl, _, rfl⟩

theorem callsOf_obey (command : Option Command) :
    callsOf (host.obey command).trace = [] := by
  obtain ⟨-, records, told⟩ := host.obey_eq command
  rw [told]
  exact callsOf_map (fun _ => rfl) records

/-- The steps and the tick of a frame call no device. -/
theorem callsOf_runFrame : callsOf host.runFrame.trace = [] := by
  rw [host.runFrame_eq_onMachine]
  exact host.callsOf_onMachine _

/-- What fails in the steps and the tick of a frame is a step. -/
theorem runFrame_error {error : Error}
    (failed : host.runFrame.result = .error error) :
    ∃ steps,
      (host.machine.after (List.replicate steps .step)).step.result =
        .error error := by
  rw [host.runFrame_result] at failed
  rcases Machine.stepUpTo_error failed with ⟨steps, -, cause⟩
  exact ⟨steps, cause⟩

/-- After a call to the sound device the run goes on. -/
theorem afterSound_eq (made : Activity Emission SoundError σ Unit)
    (event : Bool → Event) (call : ∀ succeeded, (event succeeded).isCall) :
    (host.afterSound made event).result = .ok () ∧
      (host.afterSound made event).state.machine = host.machine ∧
      ∃ succeeded, callsOf (host.afterSound made event).trace =
        [event succeeded] := by
  have silent : callsOf (made.trace.map Event.sound) = [] :=
    callsOf_map (fun _ => rfl) _
  rw [afterSound]
  cases made.result with
  | ok value =>
      refine ⟨rfl, rfl, true, ?_⟩
      rw [callsOf_append, silent]
      exact List.filter_cons_of_pos (call true)
  | error error =>
      refine ⟨rfl, rfl, false, ?_⟩
      rw [callsOf_append, silent]
      exact List.filter_cons_of_pos (call false)

/-- The tone is changed by at most one call, and the run goes on. -/
theorem updateSound_eq [SoundDevice σ] :
    host.updateSound.result = .ok () ∧
      host.updateSound.state.machine = host.machine ∧
      ∀ call ∈ callsOf host.updateSound.trace, call.isSoundCall := by
  rcases host.updateSound_cases with ⟨-, update⟩ | ⟨on, -, -, update⟩
  · rw [update]
    exact ⟨rfl, rfl, fun _ member => absurd member List.not_mem_nil⟩
  · have sounds := Event.isSoundCall_switched on
    obtain ⟨result, machine, succeeded, calls⟩ :=
      host.asked.afterSound_eq (switchTone host.asked.sound on) (.switched on)
        fun succeeded => Event.isCall_of_isSoundCall _ (sounds succeeded)
    rw [update]
    refine ⟨result, machine, ?_⟩
    rw [calls, List.forall_mem_singleton]
    exact sounds succeeded

/-- The display is called once, with the frame of the machine. -/
theorem present_eq [DisplayDevice δ] :
    ((DisplayDevice.draw host.display host.machine.frame).result = .ok () ∧
      host.present.result = .ok () ∧
      callsOf host.present.trace = [.drew host.machine.frame]) ∨
    ∃ error,
      (DisplayDevice.draw host.display host.machine.frame).result =
          .error error ∧
        host.present.result = .error (.io error) ∧
        callsOf host.present.trace = [.drawFailed error] := by
  have silent : ∀ items : List Emission,
      callsOf (items.map Event.display) = [] := callsOf_map fun _ => rfl
  rw [present]
  cases (DisplayDevice.draw host.display host.machine.frame).result with
  | ok value =>
      refine .inl ⟨rfl, rfl, ?_⟩
      rw [callsOf_append, silent]
      rfl
  | error error =>
      refine .inr ⟨error, rfl, rfl, ?_⟩
      rw [callsOf_append, silent]
      rfl

end Parts

/-! ## Whole frames -/

variable {host obeyed ran sounded next : Host ι δ σ}
  {command : Option Command} {trace : List Event} [InputDevice ι]

/--
The beginning of a frame in which the user does not quit: a scan, which is the
only call, and what its command asks for.
-/
inductive Begun (host : Host ι δ σ) (command : Option Command) :
    Host ι δ σ → List Event → Prop where
  | made {scanned obeyed : Host ι δ σ} {scanning obeying : List Event}
      (device : (InputDevice.scan host.input host.machine.keypad).result =
        .ok command)
      (left : (InputDevice.scan host.input host.machine.keypad).state =
        (scanned.input, scanned.machine.keypad))
      (scan : host.scan = ⟨.ok command, scanned, scanning⟩)
      (going : command ≠ some .quit)
      (obey : scanned.obey command = ⟨.ok (), obeyed, obeying⟩)
      (scan_calls :
        callsOf scanning = [.scanned scanned.machine.keypad command])
      (obey_calls : callsOf obeying = []) :
      Begun host command obeyed (scanning ++ obeying)

theorem Begun.calls (begun : Begun host command obeyed trace) :
    ∃ keypad, callsOf trace = [.scanned keypad command] := by
  cases begun with
  | @made scanned _ scanning obeying _ _ scan going obey scan_calls obey_calls =>
      refine ⟨scanned.machine.keypad, ?_⟩
      rw [callsOf_append, scan_calls, obey_calls]
      rfl

variable [SoundDevice σ]

/--
A frame up to its drawing: after the beginning come the steps and the tick,
which leave the host `ran`, and the tone, for which only the sound device is
called.
-/
inductive Played (host : Host ι δ σ) (command : Option Command)
    (ran : Host ι δ σ) : Host ι δ σ → List Event → Prop where
  | made {obeyed sounded : Host ι δ σ}
      {beginning running sounding : List Event}
      (begun : Begun host command obeyed beginning)
      (run : obeyed.runFrame = ⟨.ok (), ran, running⟩)
      (sound : ran.updateSound = ⟨.ok (), sounded, sounding⟩)
      (run_calls : callsOf running = [])
      (sound_calls : ∀ call ∈ callsOf sounding, call.isSoundCall) :
      Played host command ran sounded (beginning ++ running ++ sounding)

theorem Played.calls (played : Played host command ran sounded trace) :
    ∃ keypad tone, callsOf trace = .scanned keypad command :: tone ∧
      ∀ call ∈ tone, call.isSoundCall := by
  cases played with
  | @made _ _ _ _ sounding begun run sound run_calls sound_calls =>
      obtain ⟨keypad, begin_calls⟩ := begun.calls
      refine ⟨keypad, callsOf sounding, ?_, sound_calls⟩
      rw [callsOf_append, callsOf_append, begin_calls, run_calls]
      rfl

variable [DisplayDevice δ]

/--
A frame in which nothing fails and the user does not quit: it ends with the
drawing of the frame as the steps and the tick have left it.
-/
inductive CompletedFrame (host : Host ι δ σ) :
    Host ι δ σ → List Event → Prop where
  | made {command : Option Command} {ran sounded next : Host ι δ σ}
      {playing drawing : List Event}
      (played : Played host command ran sounded playing)
      (device : (DisplayDevice.draw sounded.display
        ran.machine.frame).result = .ok ())
      (left : next = { sounded with
        display :=
          (DisplayDevice.draw sounded.display ran.machine.frame).state })
      (draw : sounded.present = ⟨.ok (), next, drawing⟩)
      (draw_calls : callsOf drawing = [.drew ran.machine.frame]) :
      CompletedFrame host next (playing ++ drawing)

/-- A completed frame scans once, then changes the tone, then draws once. -/
theorem CompletedFrame.calls (frame : CompletedFrame host next trace) :
    ∃ keypad command tone shown,
      callsOf trace = .scanned keypad command :: tone ++ [.drew shown] ∧
        ∀ call ∈ tone, call.isSoundCall := by
  cases frame with
  | @made command ran _ _ _ _ played _ _ draw draw_calls =>
      obtain ⟨keypad, tone, play_calls, sound_calls⟩ := played.calls
      refine ⟨keypad, command, tone, ran.machine.frame, ?_, sound_calls⟩
      rw [callsOf_append, play_calls, draw_calls]

/-- A frame after which no other frame is made, and how it ends. -/
inductive LastFrame (host : Host ι δ σ) :
    Except Error Unit → Host ι δ σ → List Event → Prop where
  /-- The user quits: nothing but the keypad of the machine has changed. -/
  | quit {scanned : Host ι δ σ} {scanning : List Event}
      (device : (InputDevice.scan host.input host.machine.keypad).result =
        .ok (some .quit))
      (scan : host.scan = ⟨.ok (some .quit), scanned, scanning⟩)
      (untouched : scanned.machine =
        { host.machine with keypad := scanned.machine.keypad })
      (scan_calls : callsOf scanning =
        [.scanned scanned.machine.keypad (some .quit)]) :
      LastFrame host (.ok ()) scanned scanning
  /-- The input device fails. -/
  | scanFailed {error : IoError} {scanned : Host ι δ σ}
      {scanning : List Event}
      (device : (InputDevice.scan host.input host.machine.keypad).result =
        .error error)
      (scan : host.scan = ⟨.error (.io error), scanned, scanning⟩)
      (scan_calls : callsOf scanning = [.scanFailed error]) :
      LastFrame host (.error (.io error)) scanned scanning
  /-- A step of the machine fails. -/
  | stepFailed {command : Option Command} {error : Error}
      {obeyed ran : Host ι δ σ} {beginning running : List Event}
      (begun : Begun host command obeyed beginning)
      (step : ∃ steps, (obeyed.machine.after
        (List.replicate steps .step)).step.result = .error error)
      (run : obeyed.runFrame = ⟨.error error, ran, running⟩)
      (run_calls : callsOf running = []) :
      LastFrame host (.error error) ran (beginning ++ running)
  /-- The display fails. -/
  | drawFailed {command : Option Command} {error : IoError}
      {ran sounded drawn : Host ι δ σ} {playing drawing : List Event}
      (played : Played host command ran sounded playing)
      (device : (DisplayDevice.draw sounded.display
        ran.machine.frame).result = .error error)
      (left : drawn = { sounded with
        display :=
          (DisplayDevice.draw sounded.display ran.machine.frame).state })
      (draw : sounded.present = ⟨.error (.io error), drawn, drawing⟩)
      (draw_calls : callsOf drawing = [.drawFailed error]) :
      LastFrame host (.error (.io error)) drawn (playing ++ drawing)

/-- The ways in which a frame can go. -/
inductive FrameCase (host : Host ι δ σ) : Prop where
  /-- The frame is completed. -/
  | completed (result : host.frame.result = .ok true)
      (frame : CompletedFrame host host.frame.state host.frame.trace)
  /-- The user quits. -/
  | quit (result : host.frame.result = .ok false)
      (frame : LastFrame host (.ok ()) host.frame.state host.frame.trace)
  /-- Something fails. -/
  | failed (error : Error) (result : host.frame.result = .error error)
      (frame : LastFrame host (.error error) host.frame.state
        host.frame.trace)

/-- A frame that goes on after its scan completes, or a part of it fails. -/
theorem frameCase_of_going {host scanned : Host ι δ σ}
    {command : Option Command} {scanning : List Event}
    (device : (InputDevice.scan host.input host.machine.keypad).result =
      .ok command)
    (left : (InputDevice.scan host.input host.machine.keypad).state =
      (scanned.input, scanned.machine.keypad))
    (scan : host.scan = ⟨.ok command, scanned, scanning⟩)
    (going : command ≠ some .quit)
    (scan_calls :
      callsOf scanning = [.scanned scanned.machine.keypad command]) :
    FrameCase host := by
  have obeyOk := (scanned.obey_eq command).1
  have obey_calls := scanned.callsOf_obey command
  have obey := Activity.eq_of_result obeyOk
  generalize (scanned.obey command).state = obeyed at obey
  generalize (scanned.obey command).trace = obeying at obey obey_calls
  have begun : Begun host command obeyed (scanning ++ obeying) :=
    .made device left scan going obey scan_calls obey_calls
  have run_calls := obeyed.callsOf_runFrame
  cases runResult : obeyed.runFrame.result with
  | error error =>
      have step := obeyed.runFrame_error runResult
      have run := Activity.eq_of_result runResult
      have frame : host.frame =
          ⟨.error error, obeyed.runFrame.state,
            scanning ++ obeying ++ obeyed.runFrame.trace⟩ := by
        rw [Host.frame, scan]
        simp [Activity.andThen, going, obey, runResult]
      refine .failed error (by rw [frame]) ?_
      rw [frame]
      exact .stepFailed begun step run run_calls
  | ok value =>
      have run := Activity.eq_of_result runResult
      generalize obeyed.runFrame.state = ran at run
      generalize obeyed.runFrame.trace = running at run run_calls
      obtain ⟨soundOk, sound_machine, sound_calls⟩ := ran.updateSound_eq
      have sound := Activity.eq_of_result soundOk
      generalize ran.updateSound.state = sounded at sound sound_machine
      generalize ran.updateSound.trace = sounding at sound sound_calls
      have played : Played host command ran sounded
          (scanning ++ obeying ++ running ++ sounding) :=
        .made begun run sound run_calls sound_calls
      have shown : sounded.machine.frame = ran.machine.frame :=
        congrArg Machine.frame sound_machine
      rcases sounded.present_eq with
        ⟨device, drawOk, draw_calls⟩ | ⟨error, device, drawError, draw_calls⟩
      · have draw := Activity.eq_of_result drawOk
        have frame : host.frame =
            ⟨.ok true, sounded.present.state,
              scanning ++ obeying ++ running ++ sounding ++
                sounded.present.trace⟩ := by
          rw [Host.frame, scan]
          simp [Activity.andThen, Activity.done, going, obey, run, sound,
            drawOk]
        have left := sounded.present_state
        rw [shown] at device left draw_calls
        refine .completed (by rw [frame]) ?_
        rw [frame]
        exact .made played device left draw draw_calls
      · have draw := Activity.eq_of_result drawError
        have frame : host.frame =
            ⟨.error (.io error), sounded.present.state,
              scanning ++ obeying ++ running ++ sounding ++
                sounded.present.trace⟩ := by
          rw [Host.frame, scan]
          simp [Activity.andThen, going, obey, run, sound, drawError]
        have left := sounded.present_state
        rw [shown] at device left
        refine .failed (.io error) (by rw [frame]) ?_
        rw [frame]
        exact .drawFailed played device left draw draw_calls

/-- Every frame goes one of these ways. -/
theorem frameCase (host : Host ι δ σ) : FrameCase host := by
  rcases host.scan_eq with
    ⟨command, device, scanOk, scan_calls⟩ |
      ⟨error, device, scanError, scan_calls⟩
  · have scan := Activity.eq_of_result scanOk
    by_cases quit : command = some .quit
    · subst quit
      have frame : host.frame =
          ⟨.ok false, host.scan.state, host.scan.trace⟩ := by
        rw [Host.frame, scan]
        simp [Activity.andThen, Activity.done]
      refine .quit (by rw [frame]) ?_
      rw [frame]
      exact .quit device scan host.scan_machine scan_calls
    · exact frameCase_of_going device host.scan_left scan quit scan_calls
  · have scan := Activity.eq_of_result scanError
    have frame : host.frame =
        ⟨.error (.io error), host.scan.state, host.scan.trace⟩ :=
      Activity.andThen_of_error scanError _
    refine .failed (.io error) (by rw [frame]) ?_
    rw [frame]
    exact .scanFailed device scan scan_calls

end Host

end Chip8
