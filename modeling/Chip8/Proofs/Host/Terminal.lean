import Chip8.Device.Display
import Chip8.Device.Keyboard
import Chip8.Proofs.Host.Tone

/-!
# What a host asks of its terminal

A host with a keyboard and a display calls the terminal in one part of a frame
only, and only to draw.  The one other thing that it calls is the speaker.  So
it never gives away what it was given: however often it is asked to make
frames, and however they end, the screen and the keyboard are still taken over
afterwards, and the cursor is as it was.
-/

namespace Chip8

/-! ## Device calls -/

namespace DeviceCall

/-- Whether something is drawn. -/
def isDrawing : DeviceCall → Bool
  | .attempt .draw _ => true
  | .shown _ => true
  | _ => false

/-- Whether the speaker is called. -/
def isTone : DeviceCall → Bool
  | .attempt (.tone _) _ => true
  | _ => false

/-- Whether it is a call that a host makes under way. -/
def isPlaying (call : DeviceCall) : Bool :=
  call.isDrawing || call.isTone

end DeviceCall

/-- The device calls among some events. -/
def deviceCalls (trace : List Event) : List DeviceCall :=
  trace.filterMap Event.call?

@[simp]
theorem deviceCalls_append (earlier later : List Event) :
    deviceCalls (earlier ++ later) =
      deviceCalls earlier ++ deviceCalls later :=
  List.filterMap_append

theorem deviceCalls_map {α : Type} {event : α → Event} {items : List α}
    (silent : ∀ item ∈ items, (event item).call? = none) :
    deviceCalls (items.map event) = [] := by
  rw [deviceCalls, List.filterMap_map, List.filterMap_eq_nil_iff]
  exact silent

@[simp]
theorem deviceCalls_told (records : List LogRecord) :
    deviceCalls (records.map Event.told) = [] :=
  deviceCalls_map fun _ _ => rfl

/-- Only calls of some kinds are made. -/
def CallsOnly (allowed : DeviceCall → Bool) (trace : List Event) : Prop :=
  ∀ call ∈ deviceCalls trace, allowed call = true

namespace CallsOnly

variable {allowed wider : DeviceCall → Bool} {earlier later : List Event}

theorem of_silent (silent : deviceCalls earlier = []) :
    CallsOnly allowed earlier := by
  intro call member
  rw [silent] at member
  cases member

theorem append (first : CallsOnly allowed earlier)
    (second : CallsOnly allowed later) :
    CallsOnly allowed (earlier ++ later) := by
  intro call member
  rw [deviceCalls_append] at member
  rcases List.mem_append.mp member with before | behind
  · exact first call before
  · exact second call behind

theorem widen (made : CallsOnly allowed earlier)
    (more : ∀ call, allowed call = true → wider call = true) :
    CallsOnly wider earlier :=
  fun call member => more call (made call member)

/-- Both parts of an activity make only such calls, and so does the whole. -/
theorem andThen {ε τ α β : Type} {first : Activity Event ε τ α}
    {following : α → τ → Activity Event ε τ β}
    (begins : CallsOnly allowed first.trace)
    (goesOn : ∀ value state, CallsOnly allowed (following value state).trace) :
    CallsOnly allowed (first.andThen following).trace := by
  cases result : first.result with
  | ok value =>
      rw [Activity.andThen_of_ok result]
      exact begins.append (goesOn value first.state)
  | error error =>
      rw [Activity.andThen_of_error result]
      exact begins

end CallsOnly

theorem DeviceCall.isPlaying_of_isDrawing (call : DeviceCall)
    (drawing : call.isDrawing = true) : call.isPlaying = true := by
  rw [isPlaying, drawing, Bool.true_or]

theorem DeviceCall.isPlaying_of_isTone (call : DeviceCall)
    (tone : call.isTone = true) : call.isPlaying = true := by
  rw [isPlaying, tone, Bool.or_true]

/-! ## Sound devices that call nothing but the speaker -/

/-- To switch the tone, such devices call nothing but the speaker. -/
def TonesOnly (σ : Type) [SoundDevice σ] : Prop :=
  ∀ (sound : σ) (on : Bool),
    CallsOnly DeviceCall.isTone ((switchTone sound on).trace.map Event.sound)

theorem Speaker.tonesOnly : TonesOnly Speaker := by
  rintro ⟨beeping, starting, stopping⟩ on call member
  cases on with
  | true =>
      cases beeping with
      | true => cases member
      | false =>
          cases List.mem_singleton.mp member
          rfl
  | false =>
      cases beeping with
      | true =>
          cases List.mem_singleton.mp member
          rfl
      | false => cases member

theorem SilentSound.tonesOnly : TonesOnly SilentSound := by
  intro sound on
  cases on with
  | true => exact CallsOnly.of_silent rfl
  | false => exact CallsOnly.of_silent rfl

namespace Host

/-! ## The parts of a frame -/

section Parts

variable {ι δ σ : Type} (host : Host ι δ σ)

@[simp]
theorem deviceCalls_onMachine {α : Type}
    (action : Machine → Activity LogRecord Error Machine α) :
    deviceCalls (host.onMachine action).trace = [] :=
  deviceCalls_told _

theorem deviceCalls_obey (command : Option Command) :
    deviceCalls (host.obey command).trace = [] := by
  obtain ⟨-, records, told⟩ := host.obey_eq command
  rw [told, deviceCalls_told]

theorem deviceCalls_runFrame : deviceCalls host.runFrame.trace = [] := by
  rw [host.runFrame_eq_onMachine]
  exact host.deviceCalls_onMachine _

/-- What a keyboard emits is told; it calls no device. -/
theorem deviceCalls_scan (host : Host Keyboard δ σ) :
    deviceCalls host.scan.trace = [] := by
  have silent : deviceCalls ((InputDevice.scan host.input
      host.machine.keypad).trace.map Event.input) = [] := by
    apply deviceCalls_map
    intro item member
    simp only [InputDevice.scan, Keyboard.scan] at member
    split at member
    all_goals
      obtain ⟨telling, -, rfl⟩ := List.mem_map.mp member
      rfl
  rw [scan]
  dsimp only
  split
  · rw [deviceCalls_append, silent]
    rfl
  · rw [deviceCalls_append, silent]
    rfl

theorem callsOnly_afterSound
    {made : Activity Emission SoundError σ Unit} (event : Bool → Event)
    (tones : CallsOnly DeviceCall.isTone (made.trace.map Event.sound))
    (silent : ∀ succeeded, (event succeeded).call? = none) :
    CallsOnly DeviceCall.isTone (host.afterSound made event).trace := by
  rw [afterSound]
  split
  · refine tones.append (.of_silent ?_)
    rw [deviceCalls, List.filterMap_cons_none (silent true)]
    rfl
  · refine tones.append (.of_silent ?_)
    rw [deviceCalls, List.filterMap_cons_none (silent false)]
    rfl

theorem callsOnly_updateSound [SoundDevice σ] (tones : TonesOnly σ) :
    CallsOnly DeviceCall.isTone host.updateSound.trace := by
  rcases host.updateSound_cases with ⟨-, update⟩ | ⟨on, -, -, update⟩
  · rw [update]
    exact .of_silent rfl
  · rw [update]
    refine host.asked.callsOnly_afterSound _ (tones host.asked.sound on) ?_
    exact fun _ => by cases on <;> rfl

theorem callsOnly_present (host : Host ι TerminalDisplay σ) :
    CallsOnly DeviceCall.isDrawing host.present.trace := by
  intro call member
  simp only [present, DisplayDevice.draw, TerminalDisplay.draw] at member
  cases works : host.display.drawing.works with
  | true =>
      simp only [works, if_true] at member
      rcases List.mem_cons.mp member with rfl | shown
      · rfl
      · cases List.mem_singleton.mp shown
        rfl
  | false =>
      simp only [works, Bool.false_eq_true, if_false] at member
      cases List.mem_singleton.mp member
      rfl

theorem callsOnly_silence [SoundDevice σ] (tones : TonesOnly σ) :
    CallsOnly DeviceCall.isTone host.silence.2 := by
  have stopping := tones host.sound false
  rw [silence]
  split
  · exact stopping.append (.of_silent rfl)
  · exact stopping.append (.of_silent rfl)

end Parts

/-! ## Whole runs -/

variable {σ : Type} [SoundDevice σ]

theorem callsOnly_frame (tones : TonesOnly σ)
    (host : Host Keyboard TerminalDisplay σ) :
    CallsOnly DeviceCall.isPlaying host.frame.trace := by
  refine .andThen (.of_silent host.deviceCalls_scan) ?_
  intro command scanned
  split
  · exact .of_silent rfl
  refine .andThen (.of_silent (scanned.deviceCalls_obey command)) ?_
  intro _ obeyed
  refine .andThen (.of_silent obeyed.deviceCalls_runFrame) ?_
  intro _ ran
  refine .andThen ?_ ?_
  · exact (ran.callsOnly_updateSound tones).widen
      DeviceCall.isPlaying_of_isTone
  intro _ sounded
  refine .andThen ?_ fun _ _ => .of_silent rfl
  exact sounded.callsOnly_present.widen DeviceCall.isPlaying_of_isDrawing

theorem callsOnly_runFrames (tones : TonesOnly σ)
    (host : Host Keyboard TerminalDisplay σ) (limit : Nat) :
    CallsOnly DeviceCall.isPlaying (host.runFrames limit).trace := by
  induction limit generalizing host with
  | zero => exact .of_silent rfl
  | succ limit further =>
      have first := callsOnly_frame tones host
      rw [runFrames]
      cases host.frame.result with
      | error error => exact first
      | ok goesOn =>
          cases goesOn with
          | false => exact first
          | true => exact first.append (further host.frame.state)

theorem callsOnly_mainLoop (tones : TonesOnly σ)
    {host : Host Keyboard TerminalDisplay σ} {patience : Nat}
    {made : Activity Event Error (Host Keyboard TerminalDisplay σ) Nat}
    (ran : host.mainLoop? patience = some made) :
    CallsOnly DeviceCall.isPlaying made.trace := by
  obtain ⟨rfl, -⟩ := mainLoop_eq_some_iff.mp ran
  rw [finish_trace]
  refine .append (.append (.append (.of_silent rfl) ?_) ?_) (.of_silent rfl)
  · exact callsOnly_runFrames tones host _
  · exact (callsOnly_silence _ tones).widen DeviceCall.isPlaying_of_isTone

theorem callsOnly_load {ι δ : Type} (tones : TonesOnly σ)
    (host : Host ι δ σ) (fresh : RandomSource) (program : List UInt8) :
    CallsOnly DeviceCall.isTone (host.load fresh program).trace := by
  rw [load]
  split
  · exact .of_silent rfl
  · refine .andThen (.of_silent rfl) ?_
    exact fun _ loaded => loaded.callsOnly_updateSound tones

/-- Nothing that a host does moves what shows the cursor at the end. -/
theorem kept_cursor (cursor : Channel) :
    Kept fun host : Host Keyboard TerminalDisplay σ =>
      host.display.cursor = cursor where
  load host fresh program kept := by
    rw [load]
    split
    · exact kept
    next machine _ =>
      rw [Activity.andThen_of_ok rfl, updateSound_state]
      exact kept
  scan host kept := by
    rw [host.scan_state]
    exact kept
  obey host command kept := by
    rw [host.obey_state command]
    exact kept
  runFrame host kept := by
    rw [host.runFrame_state]
    exact kept
  updateSound host kept := by
    rw [host.updateSound_state]
    exact kept
  present host kept := by
    rw [← kept]
    simp only [present, DisplayDevice.draw, TerminalDisplay.draw]
    cases host.display.drawing.works with
    | true => rfl
    | false => rfl
  silence host kept := by
    rw [host.silence_state]
    exact kept

end Host

end Chip8
