import Chip8.Config
import Chip8.Device.Event
import Chip8.Machine.Step

/-!
# The host

The host owns a machine and three devices.  In each frame it scans the keys,
obeys the command of the user, lets the machine make its steps, counts the
timers down once, brings the tone in line with the machine, and shows the frame.

A sound device that fails never stops the host: the tone is muted instead.
-/

namespace Chip8

/-- A host with its machine and its devices. -/
structure Host (ι δ σ : Type) where
  /-- The settings. -/
  config : Config
  /-- The machine. -/
  machine : Machine
  /-- The device for keys and commands. -/
  input : ι
  /-- The device for frames. -/
  display : δ
  /-- The device for the tone. -/
  sound : σ
  /-- Whether the tone is muted. -/
  muted : Bool

namespace Host

variable {ι δ σ : Type}

/-- A host whose machine has no program. -/
def start (config : Config) (fresh : RandomSource) (input : ι) (display : δ)
    (sound : σ) : Host ι δ σ where
  config := config
  machine := .powerUp (config.randomSource fresh)
  input := input
  display := display
  sound := sound
  muted := config.muted

/-- Do something to the machine. -/
def onMachine {α : Type} (host : Host ι δ σ)
    (action : Machine → Activity LogRecord Error Machine α) :
    Activity Event Error (Host ι δ σ) α :=
  let made := action host.machine
  ⟨made.result, { host with machine := made.state },
    made.trace.map Event.told⟩

/-! ## The tone -/

/-- Whether the tone is to sound. -/
def isAudible (host : Host ι δ σ) : Bool :=
  0 < host.machine.soundTimer && !host.muted && !host.machine.paused

/-- The host after a call to its sound device, which mutes it on failure. -/
def afterSound (host : Host ι δ σ)
    (made : Activity Emission SoundError σ Unit) (event : Bool → Event) :
    Activity Event Error (Host ι δ σ) Unit :=
  let emitted := made.trace.map Event.sound
  match made.result with
  | .ok () =>
      ⟨.ok (), { host with sound := made.state }, emitted ++ [event true]⟩
  | .error error =>
      ⟨.ok (), { host with sound := made.state, muted := true },
        emitted ++ [event false, .told (.soundFailed error)]⟩

/-- The host after its sound device was asked whether the tone sounds. -/
def asked [SoundDevice σ] (host : Host ι δ σ) : Host ι δ σ :=
  { host with sound := (SoundDevice.ask host.sound).2 }

/-- Bring the tone in line with the machine. -/
def updateSound [SoundDevice σ] (host : Host ι δ σ) :
    Activity Event Error (Host ι δ σ) Unit :=
  match host.isAudible, SoundDevice.isBeeping host.sound with
  | true, false =>
      host.asked.afterSound (SoundDevice.beep host.asked.sound) .beep
  | false, true =>
      host.asked.afterSound (SoundDevice.stop host.asked.sound) .stop
  | true, true => .done () host.asked
  | false, false => .done () host.asked

/-! ## Loading -/

/--
Replace the machine by a new one with a program.  If the program is too large,
nothing happens.
-/
def load [SoundDevice σ] (host : Host ι δ σ) (fresh : RandomSource)
    (program : List UInt8) : Activity Event Error (Host ι δ σ) Unit :=
  match Machine.withProgram (host.config.randomSource fresh) program with
  | .error error => ⟨.error error, host, []⟩
  | .ok machine =>
      (Activity.emit [.told (.loaded program.length)]
        { host with machine }).andThen fun () host => host.updateSound

/-! ## One frame -/

/-- Bring the keypad up to date. -/
def scan [InputDevice ι] (host : Host ι δ σ) :
    Activity Event Error (Host ι δ σ) (Option Command) :=
  let made := InputDevice.scan host.input host.machine.keypad
  let (input, keypad) := made.state
  let after := { host with input, machine := { host.machine with keypad } }
  let emitted := made.trace.map Event.input
  match made.result with
  | .ok command => ⟨.ok command, after, emitted ++ [.scanned keypad command]⟩
  | .error error =>
      ⟨.error (.io error), after, emitted ++ [.scanFailed error]⟩

/-- Obey a command other than to quit. -/
def obey (host : Host ι δ σ) :
    Option Command → Activity Event Error (Host ι δ σ) Unit
  | some .togglePause =>
      if host.machine.paused then host.onMachine Machine.resume
      else host.onMachine Machine.pause
  | some .toggleMute => .done () { host with muted := !host.muted }
  | some .quit => .done () host
  | none => .done () host

/-- The steps of one frame and, if none failed, one tick of the timers. -/
def runFrame (host : Host ι δ σ) : Activity Event Error (Host ι δ σ) Unit :=
  (host.onMachine fun machine =>
    machine.stepUpTo host.config.cyclesPerFrame.toNat).andThen fun () host =>
      .done () { host with machine := host.machine.tick }

/-- The steps and ticks of several frames, until one fails. -/
def runFrameTimes (host : Host ι δ σ) :
    (times : Nat) → Activity Event Error (Host ι δ σ) Unit
  | 0 => .done () host
  | times + 1 =>
      host.runFrame.andThen fun () host => host.runFrameTimes times

/-- Show the frame of the machine. -/
def present [DisplayDevice δ] (host : Host ι δ σ) :
    Activity Event Error (Host ι δ σ) Unit :=
  let made := DisplayDevice.draw host.display host.machine.frame
  let after := { host with display := made.state }
  let emitted := made.trace.map Event.display
  match made.result with
  | .ok () => ⟨.ok (), after, emitted ++ [.drew host.machine.frame]⟩
  | .error error =>
      ⟨.error (.io error), after, emitted ++ [.drawFailed error]⟩

/-- One frame; the result tells whether the run goes on. -/
def frame [InputDevice ι] [DisplayDevice δ] [SoundDevice σ]
    (host : Host ι δ σ) : Activity Event Error (Host ι δ σ) Bool :=
  host.scan.andThen fun command host =>
    if command = some .quit then .done false host
    else
      (host.obey command).andThen fun () host =>
        host.runFrame.andThen fun () host =>
          host.updateSound.andThen fun () host =>
            host.present.andThen fun () host => .done true host

end Host

end Chip8
