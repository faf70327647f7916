import Chip8.Activity
import Chip8.Device.Call
import Chip8.Keypad
import Chip8.Log

/-!
# Events and kinds of devices

A host works with three devices: one brings the keypad up to date, one shows
frames and one sounds the tone.  Any state can serve as a device once it is
said what its calls do.  All that happens along the way is a sequence of
events.
-/

namespace Chip8

/-- What a user asks of the host. -/
inductive Command where
  /-- End the run. -/
  | quit
  /-- Pause the machine, or let it go on. -/
  | togglePause
  /-- Mute the tone, or let it sound. -/
  | toggleMute
  deriving DecidableEq

/-- What a device does or tells while it does what it is asked. -/
inductive Emission where
  /-- The terminal or the speaker was called. -/
  | call (call : DeviceCall)
  /-- Something was told. -/
  | told (record : LogRecord)
  deriving DecidableEq

/-- Something that happens while a host runs. -/
inductive Event where
  /-- The input device did this. -/
  | input (emission : Emission)
  /-- The display did this. -/
  | display (emission : Emission)
  /-- The sound device did this. -/
  | sound (emission : Emission)
  /-- The host or its machine told this. -/
  | told (record : LogRecord)
  /-- The keys were scanned, with this keypad and command. -/
  | scanned (keypad : Keypad) (command : Option Command)
  /-- The keys could not be scanned. -/
  | scanFailed (error : IoError)
  /-- The sound device was asked for the tone. -/
  | beep (succeeded : Bool)
  /-- The sound device was asked for silence. -/
  | stop (succeeded : Bool)
  /-- This frame was shown. -/
  | drew (frame : Frame)
  /-- A frame could not be shown. -/
  | drawFailed (error : IoError)
  deriving DecidableEq

namespace Emission

/-- The device call of an emission. -/
def call? : Emission → Option DeviceCall
  | .call made => some made
  | .told _ => none

/-- The log record of an emission. -/
def record? : Emission → Option LogRecord
  | .call _ => none
  | .told telling => some telling

end Emission

namespace Event

/-- What a device emitted, if the event is of that sort. -/
def emission? : Event → Option Emission
  | .input emission => some emission
  | .display emission => some emission
  | .sound emission => some emission
  | _ => none

/-- The device call of an event. -/
def call? (event : Event) : Option DeviceCall :=
  event.emission?.bind Emission.call?

/-- The log record of an event. -/
def record? : Event → Option LogRecord
  | .told telling => some telling
  | event => event.emission?.bind Emission.record?

end Event

/-- States that bring a keypad up to date. -/
class InputDevice (ι : Type) where
  /-- Bring the keypad up to date and report the command of the user. -/
  scan : ι → Keypad → Activity Emission IoError (ι × Keypad) (Option Command)

/-- States that show frames. -/
class DisplayDevice (δ : Type) where
  /-- Show a frame. -/
  draw : δ → Frame → Activity Emission IoError δ Unit

/-- States that sound the tone. -/
class SoundDevice (σ : Type) where
  /-- Let the tone sound. -/
  beep : σ → Activity Emission SoundError σ Unit
  /-- Let the tone stop. -/
  stop : σ → Activity Emission SoundError σ Unit
  /-- Answer whether the tone sounds; the answer may change the device. -/
  ask : σ → Bool × σ

/-- Whether the tone sounds, as the device answers next. -/
def SoundDevice.isBeeping {σ : Type} [SoundDevice σ] (sound : σ) : Bool :=
  (ask sound).1

end Chip8
