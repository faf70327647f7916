import Chip8.Device.Event

/-!
# Sound devices

A speaker is called only when the tone has to change, and it takes note of the
change only after the call succeeded; so a failed call is tried again.  A
silent device keeps account of the tone and makes no call.
-/

namespace Chip8

/-- A speaker. -/
structure Speaker where
  /-- Whether the tone sounds. -/
  beeping : Bool
  /-- The calls that start the tone. -/
  starting : Channel
  /-- The calls that stop the tone. -/
  stopping : Channel

namespace Speaker

/-- The pitch of the tone, an A. -/
def pitch : Nat := 440

/-- A speaker that is silent. -/
def silent (starting stopping : Channel) : Speaker :=
  ⟨false, starting, stopping⟩

/-- The result of a call to the speaker. -/
def resultOf (pitch : Nat) (succeeded : Bool) : Except SoundError Unit :=
  if succeeded then .ok () else .error ⟨(DeviceAction.tone pitch).failure⟩

/-- Let the tone sound. -/
def beep (speaker : Speaker) : Activity Emission SoundError Speaker Unit :=
  if speaker.beeping then .done () speaker
  else
    let works := speaker.starting.works
    { result := resultOf pitch works
      state := { speaker with
        beeping := works
        starting := speaker.starting.next }
      trace := [.call (.attempt (.tone pitch) works)] }

/-- Let the tone stop. -/
def stop (speaker : Speaker) : Activity Emission SoundError Speaker Unit :=
  if speaker.beeping then
    let works := speaker.stopping.works
    { result := resultOf 0 works
      state := { speaker with
        beeping := !works
        stopping := speaker.stopping.next }
      trace := [.call (.attempt (.tone 0) works)] }
  else .done () speaker

instance : SoundDevice Speaker where
  beep := beep
  stop := stop
  ask speaker := (speaker.beeping, speaker)

/-- What happens when the speaker is given back; a failure changes nothing. -/
def close (speaker : Speaker) : List Emission :=
  speaker.stop.trace

end Speaker

/-- A device that makes no sound. -/
structure SilentSound where
  /-- Whether the tone would sound. -/
  beeping : Bool
  deriving DecidableEq

namespace SilentSound

/-- Take note that the tone would sound. -/
def beep (_sound : SilentSound) :
    Activity Emission SoundError SilentSound Unit :=
  .done () ⟨true⟩

/-- Take note that the tone would stop. -/
def stop (_sound : SilentSound) :
    Activity Emission SoundError SilentSound Unit :=
  .done () ⟨false⟩

instance : SoundDevice SilentSound where
  beep := beep
  stop := stop
  ask silent := (silent.beeping, silent)

end SilentSound

end Chip8
