import Chip8.Device.Event

/-!
# Faulty devices

Devices that fail on purpose, to see how a host bears it.  An input device or
a display fails at one of its calls and is otherwise the device inside of it; a
stubborn sound device fails at all calls of a kind and may answer wrongly
whether the tone sounds.
-/

namespace Chip8

/-- An input device of which one scan fails. -/
structure FaultyInput (ι : Type) where
  /-- The device inside. -/
  inner : ι
  /-- How many scans were made. -/
  scans : Nat
  /-- The scan that fails, counting from one. -/
  failAt : Option Nat

namespace FaultyInput

/-- The error of the scan that fails. -/
def error : IoError := .device "keyboard failed"

instance {ι : Type} [InputDevice ι] : InputDevice (FaultyInput ι) where
  scan input keypad :=
    let counted := { input with scans := input.scans + 1 }
    if input.failAt = some counted.scans then
      ⟨.error error, (counted, keypad), []⟩
    else
      let made := InputDevice.scan input.inner keypad
      ⟨made.result, ({ counted with inner := made.state.1 }, made.state.2),
        made.trace⟩

end FaultyInput

/-- A display of which one drawing fails. -/
structure FaultyDisplay (δ : Type) where
  /-- The device inside. -/
  inner : δ
  /-- How many drawings were made. -/
  draws : Nat
  /-- The drawing that fails, counting from one. -/
  failAt : Option Nat

namespace FaultyDisplay

/-- The error of the drawing that fails. -/
def error : IoError := .device "screen failed"

instance {δ : Type} [DisplayDevice δ] : DisplayDevice (FaultyDisplay δ) where
  draw display frame :=
    let counted := { display with draws := display.draws + 1 }
    if display.failAt = some counted.draws then ⟨.error error, counted, []⟩
    else
      let made := DisplayDevice.draw display.inner frame
      ⟨made.result, { counted with inner := made.state }, made.trace⟩

end FaultyDisplay

/-- A sound device that need not do what it is asked. -/
structure StubbornSound where
  /-- Whether the tone cannot be started. -/
  beepFails : Bool
  /-- Whether the tone cannot be stopped. -/
  stopFails : Bool
  /-- What is always answered about the tone, if anything is. -/
  answer : Option Bool
  /-- Whether the tone sounds. -/
  beeping : Bool
  deriving DecidableEq

namespace StubbornSound

instance : SoundDevice StubbornSound where
  beep sound :=
    if sound.beepFails then ⟨.error ⟨"no speaker"⟩, sound, []⟩
    else .done () { sound with beeping := true }
  stop sound :=
    if sound.stopFails then ⟨.error ⟨"stuck speaker"⟩, sound, []⟩
    else .done () { sound with beeping := false }
  ask sound := (sound.answer.getD sound.beeping, sound)

end StubbornSound

end Chip8
