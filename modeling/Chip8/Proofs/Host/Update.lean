import Chip8.Host

/-!
# Updates of the sound

A host that brings the tone in line with its machine asks the sound device once
whether the tone sounds, and switches the tone if the answer is not what it is
to be.  Both may change the device, so what a device goes through is a list of
questions and switches.
-/

namespace Chip8

/-! ## What is done with a sound device -/

section Devices

variable {σ : Type} [SoundDevice σ]

/-- Switch the tone on or off. -/
def switchTone (sound : σ) : Bool → Activity Emission SoundError σ Unit
  | true => SoundDevice.beep sound
  | false => SoundDevice.stop sound

/-- What can be done with a sound device. -/
inductive SoundUse where
  /-- Ask it whether the tone sounds. -/
  | ask
  /-- Switch the tone on or off. -/
  | switch (on : Bool)

/-- A sound device after it was used. -/
def used (sound : σ) : SoundUse → σ
  | .ask => (SoundDevice.ask sound).2
  | .switch on => (switchTone sound on).state

/-- A sound device after it was used several times. -/
def usedAll (sound : σ) (uses : List SoundUse) : σ :=
  uses.foldl used sound

end Devices

namespace Event

/-- The call that switches the tone on or off, successfully or not. -/
def switched : (on succeeded : Bool) → Event
  | true => .beep
  | false => .stop

end Event

namespace Host

variable {ι δ σ : Type} [SoundDevice σ]

/-- Unless the tone is as it is to be, an update of the sound switches it. -/
theorem updateSound_cases (host : Host ι δ σ) :
    (SoundDevice.isBeeping host.sound = host.isAudible ∧
      host.updateSound = .done () host.asked) ∨
    ∃ on, host.isAudible = on ∧ SoundDevice.isBeeping host.sound = !on ∧
      host.updateSound = host.asked.afterSound
        (switchTone host.asked.sound on) (.switched on) := by
  rw [updateSound]
  cases audible : host.isAudible with
  | true =>
      cases answer : SoundDevice.isBeeping host.sound with
      | true => exact .inl ⟨rfl, rfl⟩
      | false => exact .inr ⟨true, rfl, rfl, rfl⟩
  | false =>
      cases answer : SoundDevice.isBeeping host.sound with
      | true => exact .inr ⟨false, rfl, rfl, rfl⟩
      | false => exact .inl ⟨rfl, rfl⟩

/-- An update changes nothing but the sound device and the muting. -/
theorem updateSound_state (host : Host ι δ σ) :
    host.updateSound.state =
      { host with
        sound := host.updateSound.state.sound
        muted := host.updateSound.state.muted } := by
  rcases host.updateSound_cases with ⟨-, update⟩ | ⟨on, -, -, update⟩
  · rw [update]
    rfl
  · rw [update, afterSound]
    split <;> rfl

end Host

end Chip8
