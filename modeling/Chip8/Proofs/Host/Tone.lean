import Chip8.Proofs.Host.Commands
import Chip8.Proofs.Host.Run

/-!
# The tone follows the machine

A sound device is obedient if the tone sounds after a successful call for it,
is silent after a successful call for silence, and stays as it was when a call
fails or when the device is asked about it.  A speaker is obedient whatever
becomes of its calls, and so is a silent device.

With an obedient device every update of the sound tunes the host: the tone
sounds just when it is to sound, unless the update could not stop it, and after
a failure it is muted.  For the one exception nothing else can be said: the
tone goes on although it is muted, and the next update tries again to stop it.
At the end of a run there is no tone, unless the last call could not stop it.
-/

namespace Chip8

/-! ## Obedient devices -/

section Devices

variable {σ : Type} [SoundDevice σ]

/-- What a device that is obedient does with a question or a call. -/
structure Obeys (sound : σ) : Prop where
  /-- A question leaves the tone alone. -/
  asked : SoundDevice.isBeeping (used sound .ask) =
    SoundDevice.isBeeping sound
  /-- A call that succeeds switches the tone, and others leave it alone. -/
  switched : ∀ on, SoundDevice.isBeeping (used sound (.switch on)) =
    match (switchTone sound on).result with
    | .ok () => on
    | .error _ => SoundDevice.isBeeping sound

/-- The device obeys whatever was done with it before. -/
def Obedient (sound : σ) : Prop :=
  ∀ earlier, Obeys (usedAll sound earlier)

theorem Obedient.obeys {sound : σ} (obedient : Obedient sound) :
    Obeys sound :=
  obedient []

theorem Obedient.next {sound : σ} (obedient : Obedient sound)
    (use : SoundUse) : Obedient (used sound use) :=
  fun earlier => obedient (use :: earlier)

end Devices

theorem Speaker.obedient (speaker : Speaker) : Obedient speaker := by
  intro earlier
  generalize usedAll speaker earlier = before
  rcases before with ⟨beeping, starting, stopping⟩
  refine ⟨rfl, fun on => ?_⟩
  -- A speaker makes no call for what it does already.
  cases on with
  | true =>
      simp only [used, switchTone, SoundDevice.beep, SoundDevice.isBeeping,
        SoundDevice.ask, beep]
      cases beeping with
      | true => rfl
      | false => cases works : starting.works <;> simp [resultOf]
  | false =>
      simp only [used, switchTone, SoundDevice.stop, SoundDevice.isBeeping,
        SoundDevice.ask, stop]
      cases beeping with
      | true => cases works : stopping.works <;> simp [resultOf]
      | false => rfl

theorem SilentSound.obedient (silent : SilentSound) : Obedient silent := by
  intro earlier
  refine ⟨rfl, fun on => ?_⟩
  cases on with
  | true => rfl
  | false => rfl

namespace Host

variable {ι δ σ : Type} {host : Host ι δ σ}

/-- The tone is to sound while its timer runs and nothing is in its way. -/
theorem isAudible_iff :
    host.isAudible = true ↔
      0 < host.machine.soundTimer ∧ host.muted = false ∧
        host.machine.paused = false := by
  simp [isAudible, and_assoc]

variable [SoundDevice σ] {trace earlier : List Event}

/-! ## Updates of the sound -/

/--
The sound as it is to be: the tone sounds if and only if the timer runs and the
tone is not muted and the machine not paused, or else the only call was one for
silence, which failed; and after a call that failed the tone is muted.
-/
structure Tuned (host : Host ι δ σ) (trace : List Event) : Prop where
  tone :
    (SoundDevice.isBeeping host.sound = true ↔
      0 < host.machine.soundTimer ∧ host.muted = false ∧
        host.machine.paused = false) ∨
    trace.filter Event.isSoundCall = [.stop false]
  muted : .beep false ∈ trace ∨ .stop false ∈ trace → host.muted = true

/-- Nothing that comes before the calls to the sound device untunes a host. -/
theorem Tuned.after (tuned : Tuned host trace)
    (quiet : earlier.filter Event.isSoundCall = []) :
    Tuned host (earlier ++ trace) := by
  have remains : ∀ call : Event, call.isSoundCall →
      call ∈ earlier ++ trace → call ∈ trace := by
    intro call sound member
    rcases List.mem_append.mp member with before | now
    · exact absurd sound (List.filter_eq_nil_iff.mp quiet call before)
    · exact now
  constructor
  · rw [List.filter_append, quiet, List.nil_append]
    exact tuned.tone
  · intro failed
    exact tuned.muted (failed.imp (remains _ rfl) (remains _ rfl))

theorem filter_isSoundCall_emitted (items : List Emission)
    (events : List Event) :
    (items.map Event.sound ++ events).filter Event.isSoundCall =
      events.filter Event.isSoundCall := by
  rw [List.filter_append, filter_map_eq_nil (fun _ => rfl), List.nil_append]

/-- A host whose tone is as it is to be is tuned when no call has failed. -/
theorem tuned_of_answer
    (answer : SoundDevice.isBeeping host.sound = host.isAudible)
    (starts : .beep false ∉ trace) (stops : .stop false ∉ trace) :
    Tuned host trace where
  tone := .inl <| by rw [answer, isAudible_iff]
  muted failed := (failed.elim starts stops).elim

/-- An update that has to switch the tone tunes the host. -/
theorem tuned_switched (obedient : Obedient host.sound) {on : Bool}
    (audible : host.isAudible = on)
    (answer : SoundDevice.isBeeping host.sound = !on) :
    let made := host.afterSound (switchTone host.sound on) (.switched on)
    Tuned made.state made.trace := by
  intro made
  have switched := obedient.obeys.switched on
  cases result : (switchTone host.sound on).result with
  | ok value =>
      rw [result] at switched
      simp only [made, afterSound, result]
      apply tuned_of_answer (switched.trans audible.symm)
      · cases on <;> simp [Event.switched]
      · cases on <;> simp [Event.switched]
  | error error =>
      rw [result] at switched
      simp only [made, afterSound, result]
      refine ⟨?_, fun _ => rfl⟩
      cases on with
      | true =>
          -- No tone has started, and now that it is muted none is to sound.
          have silent := switched.trans answer
          refine .inl (iff_of_false ?_ ?_)
          · exact fun sounds => Bool.false_ne_true (silent.symm.trans sounds)
          · rintro ⟨-, muted, -⟩
            cases muted
      | false =>
          -- The tone goes on although it is muted: this is the exception.
          exact .inr (filter_isSoundCall_emitted _ _)

theorem tuned_updateSound (obedient : Obedient host.sound) :
    Tuned host.updateSound.state host.updateSound.trace := by
  have asked : SoundDevice.isBeeping host.asked.sound =
      SoundDevice.isBeeping host.sound := obedient.obeys.asked
  rcases host.updateSound_cases with
    ⟨answer, update⟩ | ⟨on, audible, answer, update⟩
  · rw [update]
    exact tuned_of_answer (asked.trans answer) List.not_mem_nil
      List.not_mem_nil
  · rw [update]
    exact tuned_switched (obedient.next .ask) audible (asked.trans answer)

theorem tuned_load (obedient : Obedient host.sound) {fresh : RandomSource}
    {program : List UInt8}
    (loaded : (host.load fresh program).result = .ok ()) :
    Tuned (host.load fresh program).state (host.load fresh program).trace := by
  revert loaded
  rw [load]
  split
  · intro loaded
    cases loaded
  next machine _ =>
    intro _
    have tuned : Tuned
        ({ host with machine } : Host ι δ σ).updateSound.state
        ({ host with machine } : Host ι δ σ).updateSound.trace :=
      tuned_updateSound obedient
    exact tuned.after rfl

theorem obedient_updateSound (obedient : Obedient host.sound) :
    Obedient host.updateSound.state.sound := by
  have asked : Obedient host.asked.sound := obedient.next .ask
  rcases host.updateSound_cases with ⟨-, update⟩ | ⟨on, -, -, update⟩
  · rw [update]
    exact asked
  · have switched := asked.next (.switch on)
    rw [update, afterSound]
    split
    · exact switched
    · exact switched

/-- The last call of a run is for silence, and if it succeeds, there is. -/
theorem silence_tone (obedient : Obedient host.sound)
    (stopped : (switchTone host.sound false).result.toBool = true) :
    SoundDevice.isBeeping host.silence.1.sound = false := by
  have switched := obedient.obeys.switched false
  rw [host.silence_state]
  cases result : (switchTone host.sound false).result with
  | ok value =>
      rw [result] at switched
      exact switched
  | error error =>
      rw [result] at stopped
      cases stopped

/-! ## Hosts in use -/

variable [InputDevice ι] [DisplayDevice δ]

theorem kept_obedient :
    Kept fun host : Host ι δ σ => Obedient host.sound where
  load host fresh program obedient := by
    rw [load]
    split
    · exact obedient
    next machine _ =>
      show Obedient
        ({ host with machine } : Host ι δ σ).updateSound.state.sound
      exact obedient_updateSound obedient
  scan host obedient := by
    rw [host.scan_state]
    exact obedient
  obey host command obedient := by
    rw [host.obey_state command]
    exact obedient
  runFrame host obedient := by
    rw [host.runFrame_state]
    exact obedient
  updateSound host obedient := obedient_updateSound obedient
  present host obedient := by
    rw [host.present_state]
    exact obedient
  silence host obedient := by
    rw [host.silence_state]
    exact obedient.next (.switch false)

variable {ran sounded : Host ι δ σ} {command : Option Command}

theorem Played.tuned (obedient : Obedient host.sound)
    (played : Played host command ran sounded trace) : Tuned sounded trace := by
  have obeys := (kept_obedient.played played obedient).1
  cases played with
  | @made _ _ beginning running _ begun run sound run_calls sound_calls =>
      have tuned := tuned_updateSound obeys
      rw [sound] at tuned
      have quiet :
          (beginning ++ running).filter Event.isSoundCall = [] := by
        rcases begun.calls with ⟨keypad, begin_calls⟩
        rw [filter_callsOf Event.isCall_of_isSoundCall, callsOf_append,
          begin_calls, run_calls]
        rfl
      exact tuned.after quiet

theorem mainLoop_tone (obedient : Obedient host.sound) {patience : Nat}
    {made : Activity Event Error (Host ι δ σ) Nat}
    (ran : host.mainLoop? patience = some made) :
    ∃ earlier stopped,
      made.trace.filter Event.isSoundCall = earlier ++ [.stop stopped] ∧
        (stopped = true →
          SoundDevice.isBeeping made.state.sound = false) := by
  rcases mainLoop_eq_some_iff.mp ran with ⟨rfl, -⟩
  have obeys := kept_obedient.runFrames obedient
    (frameBound host.config patience)
  rw [finish_trace]
  exact ⟨_, _, filter_isSoundCall_ended (callsOf_silence _),
    silence_tone obeys⟩

/--
A speaker and a silent device are obedient.  With any obedient device, each
load and each frame that comes to its sound tunes a host in use; and no tone is
left by a run that ends, in whatever way, if its last call to the sound device
succeeded.
-/
theorem tone_follows_machine :
    (∀ speaker : Speaker, Obedient speaker) ∧
    (∀ silent : SilentSound, Obedient silent) ∧
    ∀ start host : Host ι δ σ, Obedient start.sound → Reached start host →
      (∀ fresh program, (host.load fresh program).result = .ok () →
        Tuned (host.load fresh program).state
          (host.load fresh program).trace) ∧
      (∀ count last frames command ran sounded playing,
        CompletedFrames host count last frames →
        Played last command ran sounded playing → Tuned sounded playing) ∧
      ∀ patience made, host.mainLoop? patience = some made →
        ∃ earlier stopped,
          made.trace.filter Event.isSoundCall = earlier ++ [.stop stopped] ∧
            (stopped = true →
              SoundDevice.isBeeping made.state.sound = false) := by
  refine ⟨Speaker.obedient, SilentSound.obedient, ?_⟩
  intro start host initially reached
  have obedient : Obedient host.sound :=
    kept_obedient.reached reached initially
  refine ⟨?_, ?_, ?_⟩
  · intro fresh program loaded
    exact tuned_load obedient loaded
  · intro count last frames command ran sounded playing completed played
    exact played.tuned (kept_obedient.completedFrames completed obedient)
  · intro patience made ran
    exact mainLoop_tone obedient ran

/-- A host whose tone sounds for a frame and then cannot be stopped. -/
def soundingHost : Host KeyScript FrameRecorder Speaker where
  config := ⟨0, 60, false, some 1, none⟩
  machine := { Machine.powerUp (.ofSeed 0) with soundTimer := 2 }
  input := ⟨[]⟩
  display := .empty
  sound := .silent .reliable (Channel.reliable.failingFrom 1)
  muted := false

/-- Its tone still sounds at the end, for its last call has failed. -/
theorem soundingHost_tone :
    let host := soundingHost
    Obedient host.sound ∧ Reached host host ∧
      (∃ made, host.load (.ofSeed 0) [0x12, 0x00] = made ∧
        made.result = .ok () ∧ Tuned made.state made.trace) ∧
      (∃ command ran sounded playing,
        Played host command ran sounded playing ∧ Tuned sounded playing ∧
          SoundDevice.isBeeping sounded.sound = true) ∧
      ∃ made, host.mainLoop? 0 = some made ∧
        SoundDevice.isBeeping made.state.sound = true ∧
        ∃ earlier, made.trace.filter Event.isSoundCall =
          earlier ++ [.stop false] := by
  intro host
  have obedient : Obedient host.sound := Speaker.obedient _
  rcases (@tone_follows_machine KeyScript FrameRecorder Speaker _ _ _).2.2
    host host obedient .start with ⟨loads, frames, ends⟩
  refine ⟨obedient, .start, ?_, ?_, ?_⟩
  · exact ⟨_, rfl, rfl, loads _ _ rfl⟩
  · let begun := host.scan.state
    let ran := begun.runFrame.state
    have played : Played host none ran ran.updateSound.state
        (host.scan.trace ++ [] ++ begun.runFrame.trace ++
          ran.updateSound.trace) :=
      .made (.made rfl rfl rfl nofun rfl rfl rfl) rfl rfl rfl
        ran.updateSound_eq.2.2
    exact ⟨_, _, _, _, played, frames _ _ _ _ _ _ _ (.none host) played, rfl⟩
  · have finished :
        host.mainLoop? 0 = some (finish (host.runFrames 1)) := rfl
    rcases ends 0 _ finished with ⟨earlier, stopped, calls, silent⟩
    have sounds : SoundDevice.isBeeping
        (finish (host.runFrames 1)).state.sound = true := rfl
    refine ⟨_, finished, sounds, earlier, ?_⟩
    cases stopped with
    | true => exact nomatch sounds.symm.trans (silent rfl)
    | false => exact calls

end Host

end Chip8
