import Chip8.Device.Sound
import Chip8.Proofs.Host.Update
import Mathlib.Data.List.Induction

/-!
# A speaker hears alternating tones

However often a speaker is asked for the tone or for silence, and whichever of
the calls to it fail, the calls that succeed start the tone and stop it by
turns.  The state of a speaker is therefore known from the last of them, a call
that is not needed is not made, and a call that failed is made again.  When the
speaker is given back, a tone that still sounds is stopped.

As long as no call fails, a speaker cannot be told apart from a silent device.
-/

namespace Chip8

/-! ## What is asked of a sound device -/

/-- The pitch of the call that a speaker makes for the tone or for silence. -/
def pitchFor (on : Bool) : Nat :=
  if on then 440 else 0

/-- The pitch of a call to the speaker that succeeded. -/
def Emission.sounded? : Emission → Option Nat
  | .call (.attempt (.tone pitch) true) => some pitch
  | _ => none

/-- Whether a call to the speaker succeeded. -/
def Emission.succeeded? : Emission → Option Bool
  | .call (.attempt (.tone _) succeeded) => some succeeded
  | _ => none

section Devices

variable {σ : Type} [SoundDevice σ]

/-- A sound device after its tone was switched several times. -/
def switchedAll (sound : σ) (switches : List Bool) : σ :=
  switches.foldl (fun before on => (switchTone before on).state) sound

/-- What a sound device emits while its tone is switched several times. -/
def toneEmissions (sound : σ) : List Bool → List Emission
  | [] => []
  | on :: later =>
      (switchTone sound on).trace ++
        toneEmissions (switchTone sound on).state later

/-- The result of each switch, and whether the tone sounds after it. -/
def toneAnswers (sound : σ) : List Bool → List (Except SoundError Unit × Bool)
  | [] => []
  | on :: later =>
      ((switchTone sound on).result,
        SoundDevice.isBeeping (switchTone sound on).state) ::
        toneAnswers (switchTone sound on).state later

theorem switchedAll_append (sound : σ) (earlier later : List Bool) :
    switchedAll sound (earlier ++ later) =
      switchedAll (switchedAll sound earlier) later :=
  List.foldl_append

theorem switchedAll_singleton (sound : σ) (on : Bool) :
    switchedAll sound [on] = (switchTone sound on).state :=
  rfl

theorem toneEmissions_append (sound : σ) (earlier later : List Bool) :
    toneEmissions sound (earlier ++ later) =
      toneEmissions sound earlier ++
        toneEmissions (switchedAll sound earlier) later := by
  induction earlier generalizing sound with
  | nil => rfl
  | cons on earlier ih =>
      have rest := ih (switchTone sound on).state
      simpa only [List.cons_append, toneEmissions, List.append_assoc,
        switchedAll, List.foldl_cons, List.append_cancel_left_eq] using rest

end Devices

/-! ## Tones that alternate -/

/--
The tone was started and stopped by turns, starting from silence, and it sounds
if and only if it was started once more than it was stopped.
-/
def Alternated (pitches : List Nat) (beeping : Bool) : Prop :=
  ∃ count, pitches =
      (List.range count).map (fun place => pitchFor (place % 2 == 0)) ∧
    beeping = !(count % 2 == 0)

namespace Alternated

variable {pitches : List Nat} {on : Bool}

theorem silence : Alternated [] false :=
  ⟨0, rfl, rfl⟩

theorem next (alternated : Alternated pitches (!on)) :
    Alternated (pitches ++ [pitchFor on]) on := by
  obtain ⟨count, rfl, beeping⟩ := alternated
  have even : on = (count % 2 == 0) := Bool.not_inj beeping
  refine ⟨count + 1, ?_, ?_⟩
  · rw [List.range_succ, List.map_append, even]
    rfl
  · rw [even, Bool.eq_iff_iff]
    simp only [beq_iff_eq, Bool.not_eq_true', beq_eq_false_iff_ne]
    omega

theorem getElem? {beeping : Bool} (alternated : Alternated pitches beeping)
    {place pitch : Nat} (found : pitches[place]? = some pitch) :
    pitch = if place % 2 = 0 then 440 else 0 := by
  obtain ⟨count, rfl, -⟩ := alternated
  rw [List.getElem?_map, Option.map_eq_some_iff] at found
  obtain ⟨_, member, rfl⟩ := found
  obtain ⟨_, rfl⟩ := List.getElem?_eq_some_iff.mp member
  simp [pitchFor]

theorem getLast?_eq {beeping : Bool} (alternated : Alternated pitches beeping) :
    pitches.getLast? = some 440 ↔ beeping = true := by
  obtain ⟨count, rfl, rfl⟩ := alternated
  cases count with
  | zero => simp
  | succ count =>
      simp only [List.range_succ, List.map_append, List.map_cons, List.map_nil,
        List.getLast?_append, List.getLast?_singleton, Option.some_or,
        Option.some.injEq, pitchFor, Bool.not_eq_true',
        beq_eq_false_iff_ne]
      split <;> simp_all <;> omega

end Alternated

/-! ## Patterns of failures -/

/-- The calls fail or succeed as a pattern says. -/
def FailsAs (fails : Nat → Bool) (outcomes : List Bool) : Prop :=
  ∀ place succeeded, outcomes[place]? = some succeeded →
    succeeded = !fails place

/-- A pattern of failures after a first outcome. -/
def firstFails (first : Bool) (fails : Nat → Bool) : Nat → Bool
  | 0 => first
  | place + 1 => fails place

theorem FailsAs.cons {fails : Nat → Bool} {outcomes : List Bool}
    (later : FailsAs (fun place => fails (place + 1)) outcomes) :
    FailsAs fails ((!fails 0) :: outcomes) := by
  intro place outcome found
  cases place with
  | zero =>
      cases found
      rfl
  | succ place => exact later place outcome found

namespace Channel

/-- The calls that are to come on a channel fail as a pattern says. -/
def Follows (channel : Channel) (fails : Nat → Bool) : Prop :=
  ∀ later, channel.fails (channel.calls + later) = fails later

theorem Follows.next {channel : Channel} {first : Bool} {fails : Nat → Bool}
    (follows : Follows channel (firstFails first fails)) :
    Follows channel.next fails := by
  intro later
  have further := follows (later + 1)
  rwa [← Nat.add_assoc, Nat.add_right_comm] at further

theorem Follows.works {channel : Channel} {fails : Nat → Bool}
    (follows : Follows channel fails) : channel.works = !fails 0 :=
  congrArg not (follows 0)

end Channel

namespace Speaker

variable {speaker : Speaker} {on : Bool}

/-! ## One call -/

/-- The calls that start the tone, or those that stop it. -/
def channel (speaker : Speaker) (on : Bool) : Channel :=
  if on then speaker.starting else speaker.stopping

/-- A speaker after it was called to start the tone, or to stop it. -/
def called (speaker : Speaker) : Bool → Speaker
  | true =>
      { speaker with
        beeping := speaker.starting.works
        starting := speaker.starting.next }
  | false =>
      { speaker with
        beeping := !speaker.stopping.works
        stopping := speaker.stopping.next }

theorem called_beeping (speaker : Speaker) (on : Bool) :
    (speaker.called on).beeping =
      if (speaker.channel on).works then on else !on := by
  cases on <;> simp [called, channel]

theorem called_channel (speaker : Speaker) (on kind : Bool) :
    (speaker.called on).channel kind =
      if kind = on then (speaker.channel on).next
      else speaker.channel kind := by
  cases on <;> cases kind <;> rfl

theorem same_or_change (speaker : Speaker) (on : Bool) :
    speaker.beeping = on ∨ speaker.beeping = !on :=
  (eq_or_ne speaker.beeping on).imp_right Bool.eq_not.mpr

theorem switchTone_of_same (same : speaker.beeping = on) :
    switchTone speaker on = .done () speaker := by
  cases on with
  | true => simp [switchTone, SoundDevice.beep, beep, same]
  | false => simp [switchTone, SoundDevice.stop, stop, same]

theorem switchTone_of_change (change : speaker.beeping = !on) :
    switchTone speaker on =
      ⟨resultOf (pitchFor on) (speaker.channel on).works,
        speaker.called on,
        [.call (.attempt (.tone (pitchFor on))
          (speaker.channel on).works)]⟩ := by
  cases on with
  | true =>
      simp [switchTone, SoundDevice.beep, beep, change, pitchFor, pitch,
        channel, called]
  | false =>
      simp [switchTone, SoundDevice.stop, stop, change, pitchFor, channel,
        called]

/--
A speaker that could not be switched stays as it is until it is asked for the
same again.
-/
theorem switchedAll_of_other {between : List Bool}
    (stays : speaker.beeping = !on) (other : on ∉ between) :
    switchedAll speaker between = speaker := by
  induction between with
  | nil => rfl
  | cons first between ih =>
      rw [List.mem_cons, not_or] at other
      have same : speaker.beeping = first :=
        stays.trans (Bool.not_eq.mpr other.1)
      rw [switchedAll, List.foldl_cons, switchTone_of_same same]
      exact ih other.2

/-- A call that fails is for a change, says so and leaves the tone alone. -/
theorem of_failed {action : DeviceAction}
    (failed : .call (.attempt action false) ∈ (switchTone speaker on).trace) :
    speaker.beeping = !on ∧
      (switchTone speaker on).result = .error ⟨"speaker failed"⟩ ∧
      (switchTone speaker on).state.beeping = speaker.beeping := by
  rcases same_or_change speaker on with same | change
  · rw [switchTone_of_same same] at failed
    cases failed
  · rw [switchTone_of_change change] at failed ⊢
    have broken : (speaker.channel on).works = false := by
      simp only [List.mem_singleton, Emission.call.injEq,
        DeviceCall.attempt.injEq] at failed
      exact failed.2.symm
    refine ⟨change, ?_, ?_⟩
    · simp [resultOf, broken, DeviceAction.failure]
    · simp [called_beeping, broken, change]

/-! ## The tones of many calls -/

theorem Alternated.switched {pitches : List Nat}
    (alternated : Alternated pitches speaker.beeping) (on : Bool) :
    Alternated
      (pitches ++ (switchTone speaker on).trace.filterMap Emission.sounded?)
      (switchTone speaker on).state.beeping := by
  rcases same_or_change speaker on with same | change
  · rw [switchTone_of_same same]
    simpa [Activity.done] using alternated
  · rw [switchTone_of_change change, called_beeping]
    rw [change] at alternated
    cases (speaker.channel on).works with
    | true => exact alternated.next
    | false =>
        have nothing : [Emission.call (.attempt (.tone (pitchFor on)) false)
            ].filterMap Emission.sounded? = [] := rfl
        rw [nothing, List.append_nil]
        exact alternated

theorem alternated (starting stopping : Channel) (calls : List Bool) :
    Alternated
      ((toneEmissions (silent starting stopping) calls).filterMap
        Emission.sounded?)
      (switchedAll (silent starting stopping) calls).beeping := by
  -- The last call is taken off, as the tone depends on those before it.
  induction calls using List.reverseRecOn with
  | nil => exact .silence
  | append_singleton calls on ih =>
      rw [toneEmissions_append, switchedAll_append, List.filterMap_append]
      have switched := Alternated.switched ih on
      simpa only [toneEmissions, List.append_nil, switchedAll_singleton]
        using switched

theorem toneEmissions_close (speaker : Speaker) (calls : List Bool) :
    toneEmissions speaker calls ++ (switchedAll speaker calls).close =
      toneEmissions speaker (calls ++ [false]) := by
  rw [toneEmissions_append]
  simp [toneEmissions, close, switchTone, SoundDevice.stop]

/-! ## A speaker that does not fail -/

theorem switchTone_of_works (works : ∀ action,
    .call (.attempt action false) ∉ (switchTone speaker on).trace) :
    (switchTone speaker on).result = .ok () ∧
      (switchTone speaker on).state.beeping = on := by
  rcases same_or_change speaker on with same | change
  · rw [switchTone_of_same same]
    exact ⟨rfl, same⟩
  · rw [switchTone_of_change change] at works ⊢
    have succeeds : (speaker.channel on).works = true := by
      have never := works (.tone (pitchFor on))
      simpa using never
    simp [succeeds, resultOf, called_beeping]

/-- As long as no call fails, a speaker answers like a silent device. -/
theorem toneAnswers_eq_silent {calls : List Bool} (silent : SilentSound)
    (works : ∀ action,
      .call (.attempt action false) ∉ toneEmissions speaker calls) :
    toneAnswers speaker calls = toneAnswers silent calls := by
  induction calls generalizing speaker silent with
  | nil => rfl
  | cons on calls ih =>
      have noted : (switchTone silent on).result = .ok () ∧
          (switchTone silent on).state.beeping = on := by
        cases on <;> exact ⟨rfl, rfl⟩
      have first : ∀ action,
          .call (.attempt action false) ∉ (switchTone speaker on).trace :=
        fun action failed => works action (List.mem_append_left _ failed)
      have switched := switchTone_of_works first
      have later := ih (switchTone silent on).state fun action failed =>
        works action (List.mem_append_right _ failed)
      simp only [toneAnswers, later, SoundDevice.isBeeping, SoundDevice.ask,
        switched, noted]

/-! ## Every pattern of failures -/

/--
Whatever a speaker is asked for, its channels can be chosen so that its calls
fail as a given pattern says.
-/
theorem exists_plans (fails : Nat → Bool) (beeping : Bool)
    (calls : List Bool) :
    ∃ plans : Bool → Nat → Bool, ∀ speaker : Speaker,
      speaker.beeping = beeping →
      (∀ kind, (speaker.channel kind).Follows (plans kind)) →
      FailsAs fails
        ((toneEmissions speaker calls).filterMap Emission.succeeded?) := by
  induction calls generalizing fails beeping with
  | nil => exact ⟨fun _ _ => false, fun _ _ _ _ _ found => by cases found⟩
  | cons on calls ih =>
      rcases eq_or_ne beeping on with same | differs
      · obtain ⟨plans, planned⟩ := ih fails beeping
        refine ⟨plans, fun speaker stays follows => ?_⟩
        rw [toneEmissions, switchTone_of_same (stays.trans same)]
        exact planned speaker stays follows
      · -- The first call is one of the kind that is asked for.
        obtain ⟨plans, planned⟩ :=
          ih (fun place => fails (place + 1)) (if fails 0 then !on else on)
        refine ⟨Function.update plans on (firstFails (fails 0) (plans on)),
          fun speaker stays follows => ?_⟩
        have change := stays.trans (Bool.eq_not.mpr differs)
        have first := follows on
        rw [Function.update_self] at first
        have works : (speaker.channel on).works = !fails 0 := first.works
        rw [toneEmissions, switchTone_of_change change, List.filterMap_append,
          works]
        refine FailsAs.cons (planned (speaker.called on) ?_ fun kind => ?_)
        · rw [called_beeping, works]
          cases fails 0 <;> rfl
        · rw [called_channel]
          split
          · next same =>
              rw [same]
              exact first.next
          · next other =>
              have further := follows kind
              rwa [Function.update_of_ne other] at further

/-- Every pattern of failures is that of some speaker, to the end. -/
theorem exists_channels (fails : Nat → Bool) (calls : List Bool) :
    ∃ starting stopping : Channel,
      FailsAs fails
        ((toneEmissions (silent starting stopping) calls ++
          (switchedAll (silent starting stopping) calls).close).filterMap
            Emission.succeeded?) := by
  obtain ⟨plans, planned⟩ := exists_plans fails false (calls ++ [false])
  refine ⟨⟨plans true, 0⟩, ⟨plans false, 0⟩, ?_⟩
  rw [toneEmissions_close]
  refine planned _ rfl fun kind later => ?_
  cases kind <;> simp [channel, silent]

/-! ## The account of a speaker -/

/-- What holds of a speaker that was silent at first, after any calls. -/
structure Accounted (speaker : Speaker) (calls : List Bool) : Prop where
  /--
  The calls that succeed, the last one when the speaker is given back with
  them, start the tone and stop it by turns.
  -/
  pitches : ∀ place pitch,
    ((toneEmissions speaker calls ++
      (switchedAll speaker calls).close).filterMap
        Emission.sounded?)[place]? = some pitch →
    pitch = if place % 2 = 0 then 440 else 0
  /-- It says that it beeps if the last call that succeeded was for the tone. -/
  sounding : SoundDevice.isBeeping (switchedAll speaker calls) = true ↔
    ((toneEmissions speaker calls).filterMap Emission.sounded?).getLast? =
      some 440
  /-- A call for what is so already succeeds and does nothing. -/
  unneeded : ∀ on, SoundDevice.isBeeping (switchedAll speaker calls) = on →
    switchTone (switchedAll speaker calls) on =
      .done () (switchedAll speaker calls)
  /-- A call for a change calls the device once and is told what came of it. -/
  needed : ∀ on, SoundDevice.isBeeping (switchedAll speaker calls) = !on →
    ∃ succeeded,
      (switchTone (switchedAll speaker calls) on).result =
        resultOf (pitchFor on) succeeded ∧
      (switchTone (switchedAll speaker calls) on).trace =
        [.call (.attempt (.tone (pitchFor on)) succeeded)]
  /-- A call that fails changes nothing, and the next one like it is made. -/
  failed : ∀ on action,
    .call (.attempt action false) ∈
      (switchTone (switchedAll speaker calls) on).trace →
    (switchTone (switchedAll speaker calls) on).result =
      .error ⟨"speaker failed"⟩ ∧
    SoundDevice.isBeeping (switchedAll speaker (calls ++ [on])) =
      SoundDevice.isBeeping (switchedAll speaker calls) ∧
    ∀ between, on ∉ between → ∃ succeeded,
      (switchTone (switchedAll speaker (calls ++ on :: between)) on).trace =
        [.call (.attempt (.tone (pitchFor on)) succeeded)]
  /-- Only a speaker that beeps is called when it is given back. -/
  closed : ∃ succeeded, (switchedAll speaker calls).close =
    if SoundDevice.isBeeping (switchedAll speaker calls) then
      [.call (.attempt (.tone 0) succeeded)]
    else []
  /-- If no call fails, a silent device gives the same answers. -/
  answers : (∀ action,
      .call (.attempt action false) ∉ toneEmissions speaker calls) →
    SoundDevice.isBeeping speaker =
      SoundDevice.isBeeping (SilentSound.mk false) ∧
    toneAnswers speaker calls = toneAnswers (SilentSound.mk false) calls

theorem retried {between : List Bool} {action : DeviceAction}
    (failed : .call (.attempt action false) ∈ (switchTone speaker on).trace)
    (other : on ∉ between) :
    ∃ succeeded,
      (switchTone
        (switchedAll (switchTone speaker on).state between) on).trace =
        [.call (.attempt (.tone (pitchFor on)) succeeded)] := by
  obtain ⟨change, -, stays⟩ := of_failed failed
  have still := stays.trans change
  rw [switchedAll_of_other still other, switchTone_of_change still]
  exact ⟨_, rfl⟩

theorem close_eq (speaker : Speaker) :
    ∃ succeeded, speaker.close =
      if speaker.beeping then [.call (.attempt (.tone 0) succeeded)]
      else [] := by
  have made : speaker.close = (switchTone speaker false).trace := rfl
  cases beeping : speaker.beeping with
  | true =>
      rw [made, switchTone_of_change beeping]
      exact ⟨_, rfl⟩
  | false =>
      rw [made, switchTone_of_same beeping]
      exact ⟨false, rfl⟩

theorem accounted (starting stopping : Channel) (calls : List Bool) :
    Accounted (silent starting stopping) calls := by
  have sounded := alternated starting stopping calls
  constructor
  case pitches =>
    intro place pitch found
    rw [toneEmissions_close] at found
    exact (alternated starting stopping (calls ++ [false])).getElem? found
  case sounding => exact sounded.getLast?_eq.symm
  case unneeded => exact fun on same => switchTone_of_same same
  case needed =>
    intro on change
    rw [switchTone_of_change change]
    exact ⟨_, rfl, rfl⟩
  case failed =>
    intro on action failed
    obtain ⟨-, result, stays⟩ := of_failed failed
    refine ⟨result, ?_, fun between other => ?_⟩
    · rw [switchedAll_append, switchedAll_singleton]
      exact stays
    · rw [switchedAll_append]
      exact retried failed other
  case closed => exact close_eq _
  case answers => exact fun works => ⟨rfl, toneAnswers_eq_silent _ works⟩

/--
Whatever a speaker is asked for and whichever of its calls fail, its tones
alternate; and the calls may fail in any pattern.
-/
theorem tones_alternate :
    (∀ starting stopping calls,
      Accounted (silent starting stopping) calls) ∧
    ∀ fails calls, ∃ starting stopping : Channel,
      FailsAs fails
        ((toneEmissions (silent starting stopping) calls ++
          (switchedAll (silent starting stopping) calls).close).filterMap
            Emission.succeeded?) :=
  ⟨accounted, exists_channels⟩

/-- A start that fails at first is tried again, and the tone is stopped. -/
example :
    toneEmissions (silent ⟨fun call => call == 0, 0⟩ .reliable)
        [true, false, true, true, false] =
      [.call (.attempt (.tone 440) false), .call (.attempt (.tone 440) true),
        .call (.attempt (.tone 0) true)] :=
  rfl

end Speaker

end Chip8
