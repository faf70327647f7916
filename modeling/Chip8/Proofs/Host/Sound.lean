import Chip8.Proofs.Host.Course
import Mathlib.Data.List.Forall2

/-!
# The sound is apart from the rest

Two hosts with the same machine, keys and screen may have different sound
devices, whatever these do and answer, and the tone may be muted in one of them
and not in the other.  Everything that is asked of the two then comes to the
same, and their machines take the same course: the hosts differ in nothing but
the sound device, the muting, and what happens for the sake of the sound.

`SameButSound` relates the hosts and `Agree` what they make of a request.  One
lemma for each part of a frame says that related hosts agree on it; frames,
runs and whole lists of requests follow by composition and induction.
-/

namespace Chip8

/--
Whether an event is for the sake of the sound: a call to the sound device,
something that this device does, or a record of its failure.
-/
def Event.isOfSound : Event → Bool
  | .sound _ => true
  | .beep _ => true
  | .stop _ => true
  | .told (.soundFailed _) => true
  | .told (.toneKept _) => true
  | _ => false

theorem Event.isOfSound_switched (on succeeded : Bool) :
    (switched on succeeded).isOfSound = true := by
  cases on <;> rfl

/-- All events but those for the sake of the sound. -/
def withoutSound (trace : List Event) : List Event :=
  trace.filter fun event => !event.isOfSound

@[simp]
theorem withoutSound_append (earlier later : List Event) :
    withoutSound (earlier ++ later) =
      withoutSound earlier ++ withoutSound later :=
  List.filter_append earlier later

theorem withoutSound_emitted (items : List Emission) :
    withoutSound (items.map Event.sound) = [] :=
  filter_map_eq_nil (fun _ => rfl) items

namespace Host

variable {ι δ σ τ α β : Type}

/--
Two hosts that are equal but for their sound devices, the muting of the tone
and the setting that the tone be muted at first.
-/
def SameButSound (first : Host ι δ σ) (second : Host ι δ τ) : Prop :=
  ∃ setting sound muted, second =
    { config := { first.config with muted := setting }
      machine := first.machine
      input := first.input
      display := first.display
      sound := sound
      muted := muted }

/-- Two activities with the same result in which only the sound differs. -/
structure Agree (first : Activity Event Error (Host ι δ σ) α)
    (second : Activity Event Error (Host ι δ τ) α) : Prop where
  result_eq : second.result = first.result
  state_same : SameButSound first.state second.state
  trace_eq : withoutSound second.trace = withoutSound first.trace

theorem Agree.andThen {first : Activity Event Error (Host ι δ σ) α}
    {second : Activity Event Error (Host ι δ τ) α}
    {following : α → Host ι δ σ → Activity Event Error (Host ι δ σ) β}
    {following' : α → Host ι δ τ → Activity Event Error (Host ι δ τ) β}
    (agree : Agree first second)
    (further : ∀ value host other, SameButSound host other →
      Agree (following value host) (following' value other)) :
    Agree (first.andThen following) (second.andThen following') := by
  obtain ⟨results, states, traces⟩ := agree
  cases result : first.result with
  | error error =>
      rw [Activity.andThen_of_error result,
        Activity.andThen_of_error (results.trans result)]
      exact ⟨rfl, states, traces⟩
  | ok value =>
      rw [Activity.andThen_of_ok result,
        Activity.andThen_of_ok (results.trans result)]
      have next := further value first.state second.state states
      refine ⟨next.result_eq, next.state_same, ?_⟩
      rw [withoutSound_append, withoutSound_append, traces, next.trace_eq]

theorem Agree.map {first : Activity Event Error (Host ι δ σ) α}
    {second : Activity Event Error (Host ι δ τ) α}
    (agree : Agree first second) (value : α → β) :
    Agree (first.map value) (second.map value) :=
  ⟨congrArg (Except.map value) agree.result_eq, agree.state_same,
    agree.trace_eq⟩

theorem Agree.done {first : Host ι δ σ} {second : Host ι δ τ}
    (same : SameButSound first second) (value : α) :
    Agree (.done value first) (.done value second) :=
  ⟨rfl, same, rfl⟩

/-- Two requests end and agree, or neither of them ends. -/
inductive AgreeIfEnded :
    Option (Activity Event Error (Host ι δ σ) α) →
      Option (Activity Event Error (Host ι δ τ) α) → Prop where
  | neither : AgreeIfEnded none none
  | both {made : Activity Event Error (Host ι δ σ) α}
      {made' : Activity Event Error (Host ι δ τ) α}
      (agree : Agree made made') : AgreeIfEnded (some made) (some made')

theorem AgreeIfEnded.map {made : Option (Activity Event Error (Host ι δ σ) α)}
    {made' : Option (Activity Event Error (Host ι δ τ) α)}
    (agree : AgreeIfEnded made made') (value : α → β) :
    AgreeIfEnded (made.map fun ended => ended.map value)
      (made'.map fun ended => ended.map value) := by
  cases agree with
  | neither => exact .neither
  | both agree => exact .both (agree.map value)

/-! ## The parts of a frame -/

variable {first : Host ι δ σ} {second : Host ι δ τ}

theorem SameButSound.machine_eq (same : SameButSound first second) :
    second.machine = first.machine := by
  obtain ⟨setting, sound, muted, rfl⟩ := same
  rfl

theorem SameButSound.cyclesPerFrame_eq (same : SameButSound first second) :
    second.config.cyclesPerFrame = first.config.cyclesPerFrame := by
  obtain ⟨setting, sound, muted, rfl⟩ := same
  rfl

theorem SameButSound.maxFrames_eq (same : SameButSound first second) :
    second.config.maxFrames = first.config.maxFrames := by
  obtain ⟨setting, sound, muted, rfl⟩ := same
  rfl

theorem SameButSound.announcement_eq (same : SameButSound first second) :
    announcement second.config = announcement first.config := by
  obtain ⟨setting, sound, muted, rfl⟩ := same
  rfl

theorem SameButSound.agree_onMachine (same : SameButSound first second)
    (action : Machine → Activity LogRecord Error Machine α) :
    Agree (first.onMachine action) (second.onMachine action) := by
  obtain ⟨setting, sound, muted, rfl⟩ := same
  exact ⟨rfl, ⟨setting, sound, muted, rfl⟩, rfl⟩

theorem SameButSound.agree_scan [InputDevice ι]
    (same : SameButSound first second) : Agree first.scan second.scan := by
  obtain ⟨setting, sound, muted, rfl⟩ := same
  simp only [scan]
  cases (InputDevice.scan first.input first.machine.keypad).result with
  | ok command => exact ⟨rfl, ⟨setting, sound, muted, rfl⟩, rfl⟩
  | error error => exact ⟨rfl, ⟨setting, sound, muted, rfl⟩, rfl⟩

theorem SameButSound.agree_obey (same : SameButSound first second)
    (command : Option Command) :
    Agree (first.obey command) (second.obey command) := by
  cases command with
  | none => exact .done same ()
  | some command =>
      cases command with
      | quit => exact .done same ()
      | togglePause =>
          rw [obey, obey, same.machine_eq]
          split
          · exact same.agree_onMachine _
          · exact same.agree_onMachine _
      | toggleMute =>
          obtain ⟨setting, sound, muted, rfl⟩ := same
          exact .done ⟨setting, sound, !muted, rfl⟩ ()

theorem SameButSound.agree_runFrame (same : SameButSound first second) :
    Agree first.runFrame second.runFrame := by
  rw [runFrame, runFrame, same.cyclesPerFrame_eq]
  refine (same.agree_onMachine _).andThen ?_
  rintro value host other ⟨setting, sound, muted, rfl⟩
  exact .done ⟨setting, sound, muted, rfl⟩ ()

theorem SameButSound.courseOfRunFrame_eq (same : SameButSound first second) :
    second.courseOfRunFrame = first.courseOfRunFrame := by
  rw [courseOfRunFrame, courseOfRunFrame, same.machine_eq,
    same.cyclesPerFrame_eq, same.agree_runFrame.state_same.machine_eq]

theorem SameButSound.agree_present [DisplayDevice δ]
    (same : SameButSound first second) :
    Agree first.present second.present := by
  obtain ⟨setting, sound, muted, rfl⟩ := same
  simp only [present]
  cases (DisplayDevice.draw first.display first.machine.frame).result with
  | ok value => exact ⟨rfl, ⟨setting, sound, muted, rfl⟩, rfl⟩
  | error error => exact ⟨rfl, ⟨setting, sound, muted, rfl⟩, rfl⟩

theorem SameButSound.courseOfFrame_eq [InputDevice ι]
    (same : SameButSound first second) :
    second.courseOfFrame = first.courseOfFrame := by
  obtain ⟨results, scanned, -⟩ := same.agree_scan
  rw [courseOfFrame, courseOfFrame, results, scanned.machine_eq]
  cases first.scan.result with
  | error error => rfl
  | ok command =>
      have obeyed := (scanned.agree_obey command).state_same
      simp only [obeyed.machine_eq, obeyed.courseOfRunFrame_eq]

/-! ## What is done for the sake of the sound -/

theorem SameButSound.refl (host : Host ι δ σ) : SameButSound host host :=
  ⟨host.config.muted, host.sound, host.muted, rfl⟩

/-- Hosts stay related when each changes something about its own sound. -/
theorem SameButSound.congr {first' : Host ι δ σ} {second' : Host ι δ τ}
    (same : SameButSound first second) (here : SameButSound first first')
    (there : SameButSound second second') : SameButSound first' second' := by
  obtain ⟨setting, sound, muted, rfl⟩ := same
  obtain ⟨setting', sound', muted', rfl⟩ := here
  obtain ⟨setting'', sound'', muted'', rfl⟩ := there
  exact ⟨setting'', sound'', muted'', rfl⟩

/-- A call to the sound device leaves nothing else to be seen. -/
theorem afterSound_unseen (host : Host ι δ σ)
    (made : Activity Emission SoundError σ Unit) {event : Bool → Event}
    (call : ∀ succeeded, (event succeeded).isOfSound = true) :
    SameButSound host (host.afterSound made event).state ∧
      withoutSound (host.afterSound made event).trace = [] := by
  rw [afterSound]
  cases made.result with
  | ok value =>
      refine ⟨⟨host.config.muted, made.state, host.muted, rfl⟩, ?_⟩
      rw [withoutSound_append, withoutSound_emitted]
      simp [withoutSound, call]
  | error error =>
      refine ⟨⟨host.config.muted, made.state, true, rfl⟩, ?_⟩
      have told : (Event.told (.soundFailed error)).isOfSound = true := rfl
      rw [withoutSound_append, withoutSound_emitted]
      simp [withoutSound, call, told]

theorem updateSound_unseen [SoundDevice σ] (host : Host ι δ σ) :
    SameButSound host host.updateSound.state ∧
      withoutSound host.updateSound.trace = [] := by
  have asked : SameButSound host host.asked :=
    ⟨host.config.muted, host.asked.sound, host.muted, rfl⟩
  rcases host.updateSound_cases with ⟨-, update⟩ | ⟨on, -, -, update⟩
  · rw [update]
    exact ⟨asked, rfl⟩
  · obtain ⟨same, unseen⟩ := host.asked.afterSound_unseen
      (switchTone host.asked.sound on) (Event.isOfSound_switched on)
    rw [update]
    exact ⟨asked.congr (.refl host) same, unseen⟩

theorem silence_unseen [SoundDevice σ] (host : Host ι δ σ) :
    SameButSound host host.silence.1 ∧ withoutSound host.silence.2 = [] := by
  rw [silence]
  cases (SoundDevice.stop host.sound).result with
  | ok value =>
      refine ⟨⟨host.config.muted, _, host.muted, rfl⟩, ?_⟩
      rw [withoutSound_append, withoutSound_emitted]
      rfl
  | error error =>
      refine ⟨⟨host.config.muted, _, host.muted, rfl⟩, ?_⟩
      rw [withoutSound_append, withoutSound_emitted]
      rfl

variable [SoundDevice σ] [SoundDevice τ]

theorem SameButSound.agree_updateSound (same : SameButSound first second) :
    Agree first.updateSound second.updateSound := by
  obtain ⟨here, heard⟩ := first.updateSound_unseen
  obtain ⟨there, heard'⟩ := second.updateSound_unseen
  refine ⟨?_, same.congr here there, heard'.trans heard.symm⟩
  rw [first.updateSound_eq.1, second.updateSound_eq.1]

theorem SameButSound.agree_load (same : SameButSound first second)
    (fresh : RandomSource) (program : List UInt8) :
    Agree (first.load fresh program) (second.load fresh program) := by
  obtain ⟨setting, sound, muted, rfl⟩ := same
  simp only [load, Config.randomSource]
  split
  · exact ⟨rfl, ⟨setting, sound, muted, rfl⟩, rfl⟩
  · refine Agree.andThen ⟨rfl, ⟨setting, sound, muted, rfl⟩, rfl⟩ ?_
    exact fun _ _ _ loaded => loaded.agree_updateSound

/-- Runs that made the same frames are ended alike. -/
theorem agree_finish {run : FrameRun (Host ι δ σ)}
    {run' : FrameRun (Host ι δ τ)}
    (completed : run'.completed = run.completed)
    (ending : run'.ending = run.ending)
    (hosts : SameButSound run.host run'.host)
    (traces : withoutSound run'.trace = withoutSound run.trace) :
    Agree (finish run) (finish run') := by
  obtain ⟨here, heard⟩ := run.host.silence_unseen
  obtain ⟨there, heard'⟩ := run'.host.silence_unseen
  have silenced := hosts.congr here there
  refine ⟨?_, silenced, ?_⟩
  · simp only [finish, windUp, completed, ending]
  · simp only [finish, windUp, withoutSound_append, heard, heard', traces,
      completed, hosts.announcement_eq]

/-! ## Frames and runs -/

variable [InputDevice ι] [DisplayDevice δ]

/-- Related hosts agree on a frame. -/
theorem SameButSound.agree_frame (same : SameButSound first second) :
    Agree first.frame second.frame := by
  refine same.agree_scan.andThen ?_
  intro command scanned scanned' same
  split
  · exact .done same false
  refine (same.agree_obey command).andThen ?_
  intro _ obeyed obeyed' same
  refine same.agree_runFrame.andThen ?_
  intro _ ran ran' same
  refine same.agree_updateSound.andThen ?_
  intro _ sounded sounded' same
  refine same.agree_present.andThen ?_
  exact fun _ _ _ same => .done same true

/-- Related hosts make the same frames, for the same reason no more of them. -/
theorem SameButSound.agree_runFrames (same : SameButSound first second)
    (limit : Nat) :
    (second.runFrames limit).completed = (first.runFrames limit).completed ∧
      (second.runFrames limit).ending = (first.runFrames limit).ending ∧
      SameButSound (first.runFrames limit).host
        (second.runFrames limit).host ∧
      withoutSound (second.runFrames limit).trace =
        withoutSound (first.runFrames limit).trace := by
  induction limit generalizing first second with
  | zero => exact ⟨rfl, rfl, same, rfl⟩
  | succ limit further =>
      obtain ⟨results, states, traces⟩ := same.agree_frame
      rw [runFrames, runFrames, results]
      cases first.frame.result with
      | error error => exact ⟨rfl, rfl, states, traces⟩
      | ok goesOn =>
          cases goesOn with
          | false => exact ⟨rfl, rfl, states, traces⟩
          | true =>
              obtain ⟨completed, ending, hosts, later⟩ := further states
              refine ⟨congrArg Nat.succ completed, ending, hosts, ?_⟩
              rw [withoutSound_append, withoutSound_append, traces, later]

theorem SameButSound.agree_mainLoop (same : SameButSound first second)
    (patience : Nat) :
    AgreeIfEnded (first.mainLoop? patience) (second.mainLoop? patience) := by
  rw [mainLoop?, mainLoop?, same.maxFrames_eq]
  cases first.config.maxFrames with
  | some limit =>
      obtain ⟨completed, ending, hosts, traces⟩ :=
        same.agree_runFrames limit.toNat
      exact .both (agree_finish completed ending hosts traces)
  | none =>
      obtain ⟨completed, ending, hosts, traces⟩ :=
        same.agree_runFrames patience
      by_cases unfinished : (first.runFrames patience).ending = .limit
      · rw [if_pos unfinished, if_pos (ending.trans unfinished)]
        exact .neither
      · rw [if_neg unfinished, if_neg (ending ▸ unfinished)]
        exact .both (agree_finish completed ending hosts traces)

/-! ## Requests -/

theorem SameButSound.agree_meet (same : SameButSound first second)
    (request : Request) :
    AgreeIfEnded (first.meet? request) (second.meet? request) := by
  cases request with
  | load fresh program => exact .both ((same.agree_load fresh program).map _)
  | runFrame => exact .both (same.agree_runFrame.map _)
  | mainLoop patience => exact (same.agree_mainLoop patience).map some

theorem SameButSound.courseOfFrames_eq (same : SameButSound first second)
    (limit : Nat) :
    second.courseOfFrames limit = first.courseOfFrames limit := by
  induction limit generalizing first second with
  | zero => rfl
  | succ limit further =>
      obtain ⟨results, states, -⟩ := same.agree_frame
      rw [courseOfFrames, courseOfFrames, same.courseOfFrame_eq, results,
        further states]

theorem SameButSound.courseOf_eq (same : SameButSound first second)
    (request : Request) : second.courseOf request = first.courseOf request := by
  cases request with
  | load fresh program =>
      rw [courseOf, courseOf,
        (same.agree_load fresh program).state_same.machine_eq]
  | runFrame => exact same.courseOfRunFrame_eq
  | mainLoop patience =>
      rw [courseOf, courseOf, frameBound, frameBound, same.maxFrames_eq,
        same.courseOfFrames_eq]

theorem SameButSound.seenOf_eq (same : SameButSound first second)
    (request : Request) :
    withoutSound (second.seenOf request) =
      withoutSound (first.seenOf request) := by
  cases request with
  | load fresh program => exact (same.agree_load fresh program).trace_eq
  | runFrame => exact same.agree_runFrame.trace_eq
  | mainLoop patience =>
      rw [seenOf, seenOf, frameBound, frameBound, same.maxFrames_eq]
      exact (same.agree_runFrames _).2.2.2

/-- Whatever is asked of related hosts, they agree on it one by one. -/
theorem SameButSound.agree_meetAll (same : SameButSound first second)
    (requests : List Request) :
    List.Forall₂ Agree (first.meetAll requests) (second.meetAll requests) ∧
      second.courseOfAll requests = first.courseOfAll requests ∧
      withoutSound (second.seenOfAll requests) =
        withoutSound (first.seenOfAll requests) := by
  induction requests generalizing first second with
  | nil => exact ⟨.nil, rfl, rfl⟩
  | cons request rest further =>
      rw [meetAll, meetAll, courseOfAll, courseOfAll, seenOfAll, seenOfAll,
        withoutSound_append, withoutSound_append, same.courseOf_eq,
        same.seenOf_eq]
      have agree := same.agree_meet request
      generalize first.meet? request = made, second.meet? request = made'
        at agree
      cases agree with
      | neither =>
          -- Neither run has ended, so nothing after it is met.
          exact ⟨.nil, rfl, rfl⟩
      | both agree =>
          obtain ⟨later, courses, seen⟩ := further agree.state_same
          exact ⟨.cons agree later, congrArg _ courses, congrArg _ seen⟩

/--
Two hosts with the same settings, keys and screen, but with any two sound
devices and the tone muted or not at first, agree on all that is asked of them.
They have the same machines throughout and show the same frames, also in a run
that does not end.
-/
theorem sound_does_not_interfere (config : Config) (muted : Bool)
    (fresh : RandomSource) (input : ι) (display : δ) (sound : σ) (sound' : τ)
    (requests : List Request) :
    let first := Host.start config fresh input display sound
    let second :=
      Host.start { config with muted := muted } fresh input display sound'
    List.Forall₂ Agree (first.meetAll requests) (second.meetAll requests) ∧
      second.courseOfAll requests = first.courseOfAll requests ∧
      withoutSound (second.seenOfAll requests) =
        withoutSound (first.seenOfAll requests) := by
  intro first second
  have same : SameButSound first second := ⟨muted, sound', muted, rfl⟩
  exact same.agree_meetAll requests

end Host

end Chip8
