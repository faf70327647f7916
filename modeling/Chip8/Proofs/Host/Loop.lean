import Chip8.Device.Display
import Chip8.Device.Faulty
import Chip8.Device.KeyScript
import Chip8.Host.Loop
import Chip8.Proofs.Host.Frame

/-!
# The host loop

A run is a number of completed frames, one after the other, and then its end:
the limit of the settings is reached before another frame, or a last frame
follows in which the user quits or something fails.  `CompletedFrames` and
`LoopEnd` describe these two parts; the loop gives the number of completed
frames or the error of the last frame, and stops the tone once, whatever
happened before and whatever comes of it.

The calls to the devices are counted from this description: each frame but a
last one draws once, and each frame scans once.
-/

namespace Chip8

namespace FrameRun

variable {η : Type} {run : FrameRun η}

/-- Some frames and, unless they were the last ones, further frames. -/
def followedBy (run : FrameRun η) (further : η → FrameRun η) : FrameRun η :=
  if run.ending = .limit then
    let later := further run.host
    ⟨run.completed + later.completed, later.ending, later.host,
      run.trace ++ later.trace⟩
  else run

theorem followedBy_of_ended (ended : run.ending ≠ .limit)
    (further : η → FrameRun η) : run.followedBy further = run :=
  if_neg ended

end FrameRun

namespace Host

variable {ι δ σ : Type}

/-! ## The end of a run -/

/-- At the end of a run the sound device is called once, to stop the tone. -/
theorem callsOf_silence [SoundDevice σ] (host : Host ι δ σ) :
    callsOf host.silence.2 =
      [.stop (SoundDevice.stop host.sound).result.toBool] := by
  have silent : ∀ items : List Emission,
      callsOf (items.map Event.sound) = [] := callsOf_map fun _ => rfl
  rw [silence]
  cases (SoundDevice.stop host.sound).result with
  | ok value =>
      rw [callsOf_append, silent]
      rfl
  | error error =>
      rw [callsOf_append, silent]
      rfl

theorem silence_state [SoundDevice σ] (host : Host ι δ σ) :
    host.silence.1 =
      { host with sound := (SoundDevice.stop host.sound).state } := by
  rw [silence]
  cases (SoundDevice.stop host.sound).result <;> rfl

theorem finish_trace [SoundDevice σ] (run : FrameRun (Host ι δ σ)) :
    (finish run).trace =
      announcement run.host.config ++ run.trace ++ run.host.silence.2 ++
        [.told (.stopped run.completed)] :=
  (List.append_assoc _ _ _).symm

/-- What an ending means for the result of a run. -/
def endingOf : Except Error Unit → Ending
  | .ok () => .quit
  | .error error => .failed error

/-- The result of a run is that of its ending, with the frames counted. -/
theorem finish_eq [SoundDevice σ] (completed : Nat)
    (result : Except Error Unit) (ending : Ending) (host : Host ι δ σ)
    (trace : List Event)
    (ends : ending = endingOf result ∨ ending = .limit ∧ result = .ok ()) :
    finish ⟨completed, ending, host, trace⟩ =
      ⟨result.map fun () => completed, host.silence.1,
        announcement host.config ++ trace ++ host.silence.2 ++
          [.told (.stopped completed)]⟩ := by
  have ended : (finish ⟨completed, ending, host, trace⟩).result =
      result.map fun () => completed := by
    rcases ends with rfl | ⟨rfl, rfl⟩
    · cases result <;> rfl
    · rfl
  rw [← ended, ← finish_trace ⟨completed, ending, host, trace⟩]
  rfl

/-! ## The settings -/

theorem config_runFrame (host : Host ι δ σ) :
    host.runFrame.state.config = host.config := by
  rw [host.runFrame_state]

theorem config_updateSound [SoundDevice σ] (host : Host ι δ σ) :
    host.updateSound.state.config = host.config := by
  rw [host.updateSound_state]

theorem config_scan [InputDevice ι] (host : Host ι δ σ) :
    host.scan.state.config = host.config := by
  rw [host.scan_state]

theorem config_present [DisplayDevice δ] (host : Host ι δ σ) :
    host.present.state.config = host.config := by
  rw [host.present_state]

theorem config_obey (host : Host ι δ σ) (command : Option Command) :
    (host.obey command).state.config = host.config := by
  rw [host.obey_state command]

variable [InputDevice ι] [DisplayDevice δ] [SoundDevice σ]

/-- A frame keeps the settings. -/
theorem config_frame (host : Host ι δ σ) :
    host.frame.state.config = host.config := by
  refine Activity.andThen_keeps host.config_scan ?_
  intro command scanned kept
  split
  · exact kept
  refine Activity.andThen_keeps ((scanned.config_obey command).trans kept) ?_
  intro _ obeyed kept
  refine Activity.andThen_keeps (obeyed.config_runFrame.trans kept) ?_
  intro _ ran kept
  refine Activity.andThen_keeps (ran.config_updateSound.trans kept) ?_
  intro _ sounded kept
  exact Activity.andThen_keeps (sounded.config_present.trans kept)
    fun _ _ shown => shown

/-! ## Frames after one another -/

/-- A number of completed frames, each made by the host that the last left. -/
inductive CompletedFrames : Host ι δ σ → Nat → Host ι δ σ → List Event →
    Prop where
  | none (host : Host ι δ σ) : CompletedFrames host 0 host []
  | more {host middle last : Host ι δ σ} {count : Nat}
      {earlier later : List Event}
      (first : CompletedFrame host middle earlier)
      (rest : CompletedFrames middle count last later) :
      CompletedFrames host (count + 1) last (earlier ++ later)

/--
How a loop ends after a number of completed frames, with the host and what
happened since: at the limit, or else with a last frame.
-/
inductive LoopEnd (config : Config) (completed : Nat) (last : Host ι δ σ) :
    Except Error Unit → Host ι δ σ → List Event → Prop where
  /-- As many frames were completed as the settings allow. -/
  | limit {limit : UInt64} (limited : config.maxFrames = some limit)
      (reached : completed = limit.toNat) :
      LoopEnd config completed last (.ok ()) last []
  /-- The settings allow another frame, and it is the last one. -/
  | frame {result : Except Error Unit} {after : Host ι δ σ}
      {trace : List Event}
      (allowed : ∀ limit, config.maxFrames = some limit →
        completed < limit.toNat)
      (frame : LastFrame last result after trace) :
      LoopEnd config completed last result after trace

variable {host next last after : Host ι δ σ} {count : Nat}
  {result : Except Error Unit} {trace : List Event}

/--
Frames are completed until the limit is reached, or a last frame comes before.
-/
theorem runFrames_eq (host : Host ι δ σ) (limit : Nat) :
    ∃ last frames,
      CompletedFrames host (host.runFrames limit).completed last frames ∧
        ((host.runFrames limit = ⟨limit, .limit, last, frames⟩) ∨
          ∃ completed result after trace,
            completed < limit ∧ LastFrame last result after trace ∧
              host.runFrames limit =
                ⟨completed, endingOf result, after, frames ++ trace⟩) := by
  induction limit generalizing host with
  | zero => exact ⟨host, [], .none host, .inl rfl⟩
  | succ limit further =>
      cases host.frameCase with
      | failed error result frame =>
          have run : host.runFrames (limit + 1) =
              ⟨0, .failed error, host.frame.state, host.frame.trace⟩ := by
            rw [runFrames, result]
          rw [run]
          exact ⟨host, [], .none host, .inr ⟨0, .error error, _, _,
            Nat.succ_pos limit, frame, rfl⟩⟩
      | quit result frame =>
          have run : host.runFrames (limit + 1) =
              ⟨0, .quit, host.frame.state, host.frame.trace⟩ := by
            rw [runFrames, result]
          rw [run]
          exact ⟨host, [], .none host, .inr ⟨0, .ok (), _, _,
            Nat.succ_pos limit, frame, rfl⟩⟩
      | completed result frame =>
          obtain ⟨last, frames, completed, ends⟩ := further host.frame.state
          have run : host.runFrames (limit + 1) =
              { host.frame.state.runFrames limit with
                completed := (host.frame.state.runFrames limit).completed + 1
                trace := host.frame.trace ++
                  (host.frame.state.runFrames limit).trace } := by
            rw [runFrames, result]
          rw [run]
          refine ⟨last, _, .more frame completed, ?_⟩
          rcases ends with ended | ⟨count, result, after, trace, fewer,
            final, ended⟩
          · rw [ended]
            exact .inl rfl
          · rw [ended]
            refine .inr ⟨count + 1, result, after, trace,
              Nat.succ_lt_succ fewer, final, ?_⟩
            rw [List.append_assoc]

theorem config_runFrames (host : Host ι δ σ) (limit : Nat) :
    (host.runFrames limit).host.config = host.config := by
  induction limit generalizing host with
  | zero => rfl
  | succ limit further =>
      have kept := host.config_frame
      rw [runFrames]
      cases host.frame.result with
      | error error => exact kept
      | ok goesOn =>
          cases goesOn with
          | false => exact kept
          | true => exact (further host.frame.state).trans kept

/-! ## Runs that go on -/

/-- More frames are made where the first ones have ended. -/
theorem runFrames_add (host : Host ι δ σ) (count further : Nat) :
    host.runFrames (count + further) =
      (host.runFrames count).followedBy fun host =>
        host.runFrames further := by
  induction count generalizing host with
  | zero => simp [runFrames, FrameRun.followedBy]
  | succ count later =>
      rw [Nat.add_right_comm, runFrames, runFrames]
      cases host.frame.result with
      | error error => rfl
      | ok goesOn =>
          cases goesOn with
          | false => rfl
          | true =>
              simp only [later, FrameRun.followedBy]
              split
              · simp only [Nat.add_right_comm, List.append_assoc]
              · rfl

/-- A run that has ended is the same however many frames are allowed. -/
theorem runFrames_of_ended (ended : (host.runFrames count).ending ≠ .limit)
    (further : Nat) :
    host.runFrames (count + further) = host.runFrames count := by
  rw [runFrames_add, FrameRun.followedBy_of_ended ended]

theorem CompletedFrame.frame_eq (frame : CompletedFrame host next trace) :
    host.frame = ⟨.ok true, next, trace⟩ := by
  cases frame with
  | made played _ _ draw draw_calls =>
      cases played with
      | made begun run sound run_calls sound_calls =>
          cases begun with
          | made _ _ scan going obey scan_calls obey_calls =>
              simp [Host.frame, Activity.andThen, Activity.done, scan, going,
                obey, run, sound, draw]

theorem CompletedFrames.runFrames_eq
    (frames : CompletedFrames host count last trace) :
    host.runFrames count = ⟨count, .limit, last, trace⟩ := by
  induction frames with
  | none host => rfl
  | more first rest later =>
      rw [runFrames, first.frame_eq]
      simp only [later]

/-- Behind completed frames a run goes on as the host they left. -/
theorem CompletedFrames.runFrames_add
    (frames : CompletedFrames host count last trace) (further : Nat) :
    host.runFrames (count + further) =
      { last.runFrames further with
        completed := count + (last.runFrames further).completed
        trace := trace ++ (last.runFrames further).trace } := by
  rw [host.runFrames_add, frames.runFrames_eq]
  rfl

/-! ## Counting calls -/

/-- A completed frame scans once and draws once. -/
theorem CompletedFrame.counts (frame : CompletedFrame host next trace) :
    trace.countP Event.isScan = 1 ∧ trace.countP Event.isDrew = 1 := by
  obtain ⟨keypad, command, tone, shown, calls, sound_calls⟩ := frame.calls
  have noScan := countP_soundCalls Event.isScan_of_isSoundCall sound_calls
  have noDraw := countP_soundCalls Event.isDrew_of_isSoundCall sound_calls
  constructor
  · rw [countP_callsOf Event.isCall_of_isScan, calls, List.countP_append,
      List.countP_cons, noScan]
    rfl
  · rw [countP_callsOf Event.isCall_of_isDrew, calls, List.countP_append,
      List.countP_cons, noDraw]
    rfl

theorem CompletedFrames.counts
    (frames : CompletedFrames host count last trace) :
    trace.countP Event.isScan = count ∧
      trace.countP Event.isDrew = count := by
  induction frames with
  | none host => exact ⟨rfl, rfl⟩
  | more first rest counted =>
      rw [List.countP_append, List.countP_append, first.counts.1,
        first.counts.2, counted.1, counted.2]
      exact ⟨Nat.add_comm 1 _, Nat.add_comm 1 _⟩

/-- A last frame scans once and draws nothing. -/
theorem LastFrame.counts (frame : LastFrame host result after trace) :
    trace.countP Event.isScan = 1 ∧ trace.countP Event.isDrew = 0 := by
  rw [countP_callsOf Event.isCall_of_isScan,
    countP_callsOf Event.isCall_of_isDrew]
  cases frame with
  | quit device scan untouched scan_calls =>
      rw [scan_calls]
      exact ⟨rfl, rfl⟩
  | scanFailed device scan scan_calls =>
      rw [scan_calls]
      exact ⟨rfl, rfl⟩
  | stepFailed begun step run run_calls =>
      obtain ⟨keypad, begin_calls⟩ := begun.calls
      rw [callsOf_append, begin_calls, run_calls]
      exact ⟨rfl, rfl⟩
  | drawFailed played device left draw draw_calls =>
      obtain ⟨keypad, tone, play_calls, sound_calls⟩ := played.calls
      have noScan :=
        countP_soundCalls Event.isScan_of_isSoundCall sound_calls
      have noDraw :=
        countP_soundCalls Event.isDrew_of_isSoundCall sound_calls
      rw [callsOf_append, play_calls, draw_calls]
      constructor
      · rw [List.countP_append, List.countP_cons, noScan]
        rfl
      · rw [List.countP_append, List.countP_cons, noDraw]
        rfl

/-- An ending draws nothing, and a limit is a bound for the scans. -/
theorem LoopEnd.counts {config : Config}
    (ends : LoopEnd config count last result after trace) :
    trace.countP Event.isDrew = 0 ∧
      ∀ limit, config.maxFrames = some limit →
        count + trace.countP Event.isScan ≤ limit.toNat := by
  cases ends with
  | limit limited reached =>
      refine ⟨rfl, ?_⟩
      intro limit same
      rw [limited] at same
      cases same
      exact Nat.le_of_eq reached
  | frame allowed frame =>
      refine ⟨frame.counts.2, ?_⟩
      intro limit limited
      rw [frame.counts.1]
      exact allowed limit limited

/-- What is told about a run is no call, and the last one stops the tone. -/
theorem filter_isSoundCall_ended {config : Config} {silencing : List Event}
    {stopped : Bool} (stop_calls : callsOf silencing = [.stop stopped]) :
    (announcement config ++ trace ++ silencing ++
        [Event.told (.stopped count)]).filter Event.isSoundCall =
      trace.filter Event.isSoundCall ++ [.stop stopped] := by
  have announced :
      (announcement config).filter Event.isSoundCall = [] := rfl
  have told :
      [Event.told (.stopped count)].filter Event.isSoundCall = [] := rfl
  rw [List.filter_append, List.filter_append, List.filter_append, announced,
    told, filter_callsOf Event.isCall_of_isSoundCall silencing, stop_calls,
    List.nil_append, List.append_nil]
  rfl

/-! ## The loop -/

/-- What a run has made when it has ended. -/
structure LoopRun (host : Host ι δ σ)
    (made : Activity Event Error (Host ι δ σ) Nat) (completed : Nat)
    (last : Host ι δ σ) (frames : List Event) (result : Except Error Unit)
    (after : Host ι δ σ) (final : List Event) : Prop where
  /-- The completed frames come first. -/
  starts : CompletedFrames host completed last frames
  /-- Then the run ends at the limit or with a last frame. -/
  ends : LoopEnd host.config completed last result after final
  /-- The result is the number of completed frames or the error. -/
  result_eq : made.result = result.map fun () => completed
  /-- At the end only the sound device is asked to stop. -/
  state_eq : made.state =
    { after with sound := (SoundDevice.stop after.sound).state }
  /-- What happened is told between an announcement and a farewell. -/
  trace_eq : made.trace =
    announcement host.config ++ (frames ++ final) ++ after.silence.2 ++
      [.told (.stopped completed)]

variable {made : Activity Event Error (Host ι δ σ) Nat}
  {frames final : List Event}

/-- Each frame of a run scans once, and each completed one draws once. -/
theorem LoopRun.counts
    (run : LoopRun host made count last frames result after final) :
    made.trace.countP Event.isScan =
        count + final.countP Event.isScan ∧
      made.trace.countP Event.isDrew = count := by
  obtain ⟨scans, draws⟩ := run.starts.counts
  obtain ⟨noDraw, -⟩ := run.ends.counts
  have noScanAfter : after.silence.2.countP Event.isScan = 0 := by
    rw [countP_callsOf Event.isCall_of_isScan, after.callsOf_silence]
    rfl
  have noDrawAfter : after.silence.2.countP Event.isDrew = 0 := by
    rw [countP_callsOf Event.isCall_of_isDrew, after.callsOf_silence]
    rfl
  rw [run.trace_eq]
  simp only [List.countP_append, scans, draws, noDraw, noScanAfter,
    noDrawAfter]
  constructor
  · simp [announcement, Event.isScan]
  · simp [announcement, Event.isDrew]

/-- The last call to the sound device stops the tone. -/
theorem LoopRun.sound_calls
    (run : LoopRun host made count last frames result after final) :
    ∃ stopped, made.trace.filter Event.isSoundCall =
      (frames ++ final).filter Event.isSoundCall ++ [.stop stopped] := by
  rw [run.trace_eq]
  exact ⟨_, filter_isSoundCall_ended after.callsOf_silence⟩

/-- Completed frames and an end, with the tone stopped behind them. -/
theorem loopRun_finish {ending : Ending}
    (starts : CompletedFrames host count last frames)
    (ends : LoopEnd host.config count last result after final)
    (same : ending = endingOf result ∨ ending = .limit ∧ result = .ok ())
    (kept : after.config = host.config) :
    LoopRun host (finish ⟨count, ending, after, frames ++ final⟩) count last
      frames result after final := by
  rw [finish_eq count result ending after (frames ++ final) same, kept,
    after.silence_state]
  exact ⟨starts, ends, rfl, rfl, rfl⟩

/-- How many frames a run makes at most while it is watched. -/
def frameBound (config : Config) (patience : Nat) : Nat :=
  (config.maxFrames.map UInt64.toNat).getD patience

/-- A run has ended unless it has no limit and outlasts its patience. -/
theorem mainLoop_eq_some_iff {patience : Nat} :
    host.mainLoop? patience = some made ↔
      made = finish (host.runFrames (frameBound host.config patience)) ∧
        (host.config.maxFrames = none →
          (host.runFrames patience).ending ≠ .limit) := by
  rw [mainLoop?, frameBound]
  cases host.config.maxFrames with
  | some limit => simp [eq_comm]
  | none =>
      by_cases reached : (host.runFrames patience).ending = .limit
      · simp [reached]
      · simp [reached, eq_comm]

/-- A run that has ended is the same however long it is watched. -/
theorem mainLoop_of_le {patience longer : Nat}
    (ran : host.mainLoop? patience = some made) (patient : patience ≤ longer) :
    host.mainLoop? longer = some made := by
  obtain ⟨further, rfl⟩ := Nat.exists_eq_add_of_le patient
  rw [mainLoop?] at ran ⊢
  cases limited : host.config.maxFrames with
  | some limit => simpa only [limited] using ran
  | none =>
      simp only [limited] at ran ⊢
      have ended : (host.runFrames patience).ending ≠ .limit := by
        intro unfinished
        rw [if_pos unfinished] at ran
        cases ran
      rw [runFrames_of_ended ended]
      exact ran

/-- A run has ended with as many frames as it may make, or before that. -/
theorem mainLoop_of_runFrames {patience : Nat}
    (allowed : count ≤ frameBound host.config patience)
    (ended : (host.runFrames count).ending ≠ .limit ∨
      host.config.maxFrames.map UInt64.toNat = some count) :
    host.mainLoop? patience = some (finish (host.runFrames count)) := by
  rw [mainLoop_eq_some_iff]
  rcases ended with ended | limited
  · obtain ⟨further, bound⟩ := Nat.exists_eq_add_of_le allowed
    rw [bound, runFrames_of_ended ended]
    refine ⟨rfl, fun unlimited => ?_⟩
    rw [frameBound, unlimited] at bound
    have watched : patience = count + further := bound
    rw [watched, runFrames_of_ended ended]
    exact ended
  · rw [frameBound, limited]
    refine ⟨rfl, fun unlimited => ?_⟩
    rw [unlimited] at limited
    cases limited

/-- A run that has ended is made of its completed frames and its end. -/
theorem loopRun_of_mainLoop {patience : Nat}
    (ran : host.mainLoop? patience = some made) :
    ∃ completed last frames result after final,
      LoopRun host made completed last frames result after final := by
  obtain ⟨rfl, stopped⟩ := mainLoop_eq_some_iff.mp ran
  have kept :=
    host.config_runFrames (frameBound host.config patience)
  obtain ⟨last, frames, starts, ends⟩ :=
    host.runFrames_eq (frameBound host.config patience)
  rcases ends with
    ended | ⟨completed, result, after, final, fewer, frame, ended⟩
  · rw [ended] at starts kept ⊢
    cases limited : host.config.maxFrames with
    | none =>
        rw [frameBound, limited] at ended
        exact absurd (congrArg FrameRun.ending ended) (stopped limited)
    | some limit =>
        have reached : frameBound host.config patience = limit.toNat := by
          rw [frameBound, limited]
          rfl
        have run := loopRun_finish starts (.limit limited reached)
          (.inr ⟨rfl, rfl⟩) kept
        rw [List.append_nil] at run
        exact ⟨_, _, _, _, _, _, run⟩
  · rw [ended] at starts kept ⊢
    refine ⟨completed, last, frames, result, after, final, ?_⟩
    refine loopRun_finish starts (.frame ?_ frame) (.inl rfl) kept
    intro limit limited
    rw [frameBound, limited] at fewer
    exact fewer

/-- Only a run without a limit can outlast its patience. -/
theorem completedFrames_of_mainLoop_eq_none {patience : Nat}
    (unfinished : host.mainLoop? patience = none) :
    host.config.maxFrames = none ∧
      ∃ last trace, CompletedFrames host patience last trace := by
  cases limited : host.config.maxFrames with
  | some limit => simp [mainLoop?, limited] at unfinished
  | none =>
      refine ⟨rfl, ?_⟩
      obtain ⟨last, frames, starts, ends⟩ := host.runFrames_eq patience
      rcases ends with ended | ⟨completed, result, after, final, fewer, frame,
        ended⟩
      · rw [ended] at starts
        exact ⟨last, frames, starts⟩
      · rw [mainLoop?, limited, ended] at unfinished
        cases result <;> cases unfinished

/--
A run with a limit always ends, after at most as many scans; one without a
limit ends, or else completes as many frames as it is watched for.  A run that
has ended completed frames and then reached its limit, met the command to quit
or an error; it gives the number of completed frames, which is that of the
drawings, or exactly this error, and its last call to the sound device is to
stop the tone.
-/
theorem mainLoop_contract (host : Host ι δ σ) (patience : Nat) :
    (∀ limit, host.config.maxFrames = some limit →
      ∃ made, host.mainLoop? patience = some made ∧
        made.trace.countP Event.isScan ≤ limit.toNat) ∧
    (host.mainLoop? patience = none →
      host.config.maxFrames = none ∧
        ∃ last trace, CompletedFrames host patience last trace) ∧
    (∀ made, host.mainLoop? patience = some made →
      ∃ completed last frames result after final,
        LoopRun host made completed last frames result after final ∧
          made.trace.countP Event.isDrew = completed ∧
          ∃ stopped, made.trace.filter Event.isSoundCall =
            (frames ++ final).filter Event.isSoundCall ++
              [.stop stopped]) := by
  refine ⟨?_, completedFrames_of_mainLoop_eq_none, ?_⟩
  · intro limit limited
    cases ran : host.mainLoop? patience with
    | none =>
        have unlimited := (completedFrames_of_mainLoop_eq_none ran).1
        rw [limited] at unlimited
        cases unlimited
    | some made =>
        obtain ⟨completed, last, frames, result, after, final, run⟩ :=
          loopRun_of_mainLoop ran
        refine ⟨made, rfl, ?_⟩
        rw [run.counts.1]
        exact run.ends.counts.2 limit limited
  · intro made ran
    obtain ⟨completed, last, frames, result, after, final, run⟩ :=
      loopRun_of_mainLoop ran
    exact ⟨completed, last, frames, result, after, final, run, run.counts.2,
      run.sound_calls⟩

/-- A host whose second drawing fails and whose tone cannot be stopped. -/
def brokenHost : Host KeyScript (FaultyDisplay FrameRecorder) StubbornSound :=
  .start ⟨0, 60, false, some 5, none⟩ (.ofSeed 0) ⟨[]⟩ ⟨.empty, 0, some 2⟩
    ⟨false, true, none, false⟩

/-- It completes one frame, and its error is not that of the tone. -/
theorem brokenHost_fails :
    ∃ made, brokenHost.mainLoop? 0 = some made ∧
      made.result = .error (.io FaultyDisplay.error) ∧
      made.trace.countP Event.isDrew = 1 ∧
      ∃ earlier stopped, made.trace.filter Event.isSoundCall =
        earlier ++ [.stop stopped] := by
  obtain ⟨limited, -, ended⟩ := mainLoop_contract brokenHost 0
  obtain ⟨made, ran, -⟩ := limited 5 rfl
  obtain ⟨-, -, frames, -, -, final, -, -, stopped, sound_calls⟩ :=
    ended made ran
  have computed :
      brokenHost.mainLoop? 0 = some (finish (brokenHost.runFrames 5)) := rfl
  have made_eq : made = finish (brokenHost.runFrames 5) :=
    Option.some.inj (ran.symm.trans computed)
  refine ⟨made, ran, ?_, ?_, _, stopped, sound_calls⟩
  · rw [made_eq]
    rfl
  · rw [made_eq]
    rfl

end Host

end Chip8
