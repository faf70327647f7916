import Chip8.Host.Request
import Chip8.Proofs.Host.Loop

/-!
# Hosts in use

A host can be asked for one thing after another.  A property that a host keeps
at a load, in each part of a frame and at the end of a run is an invariant: it
holds of every host that is reached, and in the middle of its runs as well,
also of those that do not end.
-/

namespace Chip8

namespace Host

variable {ι δ σ : Type}

theorem config_load [SoundDevice σ] (host : Host ι δ σ)
    (fresh : RandomSource) (program : List UInt8) :
    (host.load fresh program).state.config = host.config := by
  rw [load]
  split
  · rfl
  · exact Activity.andThen_keeps rfl fun _ loaded kept =>
      loaded.config_updateSound.trans kept

variable [InputDevice ι] [DisplayDevice δ] [SoundDevice σ]

/-- A property that a host keeps whatever it does. -/
structure Kept (holds : Host ι δ σ → Prop) : Prop where
  load : ∀ host fresh program, holds host →
    holds (host.load fresh program).state
  scan : ∀ host, holds host → holds host.scan.state
  obey : ∀ host command, holds host → holds (host.obey command).state
  runFrame : ∀ host, holds host → holds host.runFrame.state
  updateSound : ∀ host, holds host → holds host.updateSound.state
  present : ∀ host, holds host → holds host.present.state
  silence : ∀ host, holds host → holds host.silence.1

/-- A host that another one has become by meeting requests. -/
inductive Reached (start : Host ι δ σ) : Host ι δ σ → Prop where
  | start : Reached start start
  | met {host : Host ι δ σ} {request : Request}
      {made : Activity Event Error (Host ι δ σ) (Option Nat)}
      (reached : Reached start host) (meets : host.meet? request = some made) :
      Reached start made.state

variable {holds : Host ι δ σ → Prop} {start host obeyed ran sounded next last :
  Host ι δ σ} {command : Option Command} {count : Nat} {trace : List Event}

/-! ## Frames -/

theorem Kept.frame (kept : Kept holds) (before : holds host) :
    holds host.frame.state := by
  refine Activity.andThen_preserves holds (kept.scan host before) ?_
  intro command scanned before
  split
  · exact before
  refine Activity.andThen_preserves holds (kept.obey scanned command before) ?_
  intro _ obeyed before
  refine Activity.andThen_preserves holds (kept.runFrame obeyed before) ?_
  intro _ ran before
  refine Activity.andThen_preserves holds (kept.updateSound ran before) ?_
  intro _ sounded before
  exact Activity.andThen_preserves holds (kept.present sounded before)
    fun _ _ shown => shown

theorem Kept.begun (kept : Kept holds)
    (begun : Begun host command obeyed trace) (before : holds host) :
    holds obeyed := by
  cases begun with
  | @made scanned _ _ _ _ _ scan going obey scan_calls obey_calls =>
      have scanning := kept.scan host before
      rw [scan] at scanning
      have obeying := kept.obey scanned command scanning
      rw [obey] at obeying
      exact obeying

/-- It holds when the steps and the tick are done, and behind the sound. -/
theorem Kept.played (kept : Kept holds)
    (played : Played host command ran sounded trace) (before : holds host) :
    holds ran ∧ holds sounded := by
  cases played with
  | @made obeyed _ _ _ _ begun run sound run_calls sound_calls =>
      have running := kept.runFrame obeyed (kept.begun begun before)
      rw [run] at running
      have sounding := kept.updateSound ran running
      rw [sound] at sounding
      exact ⟨running, sounding⟩

theorem Kept.completedFrame (kept : Kept holds)
    (frame : CompletedFrame host next trace) (before : holds host) :
    holds next := by
  cases frame with
  | @made _ _ sounded _ _ _ played _ _ draw draw_calls =>
      have drawing := kept.present sounded (kept.played played before).2
      rw [draw] at drawing
      exact drawing

theorem Kept.completedFrames (kept : Kept holds)
    (frames : CompletedFrames host count last trace) (before : holds host) :
    holds last := by
  induction frames with
  | none host => exact before
  | more first rest later => exact later (kept.completedFrame first before)

/-! ## Runs and requests -/

theorem Kept.runFrames (kept : Kept holds) (before : holds host)
    (limit : Nat) : holds (host.runFrames limit).host := by
  induction limit generalizing host with
  | zero => exact before
  | succ limit further =>
      have after := kept.frame before
      rw [Host.runFrames]
      cases host.frame.result with
      | error error => exact after
      | ok goesOn =>
          cases goesOn with
          | false => exact after
          | true => exact further after

theorem Kept.meet (kept : Kept holds) (before : holds host)
    {request : Request}
    {made : Activity Event Error (Host ι δ σ) (Option Nat)}
    (meets : host.meet? request = some made) : holds made.state := by
  cases request with
  | load fresh program =>
      cases meets
      exact kept.load host fresh program before
  | runFrame =>
      cases meets
      exact kept.runFrame host before
  | mainLoop patience =>
      obtain ⟨ran, ended, rfl⟩ := Option.map_eq_some_iff.mp meets
      obtain ⟨rfl, -⟩ := mainLoop_eq_some_iff.mp ended
      exact kept.silence _ (kept.runFrames before _)

theorem Reached.mainLoop (reached : Reached start host) {patience : Nat}
    {made : Activity Event Error (Host ι δ σ) Nat}
    (ran : host.mainLoop? patience = some made) : Reached start made.state := by
  have meets : host.meet? (.mainLoop patience) = some (made.map some) := by
    rw [meet?, ran]
    rfl
  exact .met reached meets

/-- What is kept holds of every host that is reached. -/
theorem Kept.reached (kept : Kept holds) (reached : Reached start host)
    (initially : holds start) : holds host := by
  induction reached with
  | start => exact initially
  | met _ meets before => exact kept.meet before meets

/-! ## The settings -/

theorem kept_config (config : Config) :
    Kept fun host : Host ι δ σ => host.config = config where
  load host fresh program := (host.config_load fresh program).trans
  scan host := host.config_scan.trans
  obey host command := (host.config_obey command).trans
  runFrame host := host.config_runFrame.trans
  updateSound host := host.config_updateSound.trans
  present host := host.config_present.trans
  silence host := (congrArg Host.config host.silence_state).trans

theorem Reached.config_eq (reached : Reached start host) :
    host.config = start.config :=
  (kept_config start.config).reached reached rfl

end Host

end Chip8
