import Chip8.Host

/-!
# The host loop

A run makes frames until it has made as many as the settings allow, the user
quits, or something fails.  However it ends, the tone is then stopped, and an
error of the run is reported even if stopping the tone fails as well.

A run without a limit need not end.  It is described up to a number of frames,
its patience; a run that has not ended by then has no answer.
-/

namespace Chip8

/-- Why no more frames are made. -/
inductive Ending where
  /-- As many frames were made as were asked for. -/
  | limit
  /-- The user quit. -/
  | quit
  /-- Something failed. -/
  | failed (error : Error)
  deriving DecidableEq

/-- What a number of frames left behind. -/
structure FrameRun (η : Type) where
  /-- How many frames were completed. -/
  completed : Nat
  /-- Why no more frames were made. -/
  ending : Ending
  /-- The host afterwards. -/
  host : η
  /-- What happened, oldest first. -/
  trace : List Event

namespace Host

variable {ι δ σ : Type} [InputDevice ι] [DisplayDevice δ] [SoundDevice σ]

/-- Make frames until `limit` are made, the user quits or something fails. -/
def runFrames (host : Host ι δ σ) : (limit : Nat) → FrameRun (Host ι δ σ)
  | 0 => ⟨0, .limit, host, []⟩
  | limit + 1 =>
      let made := host.frame
      match made.result with
      | .error error => ⟨0, .failed error, made.state, made.trace⟩
      | .ok false => ⟨0, .quit, made.state, made.trace⟩
      | .ok true =>
          let later := made.state.runFrames limit
          { later with
            completed := later.completed + 1
            trace := made.trace ++ later.trace }

/-- What is told when a run begins. -/
def announcement (config : Config) : List Event :=
  [.told (.running config.cyclesPerFrame.toNat config.frameRate.toNat)]

/-- Stop the tone at the end of a run. -/
def silence (host : Host ι δ σ) : Host ι δ σ × List Event :=
  let made := SoundDevice.stop host.sound
  let after := { host with sound := made.state }
  let emitted := made.trace.map Event.sound
  match made.result with
  | .ok () => (after, emitted ++ [.stop true])
  | .error error =>
      (after, emitted ++ [.stop false, .told (.toneKept error)])

/-- End a run: stop the tone and report how many frames were completed. -/
def windUp (run : FrameRun (Host ι δ σ)) :
    Activity Event Error (Host ι δ σ) Nat :=
  let (host, silencing) := run.host.silence
  { result :=
      match run.ending with
      | .limit => .ok run.completed
      | .quit => .ok run.completed
      | .failed error => .error error
    state := host
    trace := silencing ++ [.told (.stopped run.completed)] }

/-- A run that has ended, from what is told at its beginning on. -/
def finish (run : FrameRun (Host ι δ σ)) :
    Activity Event Error (Host ι δ σ) Nat :=
  let ended := windUp run
  { ended with
    trace := announcement run.host.config ++ run.trace ++ ended.trace }

/-- A whole run, if it ends within its patience or has a limit. -/
def mainLoop? (host : Host ι δ σ) (patience : Nat) :
    Option (Activity Event Error (Host ι δ σ) Nat) :=
  match host.config.maxFrames with
  | some limit => some (finish (host.runFrames limit.toNat))
  | none =>
      let run := host.runFrames patience
      if run.ending = .limit then none else some (finish run)

end Host

end Chip8
