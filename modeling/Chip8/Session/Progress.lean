import Chip8.Session

/-!
# Sessions frame by frame

What the terminal tells at a scan is known only when the scan is due.  A
session that is really held is therefore cut before each of its scans: between
two frames it is a host, and it goes on when it hears what is waiting.
-/

namespace Chip8

namespace Host

variable {δ σ : Type}

/-- The host of a keyboard at which this is going to wait at further scans. -/
def expecting (host : Host Keyboard δ σ) (scans : List (List Arrival)) :
    Host Keyboard δ σ :=
  { host with
    input := { host.input with waiting := host.input.waiting ++ scans } }

end Host

namespace Session

/-- What a session has come to. -/
inductive Progress (σ : Type) where
  /-- So many frames are completed, and another one is to be made. -/
  | playing (host : Host Keyboard TerminalDisplay σ) (completed : Nat)
      (trace : List Event)
  /-- The session is over. -/
  | ended (report : Report)

variable {σ : Type} [SoundDevice σ]

/-- The same with something that has happened before. -/
def Progress.after (progress : Progress σ) (earlier : List Event) :
    Progress σ :=
  match progress with
  | .playing host completed trace =>
      .playing host completed (earlier ++ trace)
  | .ended report => .ended { report with trace := earlier ++ report.trace }

/-- Go on behind some frames of a run, unless they are its last ones. -/
def proceed (title : String) (closeSound : σ → List Emission)
    (run : FrameRun (Host Keyboard TerminalDisplay σ)) : Progress σ :=
  let limit := run.host.config.maxFrames.map UInt64.toNat
  if run.ending = .limit ∧ limit ≠ some run.completed then
    .playing run.host run.completed run.trace
  else
    let ended := Host.windUp run
    .ended (conclude title { ended with trace := run.trace ++ ended.trace }
      closeSound)

/-- Come to the first scan of a session. -/
def start (world : World) (options : Options) (sound : σ)
    (closeSound : σ → List Emission) : Progress σ :=
  match prepare world options sound closeSound with
  | .refused report => .ended report
  | .ready host before =>
      proceed (title options.path) closeSound
        ⟨0, .limit, host, before ++ Host.announcement host.config⟩

/-- Make one more frame, at whose scan this is waiting. -/
def resume (title : String) (closeSound : σ → List Emission)
    (host : Host Keyboard TerminalDisplay σ) (completed : Nat)
    (now : List Arrival) : Progress σ :=
  let run := (host.expecting [now]).runFrames 1
  proceed title closeSound { run with completed := completed + run.completed }

/-- Make frames at whose scans this is waiting, until the session is over. -/
def Progress.through (title : String) (closeSound : σ → List Emission) :
    Progress σ → List (List Arrival) → Progress σ
  | .playing host completed trace, now :: later =>
      ((resume title closeSound host completed now).through title closeSound
        later).after trace
  | progress, _ => progress

end Session

end Chip8
