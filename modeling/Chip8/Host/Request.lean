import Chip8.Host.Loop

/-!
# Requests

Everything that can be asked of a host, as data, so that all that is asked of
it is a list.  A run without a limit need not end.  It is watched for a number
of frames, its patience, and if it has not ended by then, it is the last thing
that was asked for.
-/

namespace Chip8

/-- What is asked of a host. -/
inductive Request where
  /-- Load a program; a run without a seed takes its bytes from this source. -/
  | load (fresh : RandomSource) (program : List UInt8)
  /-- Make the steps and the tick of one frame. -/
  | runFrame
  /-- Make frames until the run ends. -/
  | mainLoop (patience : Nat)

namespace Host

variable {ι δ σ : Type} [InputDevice ι] [DisplayDevice δ] [SoundDevice σ]

/--
What a request leaves behind, if it ends; the result of a run is the number of
its frames, and other requests have none.
-/
def meet? (host : Host ι δ σ) :
    Request → Option (Activity Event Error (Host ι δ σ) (Option Nat))
  | .load fresh program =>
      some ((host.load fresh program).map fun () => none)
  | .runFrame => some (host.runFrame.map fun () => none)
  | .mainLoop patience =>
      (host.mainLoop? patience).map fun made => made.map some

/-- What requests leave behind one after another, until one does not end. -/
def meetAll (host : Host ι δ σ) :
    List Request → List (Activity Event Error (Host ι δ σ) (Option Nat))
  | [] => []
  | request :: rest =>
      match host.meet? request with
      | some made => made :: made.state.meetAll rest
      | none => []

end Host

end Chip8
