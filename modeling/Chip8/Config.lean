import Chip8.Random

/-!
# Settings

What can be chosen about a run.  Whoever starts a run provides a source of
random bytes; a run with a seed has it read the sequence of this seed.
-/

namespace Chip8

/-- The settings of a host. -/
structure Config where
  /-- How many instructions a frame has at most. -/
  cyclesPerFrame : UInt32 := 10
  /-- How many frames a second has. -/
  frameRate : UInt32 := 60
  /-- Whether the tone is muted at first. -/
  muted : Bool := false
  /-- After how many frames the run ends. -/
  maxFrames : Option UInt64 := none
  /-- The seed of the random bytes. -/
  seed : Option UInt64 := none
  deriving DecidableEq

/-- The source of random bytes of a new machine. -/
def Config.randomSource (config : Config) (fresh : RandomSource) :
    RandomSource :=
  match config.seed with
  | some seed => fresh.reseed seed
  | none => fresh

end Chip8
