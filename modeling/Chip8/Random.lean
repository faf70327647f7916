import Chip8.Random.Cipher

/-!
# Random bytes

Every seed stands for a sequence of bytes.  Which sequence that is comes with
the source, and nothing that draws from a source depends on it; a program runs
with the sequences of a cipher.  A source reads one sequence byte by byte, and
a seed makes it read another one from its start.
-/

namespace Chip8

/-- A source of random bytes. -/
structure RandomSource where
  /-- The sequence of each seed. -/
  sequenceOf : UInt64 → Nat → UInt8
  /-- The sequence that is read. -/
  sequence : Nat → UInt8
  /-- How many bytes have been read. -/
  drawn : Nat

namespace RandomSource

/-- The source at the start of the sequence of a seed. -/
def reseed (source : RandomSource) (seed : UInt64) : RandomSource :=
  { source with sequence := source.sequenceOf seed, drawn := 0 }

/-- The next byte of the sequence, and the source after it. -/
def next (source : RandomSource) : UInt8 × RandomSource :=
  (source.sequence source.drawn, { source with drawn := source.drawn + 1 })

/-- The source that reads what the cipher makes of a seed. -/
def ofSeed (seed : UInt64) : RandomSource where
  sequenceOf := fun seed => (CipherKey.ofSeed seed).byteAt
  sequence := (CipherKey.ofSeed seed).byteAt
  drawn := 0

end RandomSource

end Chip8
