import Chip8.Nibble

/-!
# The cipher behind the random bytes

The sequence of a seed is the key stream of the ChaCha cipher with twelve
rounds, read word by word; each word gives the byte in its low eight bits.

A seed of 64 bits is spread over the 256 bits of a key by a linear congruential
generator, each of whose states gives one word of the key.
-/

namespace Chip8

/-- The words of a key. -/
abbrev CipherKey := Vector UInt32 8

namespace CipherKey

/-- The next state of the generator that spreads a seed. -/
def advance (state : UInt64) : UInt64 :=
  state * 6364136223846793005 + 11634580027462260723

/-- A word turned to the right. -/
def rotateRight (word amount : UInt32) : UInt32 :=
  (word >>> amount) ||| (word <<< ((32 - amount) % 32))

/-- The word that a state of the generator gives. -/
def output (state : UInt64) : UInt32 :=
  rotateRight (((state >>> 18) ^^^ state) >>> 27).toUInt32
    (state >>> 59).toUInt32

/-- The key of a seed. -/
def ofSeed (seed : UInt64) : CipherKey :=
  Vector.ofFn fun index => output (Nat.repeat advance (index.val + 1) seed)

end CipherKey

/-- The sixteen words that the cipher works on, numbered by nibbles. -/
abbrev CipherState := Vector UInt32 16

namespace CipherState

/-- A word turned to the left. -/
def rotateLeft (word amount : UInt32) : UInt32 :=
  (word <<< amount) ||| (word >>> ((32 - amount) % 32))

/-- One mixing of four words. -/
def quarterRound (state : CipherState) (a b c d : Nibble) : CipherState :=
  let state := state.set a (state[a] + state[b])
  let state := state.set d (rotateLeft (state[d] ^^^ state[a]) 16)
  let state := state.set c (state[c] + state[d])
  let state := state.set b (rotateLeft (state[b] ^^^ state[c]) 12)
  let state := state.set a (state[a] + state[b])
  let state := state.set d (rotateLeft (state[d] ^^^ state[a]) 8)
  let state := state.set c (state[c] + state[d])
  state.set b (rotateLeft (state[b] ^^^ state[c]) 7)

/-- A mixing of the four columns and then of the four diagonals. -/
def doubleRound (state : CipherState) : CipherState :=
  let state := state.quarterRound 0 4 8 12
  let state := state.quarterRound 1 5 9 13
  let state := state.quarterRound 2 6 10 14
  let state := state.quarterRound 3 7 11 15
  let state := state.quarterRound 0 5 10 15
  let state := state.quarterRound 1 6 11 12
  let state := state.quarterRound 2 7 8 13
  state.quarterRound 3 4 9 14

/--
The state before the rounds: four constants, the key and the block number.
-/
def initial (key : CipherKey) (block : UInt64) : CipherState :=
  #v[0x61707865, 0x3320646e, 0x79622d32, 0x6b206574,
    key[0], key[1], key[2], key[3], key[4], key[5], key[6], key[7],
    block.toUInt32, (block >>> 32).toUInt32, 0, 0]

/-- One block of the key stream. -/
def keyStream (key : CipherKey) (block : UInt64) : CipherState :=
  let before := initial key block
  Vector.zipWith (· + ·) (Nat.repeat doubleRound 6 before) before

end CipherState

namespace CipherKey

/-- The byte at a place of the sequence of a key. -/
def byteAt (key : CipherKey) (place : Nat) : UInt8 :=
  let block := CipherState.keyStream key (UInt64.ofNat (place / 16))
  have inside : place % 16 < 16 := by omega
  block[place % 16].toUInt8

end CipherKey

end Chip8
