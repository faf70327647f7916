import Chip8.Proofs.Instruction.Decoding

/-!
# Patterns of words

The words that mean something are given by 35 patterns of four hexadecimal
digits, some of which are fixed while the others stand for operands.  A word
is decoded as unknown if and only if it matches none of the patterns.

The patterns overlap, for 00E0 and 00EE are words of the pattern 0nnn as well.
Matching therefore tells whether a word is known, and not which instruction it
spells.
-/

namespace Chip8

open Instruction

/-- Four digits of a word, where `none` is a digit that is free. -/
structure Pattern where
  family : Nibble
  x : Option Nibble
  y : Option Nibble
  n : Option Nibble
  deriving DecidableEq

namespace Pattern

/-- Only the family is fixed: 1nnn or 3xkk. -/
def ofFamily (family : Nibble) : Pattern :=
  ⟨family, none, none, none⟩

/-- The family and the last digit are fixed: 8xy4. -/
def ofLast (family n : Nibble) : Pattern :=
  ⟨family, none, none, some n⟩

/-- All digits but the second one are fixed: Fx15. -/
def ofByte (family y n : Nibble) : Pattern :=
  ⟨family, none, some y, some n⟩

/-- The pattern of a single word. -/
def ofDigits (family x y n : Nibble) : Pattern :=
  ⟨family, some x, some y, some n⟩

/-- The word in which the free digits are filled in. -/
def fill (pattern : Pattern) (x y n : Nibble) : UInt16 :=
  wordOf pattern.family (pattern.x.getD x) (pattern.y.getD y)
    (pattern.n.getD n)

/-- The word has the digits that are fixed. -/
def Matches (pattern : Pattern) (word : UInt16) : Prop :=
  ∃ x y n, word = pattern.fill x y n

end Pattern

/-- The patterns of all words that mean something. -/
def patterns : List Pattern :=
  [.ofDigits 0x0 0x0 0xE 0x0, -- 00E0
    .ofDigits 0x0 0x0 0xE 0xE, -- 00EE
    .ofFamily 0x0, -- 0nnn
    .ofFamily 0x1, -- 1nnn
    .ofFamily 0x2, -- 2nnn
    .ofFamily 0x3, -- 3xkk
    .ofFamily 0x4, -- 4xkk
    .ofLast 0x5 0x0, -- 5xy0
    .ofFamily 0x6, -- 6xkk
    .ofFamily 0x7, -- 7xkk
    .ofLast 0x8 0x0, -- 8xy0
    .ofLast 0x8 0x1, -- 8xy1
    .ofLast 0x8 0x2, -- 8xy2
    .ofLast 0x8 0x3, -- 8xy3
    .ofLast 0x8 0x4, -- 8xy4
    .ofLast 0x8 0x5, -- 8xy5
    .ofLast 0x8 0x6, -- 8xy6
    .ofLast 0x8 0x7, -- 8xy7
    .ofLast 0x8 0xE, -- 8xyE
    .ofLast 0x9 0x0, -- 9xy0
    .ofFamily 0xA, -- Annn
    .ofFamily 0xB, -- Bnnn
    .ofFamily 0xC, -- Cxkk
    .ofFamily 0xD, -- Dxyn
    .ofByte 0xE 0x9 0xE, -- Ex9E
    .ofByte 0xE 0xA 0x1, -- ExA1
    .ofByte 0xF 0x0 0x7, -- Fx07
    .ofByte 0xF 0x0 0xA, -- Fx0A
    .ofByte 0xF 0x1 0x5, -- Fx15
    .ofByte 0xF 0x1 0x8, -- Fx18
    .ofByte 0xF 0x1 0xE, -- Fx1E
    .ofByte 0xF 0x2 0x9, -- Fx29
    .ofByte 0xF 0x3 0x3, -- Fx33
    .ofByte 0xF 0x5 0x5, -- Fx55
    .ofByte 0xF 0x6 0x5] -- Fx65

/-- Whether the instruction is more than a word that means nothing. -/
def Instruction.isKnown : Instruction → Bool
  | .unknown _ => false
  | _ => true

/-- The word is an instance of one of the patterns. -/
def Listed (word : UInt16) : Prop :=
  ∃ pattern ∈ patterns, pattern.Matches word

/-! ## Words that match are known -/

theorem decode_fill_ne_unknown {pattern : Pattern}
    (listed : pattern ∈ patterns) (x y n : Nibble) (word : UInt16) :
    decode (pattern.fill x y n) ≠ .unknown word := by
  simp only [Pattern.fill, decode, fields_wordOf]
  simp only [patterns, List.mem_cons, List.not_mem_nil, or_false] at listed
  repeat' rcases listed with rfl | listed
  -- Words 0nnn are read in three ways; any other pattern leaves a single row.
  case inr.inr.inl =>
    dsimp only [Pattern.ofFamily, Option.getD_none]
    split
    case h_36 => contradiction
    all_goals rintro ⟨⟩
  all_goals rintro ⟨⟩

/-! ## Words that are known match -/

theorem wordOfByte_eq (family x : Nibble) (kk : UInt8) :
    wordOfByte family x kk =
      wordOf family x (Nibble.upper kk) (Nibble.lower kk) := by
  apply UInt16.toNat.inj
  rw [toNat_wordOfByte, toNat_wordOf]
  simp only [Nibble.upper, Nibble.lower]
  omega

theorem listed_wordOfAddress {family : Nibble} (nnn : Address)
    (listed : .ofFamily family ∈ patterns) :
    Listed (wordOfAddress family nnn) := by
  refine ⟨_, listed, ⟨nnn.val / 256, by omega⟩, ⟨nnn.val / 16 % 16, by omega⟩,
    ⟨nnn.val % 16, by omega⟩, ?_⟩
  apply UInt16.toNat.inj
  simp only [Pattern.fill, Pattern.ofFamily, Option.getD_none,
    toNat_wordOfAddress, toNat_wordOf]
  omega

theorem listed_wordOfByte {family : Nibble} (x : Nibble) (kk : UInt8)
    (listed : .ofFamily family ∈ patterns) :
    Listed (wordOfByte family x kk) :=
  ⟨_, listed, x, _, _, wordOfByte_eq family x kk⟩

theorem listed_wordOf_last {family n : Nibble} (x y : Nibble)
    (listed : .ofLast family n ∈ patterns) : Listed (wordOf family x y n) :=
  ⟨_, listed, x, y, n, rfl⟩

theorem listed_wordOf_byte {family y n : Nibble} (x : Nibble)
    (listed : .ofByte family y n ∈ patterns) : Listed (wordOf family x y n) :=
  ⟨_, listed, x, y, n, rfl⟩

/-- The word of an instruction that is known is listed. -/
theorem listed_encode {instruction : Instruction}
    (known : instruction.isKnown = true) : Listed instruction.encode := by
  cases instruction with
  | clearScreen => exact ⟨.ofDigits 0x0 0x0 0xE 0x0, by decide, 0, 0, 0, rfl⟩
  | leave => exact ⟨.ofDigits 0x0 0x0 0xE 0xE, by decide, 0, 0, 0, rfl⟩
  | unknown word => cases known
  | skipIf condition =>
      cases condition with
      | equalsByte x kk => exact listed_wordOfByte x kk (by decide)
      | differsFromByte x kk => exact listed_wordOfByte x kk (by decide)
      | equalsRegister x y => exact listed_wordOf_last x y (by decide)
      | differsFromRegister x y => exact listed_wordOf_last x y (by decide)
      | keyDown x => exact listed_wordOf_byte x (by decide)
      | keyUp x => exact listed_wordOf_byte x (by decide)
  | combine arithmetic x y =>
      refine listed_wordOf_last x y ?_
      cases arithmetic <;> decide
  | draw x y n => exact ⟨.ofFamily 0xD, by decide, x, y, n, rfl⟩
  | loadByte x kk => exact listed_wordOfByte x kk (by decide)
  | addByte x kk => exact listed_wordOfByte x kk (by decide)
  | random x kk => exact listed_wordOfByte x kk (by decide)
  | shiftRight x => exact listed_wordOf_last x 0x0 (by decide)
  | shiftLeft x => exact listed_wordOf_last x 0x0 (by decide)
  | machineCode nnn => exact listed_wordOfAddress nnn (by decide)
  | jump nnn => exact listed_wordOfAddress nnn (by decide)
  | call nnn => exact listed_wordOfAddress nnn (by decide)
  | loadIndex nnn => exact listed_wordOfAddress nnn (by decide)
  | jumpOffset nnn => exact listed_wordOfAddress nnn (by decide)
  | _ x => exact listed_wordOf_byte x (by decide)

theorem listed_of_spells {word : UInt16} {instruction : Instruction}
    (spelled : Spells word instruction)
    (known : instruction.isKnown = true) : Listed word := by
  cases instruction with
  | shiftRight x =>
      rcases spelled with ⟨y, rfl⟩
      exact listed_wordOf_last x y (by decide)
  | shiftLeft x =>
      rcases spelled with ⟨y, rfl⟩
      exact listed_wordOf_last x y (by decide)
  | _ =>
      rw [show word = _ from spelled]
      exact listed_encode known

/-- The words that match no pattern are those that are unknown. -/
theorem decode_eq_unknown_iff (word : UInt16) :
    decode word = .unknown word ↔ ¬ Listed word := by
  constructor
  · rintro unknown ⟨pattern, listed, x, y, n, rfl⟩
    exact decode_fill_ne_unknown listed x y n _ unknown
  · intro unlisted
    have spelled := (decode_spells word).2
    cases decoded : decode word with
    | unknown other =>
        rw [decoded] at spelled
        rw [show word = other from spelled]
    | _ =>
        rw [decoded] at spelled
        exact absurd (listed_of_spells spelled rfl) unlisted

end Chip8
