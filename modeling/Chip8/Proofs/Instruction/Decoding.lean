import Chip8.Instruction.Code

/-!
# Decoding and encoding

The word of an instruction is read field by field: its family is the first
nibble, and what follows are nibbles, a nibble and a byte, or an address.  Each
kind of word gives back the fields from which it was made.

From this, decoding and encoding are inverse to each other, except that a
shift has one word for every second register and that some instructions have a
word of another instruction.  A pattern of words is then the same as an
instruction that is decoded.
-/

namespace Chip8

namespace Instruction

/-- Whether the instruction is a shift, whose second register is not kept. -/
def isShift : Instruction → Bool
  | .shiftRight _ => true
  | .shiftLeft _ => true
  | _ => false

/-- The instruction is the one that its word stands for. -/
def WellFormed : Instruction → Prop
  | .machineCode nnn => nnn.val ≠ 0x0E0 ∧ nnn.val ≠ 0x0EE
  | .unknown word => decode word = .unknown word
  | _ => True

/-! ## Words made of fields -/

theorem toNat_wordOf (family x y n : Nibble) :
    (wordOf family x y n).toNat =
      4096 * family.val + 256 * x.val + 16 * y.val + n.val := by
  rw [wordOf, UInt16.toNat_ofNat']
  have family_lt := family.val_lt
  have x_lt := x.val_lt
  have y_lt := y.val_lt
  have n_lt := n.val_lt
  omega

theorem toNat_wordOfByte (family x : Nibble) (kk : UInt8) :
    (wordOfByte family x kk).toNat =
      4096 * family.val + 256 * x.val + kk.toNat := by
  rw [wordOfByte, UInt16.toNat_ofNat']
  have family_lt := family.val_lt
  have x_lt := x.val_lt
  have kk_lt := kk.toNat_lt
  omega

theorem toNat_wordOfAddress (family : Nibble) (nnn : Address) :
    (wordOfAddress family nnn).toNat = 4096 * family.val + nnn.val := by
  rw [wordOfAddress, UInt16.toNat_ofNat']
  have family_lt := family.val_lt
  omega

/-- The four nibbles of a word made of nibbles. -/
theorem fields_wordOf (family x y n : Nibble) :
    (wordOf family x y n).toNat / 4096 = family.val ∧
      (wordOf family x y n).toNat / 256 % 16 = x.val ∧
      (wordOf family x y n).toNat / 16 % 16 = y.val ∧
      (wordOf family x y n).toNat % 16 = n.val := by
  rw [toNat_wordOf]
  have x_lt := x.val_lt
  have y_lt := y.val_lt
  have n_lt := n.val_lt
  omega

/-- The family, the nibble and the byte of a word made of them. -/
theorem fields_wordOfByte (family x : Nibble) (kk : UInt8) :
    (wordOfByte family x kk).toNat / 4096 = family.val ∧
      (wordOfByte family x kk).toNat / 256 % 16 = x.val ∧
      UInt8.ofNat ((wordOfByte family x kk).toNat % 256) = kk := by
  rw [toNat_wordOfByte]
  have x_lt := x.val_lt
  have kk_lt := kk.toNat_lt
  refine ⟨by omega, by omega, ?_⟩
  apply UInt8.toNat.inj
  rw [UInt8.toNat_ofNat']
  omega

/-- The family and the address of a word made of them. -/
theorem fields_wordOfAddress (family : Nibble) (nnn : Address) :
    (wordOfAddress family nnn).toNat / 4096 = family.val ∧
      (wordOfAddress family nnn).toNat % 4096 = nnn.val := by
  rw [toNat_wordOfAddress]
  omega

/-! ## The two directions -/

/--
The word is one of the words of the instruction.  A shift has sixteen of them,
and any other instruction has one.
-/
def Spells (word : UInt16) : Instruction → Prop
  | .shiftRight x => ∃ y, word = wordOf 0x8 x y 0x6
  | .shiftLeft x => ∃ y, word = wordOf 0x8 x y 0xE
  | instruction => word = instruction.encode

theorem spells_iff {word : UInt16} {instruction : Instruction}
    (exact : instruction.isShift = false) :
    Spells word instruction ↔ word = instruction.encode := by
  cases instruction with
  | shiftRight x => cases exact
  | shiftLeft x => cases exact
  | _ => exact Iff.rfl

/-- Every word is decoded to a well-formed instruction that it spells. -/
theorem decode_spells (word : UInt16) :
    (decode word).WellFormed ∧ Spells word (decode word) := by
  have below := word.toNat_lt
  generalize decoded : decode word = instruction
  have row := decoded
  rw [decode] at row
  split at row <;> subst row
  -- The rows of machine code, of the shifts and of the words that are left.
  case h_3 _ notClear notLeave =>
    refine ⟨⟨?_, ?_⟩, ?_⟩
    · rintro (clear : word.toNat % 4096 = 0x0E0)
      exact notClear (by omega) (by omega) (by omega)
    · rintro (leave : word.toNat % 4096 = 0x0EE)
      exact notLeave (by omega) (by omega) (by omega)
    · apply UInt16.toNat.inj
      simp only [encode, toNat_wordOfAddress]
      omega
  case h_17 _ _ =>
    refine ⟨trivial, ⟨word.toNat / 16 % 16, by omega⟩, ?_⟩
    apply UInt16.toNat.inj
    simp only [toNat_wordOf]
    omega
  case h_19 _ _ =>
    refine ⟨trivial, ⟨word.toNat / 16 % 16, by omega⟩, ?_⟩
    apply UInt16.toNat.inj
    simp only [toNat_wordOf]
    omega
  case h_36 _ => exact ⟨decoded, rfl⟩
  all_goals
    refine ⟨trivial, ?_⟩
    apply UInt16.toNat.inj
    simp [encode, encodeSkip, arithmeticCode, toNat_wordOf,
      toNat_wordOfByte, toNat_wordOfAddress]
    omega

/-- Encoding what was decoded gives the word back, unless it was a shift. -/
theorem encode_decode (word : UInt16)
    (exact : (decode word).isShift = false) :
    (decode word).encode = word :=
  ((spells_iff exact).mp (decode_spells word).2).symm

/-- Decoding the word of a skip gives the skip. -/
theorem decode_encodeSkip (condition : Condition) :
    decode (encodeSkip condition) = .skipIf condition := by
  cases condition <;>
    simp only [encodeSkip, decode, fields_wordOf, fields_wordOfByte] <;>
    rfl

/-- A shift is decoded without its second register. -/
theorem decode_shiftRight (x y : Nibble) :
    decode (wordOf 0x8 x y 0x6) = .shiftRight x := by
  simp only [decode, fields_wordOf]
  rfl

theorem decode_shiftLeft (x y : Nibble) :
    decode (wordOf 0x8 x y 0xE) = .shiftLeft x := by
  simp only [decode, fields_wordOf]
  rfl

/-- Words of routines in machine code are those that have no other meaning. -/
theorem decode_machineCode {nnn : Address}
    (wellFormed : WellFormed (.machineCode nnn)) :
    decode (wordOfAddress 0x0 nnn) = .machineCode nnn := by
  obtain ⟨notClear, notLeave⟩ := wellFormed
  have bits := toNat_wordOfAddress 0x0 nnn
  simp only [Fin.val_zero, Nat.mul_zero, Nat.zero_add] at bits
  have family : nnn.val / 4096 = 0 := by omega
  have address : nnn.val % 4096 = nnn.val := by omega
  simp only [decode, bits, family, address]
  -- The family leaves the three rows of the table that begin with zero.
  split
  · omega
  · omega
  · rfl
  all_goals contradiction

/-- Decoding the word of an instruction gives the instruction back. -/
theorem decode_encode {instruction : Instruction}
    (wellFormed : WellFormed instruction) :
    decode instruction.encode = instruction := by
  cases instruction with
  | machineCode nnn => exact decode_machineCode wellFormed
  | unknown word => exact wellFormed
  | skipIf condition => exact decode_encodeSkip condition
  | combine arithmetic x y =>
      cases arithmetic <;>
        simp only [encode, arithmeticCode, decode, fields_wordOf] <;>
        rfl
  | clearScreen => rfl
  | leave => rfl
  | _ =>
      simp only [encode, decode, fields_wordOf, fields_wordOfByte,
        fields_wordOfAddress]
      rfl

/-- A word is decoded to an instruction exactly if it is its word. -/
theorem decode_eq_iff {word : UInt16} {instruction : Instruction}
    (wellFormed : WellFormed instruction)
    (exact : instruction.isShift = false) :
    decode word = instruction ↔ word = instruction.encode := by
  constructor
  · rintro rfl
    exact (encode_decode word exact).symm
  · rintro rfl
    exact decode_encode wellFormed

end Instruction

end Chip8
