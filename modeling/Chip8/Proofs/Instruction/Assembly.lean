import Chip8.Proofs.Instruction.Patterns
import Chip8.Proofs.Machine.Run
import Chip8.Proofs.Memory.Access

/-!
# Assembled programs

A program of at most 1792 instructions fits into memory, and what the machine
fetches from it are its instructions, one after another.  The image of a program
holds the bytes of its instruction number `k` at the offsets `2 * k` and
`2 * k + 1`; loading puts them behind 0x200, where they make the word of the
instruction again.

In the other direction every word spells the instruction that is decoded from
it, and only of a shift are there words besides the encoded one.
-/

namespace Chip8

namespace Instruction

theorem length_assemble (program : List Instruction) :
    (assemble program).length = 2 * program.length := by
  induction program with
  | nil => rfl
  | cons instruction rest ih =>
      show (instruction.toBytes ++ assemble rest).length = _
      rw [List.length_append, ih, List.length_cons, toBytes]
      simp only [List.length_cons, List.length_nil]
      omega

/-- As many instructions as there is room for fit into memory. -/
theorem assemble_fits {program : List Instruction}
    (fits : program.length ≤ 1792) :
    (assemble program).length ≤ Memory.programCapacity := by
  rw [length_assemble]
  exact Nat.mul_le_mul_left 2 fits

/-- The bytes of an instruction stand at twice its place. -/
theorem getD_assemble {program : List Instruction} {k : Nat}
    (inside : k < program.length) :
    [(assemble program).getD (2 * k) 0, (assemble program).getD (2 * k + 1) 0] =
      program[k].toBytes := by
  induction program generalizing k with
  | nil => cases inside
  | cons instruction rest ih =>
      cases k with
      | zero => rfl
      | succ k => exact ih (Nat.lt_of_succ_lt_succ inside)

/-- A word is made again from the bytes in which it is written. -/
theorem word_of_toBytes {instruction : Instruction} {high low : UInt8}
    (bytes : [high, low] = instruction.toBytes) :
    256 * high.toNat + low.toNat = instruction.encode.toNat := by
  cases bytes
  have below := instruction.encode.toNat_lt
  rw [UInt8.toNat_ofNat', UInt8.toNat_ofNat']
  omega

/-- An instruction of a loaded program is read at its place. -/
theorem readWord_loaded (random : RandomSource) {program : List Instruction}
    (fits : program.length ≤ 1792) {k : Nat} (inside : k < program.length) :
    (Machine.loaded random (assemble program)).memory.readWord
        (UInt16.ofNat (0x200 + 2 * k)) =
      .ok program[k].encode := by
  have image := length_assemble program
  have room := assemble_fits fits
  have address : (UInt16.ofNat (0x200 + 2 * k)).toNat = 0x200 + 2 * k := by
    rw [UInt16.toNat_ofNat']
    exact Nat.mod_eq_of_lt (by omega)
  have word := Machine.wordAt_loaded random room
    (show 2 * k + 1 < (assemble program).length by omega)
  rw [word_of_toBytes (getD_assemble inside), UInt16.ofNat_toNat] at word
  have within : (UInt16.ofNat (0x200 + 2 * k)).toNat + 2 ≤ Memory.size := by
    rw [address]
    show _ ≤ 4096
    omega
  rw [Memory.readWord_inside within, address]
  exact congrArg Except.ok word

/-- Only the words of shifts are decoded to shifts. -/
theorem isShift_decode {word : UInt16}
    (other : ∀ x y n, n = 0x6 ∨ n = 0xE → word ≠ wordOf 0x8 x y n) :
    (decode word).isShift = false := by
  have spelled := (decode_spells word).2
  cases decoded : decode word with
  | shiftRight x =>
      rw [decoded] at spelled
      rcases spelled with ⟨y, same⟩
      exact absurd same (other x y 0x6 (.inl rfl))
  | shiftLeft x =>
      rw [decoded] at spelled
      rcases spelled with ⟨y, same⟩
      exact absurd same (other x y 0xE (.inr rfl))
  | _ => rfl

/-- The second register of a shift is not kept. -/
theorem encode_decode_shift (x y : Nibble) :
    (decode (wordOf 0x8 x y 0x6)).encode = wordOf 0x8 x 0x0 0x6 ∧
      (decode (wordOf 0x8 x y 0xE)).encode = wordOf 0x8 x 0x0 0xE := by
  constructor
  · rw [decode_shiftRight]
    rfl
  · rw [decode_shiftLeft]
    rfl

/--
A program of at most 1792 well-formed instructions can be assembled and loaded,
and reading and decoding the words from 0x200 on gives its instructions.  Every
word is decoded to a well-formed instruction whose word it is, except that the
second register of a shift becomes zero.  An unknown word is well-formed if it
matches none of the patterns.
-/
theorem assembled_program_read_back :
    (∀ (random : RandomSource) (program : List Instruction),
      program.length ≤ 1792 →
      (∀ instruction ∈ program, instruction.WellFormed) →
      ∃ machine, Machine.withProgram random (assemble program) = .ok machine ∧
        ∀ k (inside : k < program.length),
          (machine.memory.readWord (UInt16.ofNat (0x200 + 2 * k))).map decode =
            .ok program[k]) ∧
    (∀ word, WellFormed (.unknown word) ↔ ¬ Listed word) ∧
    (∀ word, (decode word).WellFormed) ∧
    (∀ x y n, n = 0x6 ∨ n = 0xE →
      (decode (wordOf 0x8 x y n)).encode = wordOf 0x8 x 0x0 n) ∧
    ∀ word, (∀ x y n, n = 0x6 ∨ n = 0xE → word ≠ wordOf 0x8 x y n) →
      (decode word).encode = word := by
  refine ⟨?_, decode_eq_unknown_iff, fun word => (decode_spells word).1, ?_, ?_⟩
  · intro random program fits wellFormed
    refine ⟨_, Machine.withProgram_of_fits random (assemble_fits fits), ?_⟩
    intro k inside
    have kept := decode_encode (wellFormed _ (List.getElem_mem inside))
    rw [readWord_loaded random fits inside, Except.map, kept]
  · rintro x y n (rfl | rfl)
    · exact (encode_decode_shift x y).1
    · exact (encode_decode_shift x y).2
  · intro word other
    exact encode_decode word (isShift_decode other)

/-- A shift, an ignored call, a word that means nothing and a sum. -/
def mixedProgram : List Instruction :=
  [.shiftRight 0x3, .machineCode 0x123, .unknown 0x5001, .combine .add 0xF 0x2]

/-- All of it is read back, and only the word of a shift loses a digit. -/
theorem mixedProgram_read_back :
    assemble mixedProgram =
        [0x83, 0x06, 0x01, 0x23, 0x50, 0x01, 0x8F, 0x24] ∧
      (∃ machine,
        Machine.withProgram (.ofSeed 0) (assemble mixedProgram) = .ok machine ∧
          (machine.memory.readWord 0x200).map decode = .ok (.shiftRight 0x3) ∧
          (machine.memory.readWord 0x204).map decode =
            .ok (.unknown 0x5001)) ∧
      (decode 0x83F6).encode = 0x8306 ∧ (decode 0x8F24).encode = 0x8F24 := by
  rcases assembled_program_read_back with ⟨read, -, -, shift, kept⟩
  have unknown : decode 0x5001 = .unknown 0x5001 := by decide
  have wellFormed : ∀ instruction ∈ mixedProgram, instruction.WellFormed := by
    simp only [mixedProgram, List.forall_mem_cons]
    exact ⟨trivial, ⟨by decide, by decide⟩, unknown, trivial, nofun⟩
  rcases read (.ofSeed 0) mixedProgram (by decide) wellFormed with
    ⟨machine, loaded, words⟩
  refine ⟨by decide, ⟨machine, loaded, ?_, ?_⟩, ?_, ?_⟩
  · exact words 0 (by decide)
  · exact words 2 (by decide)
  · exact shift 0x3 0xF 0x6 (.inl rfl)
  · apply kept
    rintro x y n last same
    have digits := fields_wordOf 0x8 x y n
    rw [← same] at digits
    rcases last with rfl | rfl
    · exact absurd digits.2.2.2 (by decide)
    · exact absurd digits.2.2.2 (by decide)

end Instruction

end Chip8
