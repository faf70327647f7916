import Chip8.Memory.Access
import Chip8.Proofs.Machine.Run

/-!
# Programs and readers

A program is put into memory at once, or a reader gives it in pieces.  `Gives`
and `Breaks` are the two ways of a reader: its pieces come to an end, or it
fails after some of them.  How a program is split makes no difference to what
is loaded, and a reader that fails loads nothing, however much it gave before.

A program is judged twice, by its length and as an access.  The second check
is never the one that fails, for a program of the greatest length ends where
memory does.
-/

namespace Chip8

namespace Read

/-- A reader gives a program, split into pieces, and is then at its end. -/
inductive Gives : List Read → List UInt8 → Prop where
  | split (pieces : List (List UInt8)) (ending : List Read)
      (filled : ∀ piece ∈ pieces, piece ≠ [])
      (ends : ending = [] ∨ ∃ later, ending = .bytes [] :: later) :
      Gives (pieces.map .bytes ++ ending) pieces.flatten

/-- A reader gives some pieces and fails before it is at its end. -/
inductive Breaks : List Read → IoError → Prop where
  | after (pieces : List (List UInt8)) (error : IoError) (later : List Read)
      (filled : ∀ piece ∈ pieces, piece ≠ []) :
      Breaks (pieces.map .bytes ++ .failed error :: later) error

/-- Reading to the end puts the pieces together. -/
theorem untilEnd_pieces {pieces : List (List UInt8)}
    (filled : ∀ piece ∈ pieces, piece ≠ []) (ending : List Read) :
    untilEnd (pieces.map .bytes ++ ending) =
      (untilEnd ending).map (pieces.flatten ++ ·) := by
  induction pieces with
  | nil =>
      show untilEnd ending = (untilEnd ending).map id
      cases untilEnd ending <;> rfl
  | cons piece rest ih =>
      rcases List.forall_mem_cons.mp filled with ⟨nonempty, others⟩
      cases piece with
      | nil => exact absurd rfl nonempty
      | cons byte data =>
          rw [List.map_cons, List.cons_append, untilEnd, ih others]
          cases untilEnd ending with
          | error error => rfl
          | ok later => simp [Except.map]

variable {reader : List Read} {program : List UInt8} {error : IoError}

theorem Gives.untilEnd_eq (gives : Gives reader program) :
    untilEnd reader = .ok program := by
  cases gives with
  | split pieces ending filled ends =>
      have nothing : untilEnd ending = .ok [] := by
        rcases ends with rfl | ⟨later, rfl⟩
        · rfl
        · rfl
      rw [untilEnd_pieces filled, nothing, Except.map, List.append_nil]

theorem Breaks.untilEnd_eq (breaks : Breaks reader error) :
    untilEnd reader = .error error := by
  cases breaks with
  | after pieces error later filled => exact untilEnd_pieces filled _

/-- A reader may give another piece first. -/
theorem Gives.cons {piece : List UInt8} (filled : piece ≠ [])
    (gives : Gives reader program) :
    Gives (.bytes piece :: reader) (piece ++ program) := by
  cases gives with
  | split pieces ending others ends =>
      exact .split (piece :: pieces) ending
        (List.forall_mem_cons.mpr ⟨filled, others⟩) ends

theorem Breaks.cons {piece : List UInt8} (filled : piece ≠ [])
    (breaks : Breaks reader error) :
    Breaks (.bytes piece :: reader) error := by
  cases breaks with
  | after pieces error later others =>
      exact .after (piece :: pieces) error later
        (List.forall_mem_cons.mpr ⟨filled, others⟩)

/-- A program is given in pieces of whatever size. -/
theorem gives_inPieces (limit : Nat) (program : List UInt8) :
    Gives (inPieces limit program) program := by
  fun_induction inPieces limit program with
  | case1 => exact .split [] [] nofun (.inl rfl)
  | case2 byte rest gives =>
      have longer := gives.cons (List.cons_ne_nil byte (rest.take (limit - 1)))
      rwa [List.cons_append, List.take_append_drop] at longer

/-- Every reader goes one of the two ways. -/
theorem gives_or_breaks (reader : List Read) :
    (∃ program, Gives reader program) ∨ ∃ error, Breaks reader error := by
  induction reader with
  | nil => exact .inl ⟨_, .split [] [] nofun (.inl rfl)⟩
  | cons read rest ih =>
      cases read with
      | failed error => exact .inr ⟨_, .after [] error rest nofun⟩
      | bytes piece =>
          by_cases empty : piece = []
          · subst empty
            exact .inl ⟨_, .split [] _ nofun (.inr ⟨rest, rfl⟩)⟩
          · rcases ih with ⟨program, gives⟩ | ⟨error, breaks⟩
            · exact .inl ⟨_, gives.cons empty⟩
            · exact .inr ⟨_, breaks.cons empty⟩

end Read

namespace Memory

/-- A memory has a program at its place and is otherwise as before. -/
structure Placed (before : Memory) (program : List UInt8) (after : Memory) :
    Prop where
  image : ∀ offset (inside : offset < program.length),
    after.byteAt (programStart + offset) = program[offset]
  others : ∀ address,
    address < programStart ∨ programStart + program.length ≤ address →
      after.byteAt address = before.byteAt address

/-- What comes of putting a program into a memory. -/
structure LoadsExactly (memory : Memory) (program : List UInt8) : Prop where
  -- The length is checked first, then the write checks where it would end.
  checks : memory.load program =
    if programCapacity < program.length then
      .error (.programTooLarge program.length)
    else memory.write (UInt16.ofNat programStart) program
  -- What passes the first check passes the second one.
  written : program.length ≤ programCapacity →
    memory.write (UInt16.ofNat programStart) program =
      .ok (memory.overwrite programStart program)
  succeeds_iff : (∃ after, memory.load program = .ok after) ↔
    program.length ≤ programCapacity
  placed : ∀ after, memory.load program = .ok after →
    Placed memory program after
  fails_iff : ∀ error, memory.load program = .error error ↔
    programCapacity < program.length ∧
      error = .programTooLarge program.length
  unchanged : ∀ error, memory.load program = .error error →
    (Access.load program).perform memory = (.error error, memory)
  told : (Error.programTooLarge program.length).asRecord =
    Text.Record.withFields "ProgramTooLarge"
      [("size", toString program.length), ("max", toString 3584)]

variable {memory : Memory} {program : List UInt8} {reader : List Read}

theorem placed_overwrite (memory : Memory)
    (fits : program.length ≤ programCapacity) :
    Placed memory program (memory.overwrite programStart program) := by
  have room := end_of_fits fits
  constructor
  · intro offset inside
    rw [byteAt_overwrite, if_pos (by omega), Nat.add_sub_cancel_left]
    simp [inside]
  · intro address apart
    rw [byteAt_overwrite, if_neg (by omega)]

theorem loadsExactly (memory : Memory) (program : List UInt8) :
    LoadsExactly memory program := by
  rcases Nat.lt_or_ge programCapacity program.length with large | fits
  · have refused : memory.load program = _ := load_of_tooLarge large
    have tooLarge := Nat.not_le_of_gt large
    refine ⟨rfl, fun fits => absurd fits tooLarge, ?_, ?_, ?_, ?_, rfl⟩
    · rw [refused]
      exact ⟨nofun, fun fits => absurd fits tooLarge⟩
    · rw [refused]
      exact nofun
    · intro error
      rw [refused, Except.error.injEq]
      exact ⟨fun same => ⟨large, same.symm⟩, fun both => both.2.symm⟩
    · intro error same
      rw [Access.perform, same, afterWrite]
  · have loaded : memory.load program = _ := load_of_fits fits
    have stored : memory.write (UInt16.ofNat programStart) program = _ :=
      (if_neg (Nat.not_lt_of_le fits)).symm.trans loaded
    refine ⟨rfl, fun _ => stored, ?_, ?_, ?_, ?_, rfl⟩
    · exact ⟨fun _ => fits, fun _ => ⟨_, loaded⟩⟩
    · intro after made
      cases loaded.symm.trans made
      exact memory.placed_overwrite fits
    · intro error
      rw [loaded]
      exact ⟨nofun, fun both => absurd fits (Nat.not_le_of_gt both.1)⟩
    · rw [loaded]
      exact nofun

/-- A reader loads what it gives, however that is split. -/
theorem loadFrom_of_gives (memory : Memory)
    (gives : Read.Gives reader program) :
    memory.loadFrom reader = memory.load program := by
  rw [loadFrom, gives.untilEnd_eq]

theorem loadFrom_of_breaks (memory : Memory) {error : IoError}
    (breaks : Read.Breaks reader error) :
    memory.loadFrom reader = .error (.io error) := by
  rw [loadFrom, breaks.untilEnd_eq]

/-! ## Padding -/

/-- Zeros behind a program are what stands there anyway. -/
theorem overwrite_padded (program : List UInt8) (zeros : Nat) :
    withFont.overwrite programStart (program ++ List.replicate zeros 0) =
      withFont.overwrite programStart program := by
  have padded : ∀ offset, (program ++ List.replicate zeros 0).getD offset 0 =
      program.getD offset 0 := by
    intro offset
    rcases Nat.lt_or_ge offset program.length with within | behind
    · simp [List.getElem?_append_left within]
    · rw [List.getD_eq_getElem?_getD, List.getD_eq_getElem?_getD,
        List.getElem?_append_right behind, List.getElem?_replicate,
        List.getElem?_eq_none behind]
      split <;> rfl
  apply ext_byteAt
  intro address inside
  rcases Nat.lt_or_ge address programStart with before | behind
  · rw [byteAt_overwrite, byteAt_overwrite, if_neg (by omega),
      if_neg (by omega)]
  · rcases Nat.exists_eq_add_of_le behind with ⟨offset, rfl⟩
    rw [byteAt_program _ inside, byteAt_program _ inside, padded]

end Memory

namespace Machine

open Memory

variable {random other : RandomSource} {program : List UInt8}
  {reader : List Read}

/-- The machine with this source of random bytes. -/
def withRandom (random : RandomSource) (machine : Machine) : Machine :=
  { machine with random }

theorem withProgram_withRandom (random other : RandomSource)
    (program : List UInt8) :
    (withProgram other program).map (withRandom random) =
      withProgram random program := by
  rw [withProgram, withProgram]
  cases Memory.withFont.load program <;> rfl

theorem fromReader_of_gives (random : RandomSource)
    (gives : Read.Gives reader program) :
    fromReader random reader = withProgram random program := by
  rw [fromReader, loadFrom_of_gives _ gives, withProgram]

theorem withProgram_padded (random : RandomSource) {zeros : Nat}
    (fits : program.length + zeros ≤ programCapacity) :
    withProgram random (program ++ List.replicate zeros 0) =
      withProgram random program := by
  have length : (program ++ List.replicate zeros 0).length =
      program.length + zeros := by
    rw [List.length_append, List.length_replicate]
  rw [withProgram_of_fits random (by omega),
    withProgram_of_fits random (by omega), loaded, loaded, overwrite_padded]

/--
A program is put into memory as a whole, or refused for its length without any
change.  A reader that gives it in whatever pieces loads the same, and one that
fails loads nothing.  New machines with the same program are the same but for
their random bytes, whether it was split or padded with zeros.
-/
theorem loaders_agree (memory : Memory) (program : List UInt8)
    (random other : RandomSource) :
    LoadsExactly memory program ∧
      (∀ reader, Read.Gives reader program →
        memory.afterWrite (memory.loadFrom reader) =
            (Access.load program).perform memory ∧
          (fromReader other reader).map (withRandom random) =
            withProgram random program) ∧
      (∀ reader error, Read.Breaks reader error →
        memory.afterWrite (memory.loadFrom reader) =
            (.error (.io error), memory) ∧
          fromReader random reader = .error (.io error)) ∧
      (∀ limit, Read.Gives (Read.inPieces limit program) program) ∧
      (∀ reader, (∃ given, Read.Gives reader given) ∨
        ∃ error, Read.Breaks reader error) ∧
      ∀ zeros, program.length + zeros ≤ programCapacity →
        (withProgram other (program ++ List.replicate zeros 0)).map
            (withRandom random) =
          withProgram random program := by
  refine ⟨memory.loadsExactly program, ?_, ?_,
    fun limit => Read.gives_inPieces limit program, Read.gives_or_breaks, ?_⟩
  · intro reader gives
    rw [loadFrom_of_gives memory gives, fromReader_of_gives other gives]
    exact ⟨rfl, withProgram_withRandom random other program⟩
  · intro reader error breaks
    rw [loadFrom_of_breaks memory breaks, fromReader,
      loadFrom_of_breaks _ breaks]
    exact ⟨rfl, rfl⟩
  · intro zeros fits
    rw [withProgram_padded other fits]
    exact withProgram_withRandom random other program

/-- A reader that gives a program in two pieces and fails behind its end. -/
def splitReader : List Read :=
  [.bytes [0xA2, 0x00], .bytes [0xF0], .bytes [], .failed .notFound]

/-- It loads the program, which a reader that fails before its end does not. -/
theorem splitReader_loads :
    let program : List UInt8 := [0xA2, 0x00, 0xF0]
    let random : RandomSource := .ofSeed 1
    let other : RandomSource := .ofSeed 2
    (fromReader other splitReader).map (withRandom random) =
        withProgram random program ∧
      (withProgram other [0xA2, 0x00, 0xF0, 0x00]).map (withRandom random) =
        withProgram random program ∧
      fromReader random
          [.bytes (List.replicate 4000 1), .failed .notFound] =
        .error (.io .notFound) ∧
      (Access.load (List.replicate 3585 1)).perform .withFont =
        (.error (.programTooLarge 3585), .withFont) := by
  intro program random other
  rcases loaders_agree .withFont program random other with
    ⟨-, same, fails, -, -, padded⟩
  have gives : Read.Gives splitReader program :=
    .split [[0xA2, 0x00], [0xF0]] [.bytes [], .failed .notFound] (by simp)
      (.inr ⟨_, rfl⟩)
  have breaks : Read.Breaks
      [.bytes (List.replicate 4000 1), .failed .notFound] .notFound := by
    apply Read.Breaks.after [List.replicate 4000 1] .notFound []
    rw [List.forall_mem_singleton]
    exact List.cons_ne_nil 1 (List.replicate 3999 1)
  have room : program.length + 1 ≤ programCapacity := by decide
  refine ⟨(same _ gives).2, padded 1 room, (fails _ _ breaks).2, ?_⟩
  rcases loaders_agree .withFont (List.replicate 3585 1) random other with
    ⟨exactly, -⟩
  have length : (List.replicate 3585 (1 : UInt8)).length = 3585 :=
    List.length_replicate
  apply exactly.unchanged
  rw [exactly.fails_iff, length]
  exact ⟨by decide, rfl⟩

end Machine

end Chip8
