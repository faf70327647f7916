import Chip8.Proofs.Machine.Calls
import Chip8.Proofs.Machine.Drawing
import Chip8.Proofs.Machine.Footprint
import Chip8.Proofs.Machine.Loading

/-!
# The font in memory

The glyphs of the sixteen digits stand below the place of a program, so loading
a program leaves them alone.  Memory is not protected, though: an Fx33 or Fx55
can write anywhere.  In a run in which no store reaches the font it stays as it
was built, whatever else is done.

Fx29 points the index register at a glyph, of which only the lower half of Vx
decides.  Nothing but an executed instruction moves the index register, so if
the next one is a Dxy5, it finds the five rows of that glyph inside of memory
and draws them.
-/

namespace Chip8

namespace Memory

/-- The glyph of a digit, one byte for each of its rows. -/
def glyph (digit : Nibble) : List UInt8 :=
  (font.drop (glyphSize * digit.val)).take glyphSize

/-- The bytes of the font are at their place. -/
def HoldsFont (memory : Memory) : Prop :=
  ∀ offset < font.length,
    memory.byteAt (fontStart + offset) = font.getD offset 0

variable {memory after : Memory}

/-! ## Stretches of the font -/

theorem stretch_eq_iff {start : Nat} {data : List UInt8} :
    memory.stretch start data.length = data ↔
      ∀ offset < data.length,
        memory.byteAt (start + offset) = data.getD offset 0 := by
  constructor
  · intro same offset inside
    have read : (memory.stretch start data.length).getD offset 0 =
        memory.byteAt (start + offset) := by
      rw [List.getD_eq_getElem?_getD, stretch, List.getElem?_map,
        List.getElem?_range inside]
      rfl
    rw [← read, same]
  · intro bytes
    apply List.ext_getElem (memory.length_stretch start data.length)
    intro offset _ inside
    have byte := bytes offset inside
    rw [List.getD_eq_getElem data 0 inside] at byte
    simpa [stretch] using byte

@[simp]
theorem length_glyph (digit : Nibble) : (glyph digit).length = 5 := by
  have small := digit.val_lt
  have whole : font.length = 80 := rfl
  rw [glyph, List.length_take, List.length_drop, whole, glyphSize]
  omega

theorem getD_glyph (digit : Nibble) {row : Nat} (inside : row < 5) :
    (glyph digit).getD row 0 = font.getD (glyphSize * digit.val + row) 0 := by
  have taken : row < glyphSize := inside
  rw [List.getD_eq_getElem?_getD, List.getD_eq_getElem?_getD, glyph,
    List.getElem?_take_of_lt taken, List.getElem?_drop]

/-- A font that is at its place is read as a whole. -/
theorem HoldsFont.slice_eq (holds : HoldsFont memory) :
    memory.slice 0x050 80 = .ok font := by
  rw [slice_inside (by decide)]
  exact congrArg _ (stretch_eq_iff.mpr holds)

/-- The rows of a glyph stand one behind another. -/
theorem HoldsFont.stretch_glyph (holds : HoldsFont memory) (digit : Nibble) :
    memory.stretch (fontStart + glyphSize * digit.val) 5 = glyph digit := by
  rw [← length_glyph digit, stretch_eq_iff]
  intro row inside
  rw [length_glyph] at inside
  have small := digit.val_lt
  have within : glyphSize * digit.val + row < font.length := by
    show 5 * digit.val + row < 80
    omega
  rw [Nat.add_assoc, holds _ within, getD_glyph digit inside]

/-! ## Loading -/

theorem holdsFont_withFont : HoldsFont withFont := by
  intro offset inside
  have room : fontStart + offset < size := by
    have below : offset < 80 := inside
    show 0x050 + offset < 4096
    omega
  rw [withFont, byteAt_overwrite,
    if_pos ⟨Nat.le_add_right _ _, Nat.add_lt_add_left inside _, room⟩,
    Nat.add_sub_cancel_left]

/-- A program has its place behind the font. -/
theorem HoldsFont.load (holds : HoldsFont memory) {program : List UInt8}
    (loaded : memory.load program = .ok after) : HoldsFont after := by
  intro offset inside
  have before : fontStart + offset < programStart := by
    have below : offset < 80 := inside
    show 0x050 + offset < 0x200
    omega
  have placed := (memory.loadsExactly program).placed after loaded
  rw [placed.others _ (.inl before)]
  exact holds offset inside

theorem HoldsFont.loadFrom (holds : HoldsFont memory) {reader : List Read}
    (loaded : memory.loadFrom reader = .ok after) : HoldsFont after := by
  rw [Memory.loadFrom] at loaded
  split at loaded
  · exact holds.load loaded
  · cases loaded

end Memory

namespace Machine

open Instruction

/-- Whether the step of a machine stores a byte among those of the font. -/
def OverwritesFont (machine : Machine) : Prop :=
  ∃ address, 0x050 ≤ address ∧ address ≤ 0x09F ∧ StepWrites address machine

/-- Whether the step of a machine executes an instruction. -/
def Executes (machine : Machine) : Prop :=
  ∃ instruction, machine.step.result = .ok (.executed instruction)

/-- The step of a machine draws the glyph of a digit. -/
structure DrawsGlyph (digit a b : Nibble) (machine : Machine) : Prop where
  index_eq : machine.index.toNat = 0x050 + 5 * digit.val
  /-- What is drawn are the five bytes of the glyph. -/
  read : machine.memory.slice machine.index 5 = .ok (Memory.glyph digit)
  /-- The access does not fail. -/
  executed : machine.step.result = .ok (.executed (.draw a b 5))
  drawn : ∃ collision : Bool,
    Frame.DrawnExactly machine.frame machine.step.state.frame collision
      (machine.register a).toNat (machine.register b).toNat
      (Memory.glyph digit) ∧
    machine.step.state.register flagRegister = collision.toUInt8
  /-- On a dark frame the glyph is all that is lit, and nothing collides. -/
  onDark : machine.frame.isDark = true →
    (∀ x < 64, ∀ y < 32, machine.step.state.frame.pixel x y =
      decide (Frame.Covers (Memory.glyph digit) (machine.register a).toNat
        (machine.register b).toNat x y)) ∧
    machine.step.state.register flagRegister = 0

variable {machine start : Machine} {operations : List Operation}
  {a b digit x : Nibble}

/-! ## The font during a run -/

theorem Built.holdsFont (built : Built start) : start.memory.HoldsFont := by
  cases built with
  | powerUp random => exact Memory.holdsFont_withFont
  | @withProgram random program _ loaded =>
      cases stored : Memory.withFont.load program with
      | error error => simp [Machine.withProgram, stored, Except.map] at loaded
      | ok memory =>
          have kept := Memory.holdsFont_withFont.load stored
          simp only [Machine.withProgram, stored, Except.map] at loaded
          cases loaded
          exact kept
  | @fromReader random reader _ loaded =>
      cases stored : Memory.withFont.loadFrom reader with
      | error error => simp [Machine.fromReader, stored, Except.map] at loaded
      | ok memory =>
          have kept := Memory.holdsFont_withFont.loadFrom stored
          simp only [Machine.fromReader, stored, Except.map] at loaded
          cases loaded
          exact kept

/-- A run in which no store reaches the font keeps it. -/
theorem holdsFont_after (holds : machine.memory.HoldsFont)
    (spared : NoStepWhere OverwritesFont machine operations) :
    (machine.after operations).memory.HoldsFont := by
  intro offset inside
  have below : offset < 80 := inside
  have unwritten : NoStepWhere (StepWrites (Memory.fontStart + offset)) machine
      operations := by
    intro earlier later same writes
    have last : Memory.fontStart + offset ≤ 0x09F := by
      show 0x050 + offset ≤ 0x09F
      omega
    exact spared earlier later same
      ⟨_, Nat.le_add_right _ _, last, writes⟩
  rw [byteAt_after_unwritten unwritten]
  exact holds offset inside

/-! ## From the glyph address to the drawing -/

/-- Without an instruction that is executed the index register stays. -/
theorem index_after_unexecuted
    (without : NoStepWhere Executes machine operations) :
    (machine.after operations).index = machine.index := by
  refine after_invariant_unless (fun later => later.index = machine.index)
    ?_ rfl without
  intro before operation same allowed
  cases operation with
  | step =>
      rcases step_executed_or_keeps index (fun _ => rfl) (fun _ _ _ => rfl)
          before with ⟨instruction, executed, -⟩ | ⟨-, kept⟩
      · exact absurd ⟨instruction, executed⟩ (allowed rfl)
      · exact kept.trans same
  | tick =>
      show before.tick.index = _
      rw [tick_keeps index (fun _ _ _ => rfl) before]
      exact same
  | _ => exact same

/-- The address of a glyph depends on the lower half of the register only. -/
theorem index_of_loadGlyph
    (executed : machine.step.result = .ok (.executed (.loadGlyph x))) :
    machine.step.state.index.toNat =
      0x050 + 5 * (Nibble.lower (machine.register x)).val := by
  rcases step_of_executed executed with ⟨-, -, -, effected⟩
  rw [effected, effect_index]
  exact toNat_glyphAddress (machine.register x)

/-- A word Dxyn draws the bytes behind the index register, if they exist. -/
theorem Fetches.draws {n : Nibble}
    (fetches : machine.Fetches (wordOf 0xD a b n))
    (inside : machine.index.toNat + n.val ≤ Memory.size) :
    machine.step.result = .ok (.executed (.draw a b n)) ∧
      ∃ collision : Bool,
        Frame.DrawnExactly machine.frame machine.step.state.frame collision
          (machine.register a).toNat (machine.register b).toNat
          (machine.memory.stretch machine.index.toNat n.val) ∧
        machine.step.state.register flagRegister = collision.toUInt8 := by
  have decoded : machine.nextInstruction = .draw a b n :=
    fetches.nextInstruction_eq trivial rfl
  have sound : machine.fault? machine.programCounter
      machine.nextInstruction = none := by
    rw [decoded]
    exact accessFault?_inside inside
  rcases fetches.step_of_sound sound with ⟨executed, effected⟩
  rw [decoded] at executed effected
  rcases machine.advanced.effect_draw a b n with ⟨frame_eq, flag_eq⟩
  have fits : (machine.memory.stretch machine.index.toNat n.val).length ≤
      Frame.height := by
    rw [Memory.length_stretch]
    exact Nat.le_of_lt (Nat.lt_trans n.val_lt (by decide))
  rw [effected]
  refine ⟨executed, _, ?_, flag_eq⟩
  rw [frame_eq]
  exact machine.frame.drawnExactly (machine.register a) (machine.register b)
    fits

/-- What is drawn from the address of a glyph is the glyph. -/
theorem drawsGlyph (holds : machine.memory.HoldsFont)
    (here : machine.index.toNat = 0x050 + 5 * digit.val)
    (fetches : machine.Fetches (wordOf 0xD a b 0x5)) :
    DrawsGlyph digit a b machine := by
  have small := digit.val_lt
  have inside : machine.index.toNat + (5 : Nibble).val ≤ Memory.size := by
    rw [here]
    show 0x050 + 5 * digit.val + 5 ≤ 4096
    omega
  have rows : machine.memory.stretch machine.index.toNat (5 : Nibble).val =
      Memory.glyph digit := by
    rw [here]
    exact holds.stretch_glyph digit
  rcases fetches.draws inside with ⟨executed, collision, drawn, flag⟩
  rw [rows] at drawn
  refine ⟨here, ?_, executed, ⟨collision, drawn, flag⟩, ?_⟩
  · rw [← rows]
    exact Memory.slice_inside inside
  · intro dark
    rcases drawn.of_isDark dark with ⟨lit, missed⟩
    rw [missed] at flag
    exact ⟨lit, flag⟩

/--
Every program of at most 3584 bytes is loaded.  In a run from a machine that was
built, in which no Fx33 or Fx55 stores a byte into the font, the font is read
unchanged at every point.  If in such a run Fx29 is executed and the next
instruction that is executed is a Dxy5, then that one cannot fail, and it draws
the glyph of the lower half of Vx.
-/
theorem font_survives_and_is_found :
    (∀ random program, program.length ≤ 3584 →
      ∃ start, withProgram random program = .ok start ∧ Built start) ∧
    ∀ start, Built start → ∀ operations,
      NoStepWhere OverwritesFont start operations →
      (∀ earlier later, operations = earlier ++ later →
        (start.after earlier).memory.slice 0x050 80 = .ok Memory.font) ∧
      ∀ earlier between later,
        operations = earlier ++ .step :: (between ++ .step :: later) →
        let pointing := start.after earlier
        let drawing := pointing.step.state.after between
        ∀ x, pointing.step.result = .ok (.executed (.loadGlyph x)) →
          NoStepWhere Executes pointing.step.state between →
          ∀ a b, drawing.Fetches (wordOf 0xD a b 0x5) →
            DrawsGlyph (Nibble.lower (pointing.register x)) a b drawing := by
  refine ⟨?_, ?_⟩
  · intro random program fits
    have loaded := withProgram_of_fits random fits
    exact ⟨_, loaded, .withProgram loaded⟩
  · intro start built operations spared
    have kept : ∀ earlier later, operations = earlier ++ later →
        (start.after earlier).memory.HoldsFont := by
      rintro earlier later rfl
      exact holdsFont_after built.holdsFont (noStepWhere_of_append spared)
    refine ⟨fun earlier later same => (kept earlier later same).slice_eq, ?_⟩
    intro earlier between later same pointing drawing x pointed without a b
      fetches
    have holds : drawing.memory.HoldsFont := by
      have font := kept (earlier ++ .step :: between) (.step :: later)
        (by rw [same, List.append_assoc, List.cons_append])
      rw [after_append] at font
      exact font
    have here : drawing.index.toNat =
        0x050 + 5 * (Nibble.lower (pointing.register x)).val := by
      rw [index_after_unexecuted without]
      exact index_of_loadGlyph pointed
    exact drawsGlyph holds here fetches

/-- V0 becomes 0x3E, and the glyph of its lower half is drawn around a corner. -/
def glyphProgram : List UInt8 :=
  [0x60, 0x3E, 0xF0, 0x29, 0xD0, 0x05]

def glyphMachine : Machine :=
  loaded (.ofSeed 0) glyphProgram

/-- A word of the program that cannot fail is executed when its turn comes. -/
theorem glyphMachine_executes {instruction : Instruction} (offset : Nat)
    (inside : offset + 1 < glyphProgram.length)
    (stored : machine.memory = glyphMachine.memory)
    (running : machine.paused = false) (idle : machine.keyWait = none)
    (here : machine.programCounter.toNat = Memory.programStart + offset)
    (decoded : Instruction.decode
      (UInt16.ofNat
        (256 * (glyphProgram.getD offset 0).toNat +
          (glyphProgram.getD (offset + 1) 0).toNat)) = instruction)
    (sound : machine.fault? machine.programCounter instruction = none) :
    machine.step.result = .ok (.executed instruction) ∧
      machine.step.state = machine.advanced.effect instruction := by
  have next : machine.nextInstruction = instruction :=
    nextInstruction_of_loaded glyphProgram offset (by decide) inside stored
      here decoded
  have within : machine.programCounter.toNat + 2 ≤ Memory.size := by
    have length : glyphProgram.length = 6 := rfl
    rw [here, Memory.programStart, Memory.size]
    omega
  rw [step_of_sound running idle within next sound]
  exact ⟨rfl, rfl⟩

theorem not_overwritesFont {instruction : Instruction}
    (executed : machine.step.result = .ok (.executed instruction))
    (without : ∀ index address, ¬ instruction.WritesByte index address) :
    ¬ OverwritesFont machine := by
  rintro ⟨address, -, -, other, stored, writes⟩
  rw [executed] at stored
  cases stored
  exact without _ _ writes

/-- The glyph of 0xE goes around both edges; a tick comes in between. -/
theorem glyphMachine_draws :
    ∃ drawing, glyphMachine.after [.step, .step, .tick] = drawing ∧
      NoStepWhere OverwritesFont glyphMachine [.step, .step, .tick, .step] ∧
      drawing.memory.slice 0x050 80 = .ok Memory.font ∧
      drawing.step.result = .ok (.executed (.draw 0 0 5)) ∧
      drawing.step.state.frame.pixel 1 0 = true ∧
      drawing.step.state.frame.pixel 1 31 = false ∧
      drawing.step.state.register flagRegister = 0 := by
  let pointing := glyphMachine.advanced.effect (.loadByte 0 0x3E)
  let pointed := pointing.advanced.effect (.loadGlyph 0)
  obtain ⟨loads, first⟩ :=
    @glyphMachine_executes glyphMachine (.loadByte 0 0x3E) 0 (by decide) rfl
      rfl rfl rfl (by decide) rfl
  obtain ⟨points, second⟩ :=
    @glyphMachine_executes pointing (.loadGlyph 0) 2 (by decide) rfl rfl rfl
      rfl (by decide) rfl
  have stored : pointed.tick.memory = (loaded (.ofSeed 0) glyphProgram).memory :=
    rfl
  have word := nextWord_of_loaded glyphProgram 4 (by decide) (by decide) stored
    rfl
  have fetches : pointed.tick.Fetches (wordOf 0xD 0 0 0x5) :=
    ⟨rfl, rfl, by decide, word.trans (by decide)⟩
  have reached : glyphMachine.after [.step, .step, .tick] = pointed.tick := by
    rw [after_step, first, after_step, second]
    rfl
  have draws := (fetches.draws (by decide)).1
  have spared :
      NoStepWhere OverwritesFont glyphMachine [.step, .step, .tick, .step] := by
    rw [noStepWhere_step, first, noStepWhere_step, second, noStepWhere_cons]
    refine ⟨not_overwritesFont loads fun _ _ => id,
      not_overwritesFont points fun _ _ => id, nofun, ?_⟩
    refine noStepWhere_step.mpr ⟨?_, noStepWhere_nil _ _⟩
    exact not_overwritesFont draws fun _ _ => id
  have built : Built glyphMachine :=
    .withProgram (withProgram_of_fits (.ofSeed 0) (by decide))
  obtain ⟨-, runs⟩ := font_survives_and_is_found
  obtain ⟨intact, found⟩ := runs glyphMachine built _ spared
  have here : glyphMachine.after [.step] = pointing := by
    rw [after_step, first, after_nil]
  have glyph := found [.step] [.tick] [] rfl
  simp only [here, second] at glyph
  have drawn := glyph 0 points (noStepWhere_of_not_mem (by decide)) 0 0 fetches
  have digit : Nibble.lower (pointing.register 0) = 0xE := by decide
  have corner : pointed.tick.register 0 = 0x3E := by decide
  have ticked : pointed.after [.tick] = pointed.tick := rfl
  rw [digit, ticked] at drawn
  have dark : pointed.tick.frame.isDark = true := by
    have unlit : pointed.tick.frame = .dark := rfl
    rw [unlit]
    simp [Frame.isDark, Frame.dark]
  obtain ⟨lit, flag⟩ := drawn.onDark dark
  rw [corner] at lit
  have font := intact [.step, .step, .tick] [.step] rfl
  rw [reached] at font
  refine ⟨pointed.tick, reached, spared, font, drawn.executed, ?_, ?_, flag⟩
  · have covered : Frame.Covers (Memory.glyph 0xE) 62 62 1 0 := by decide
    exact (lit 1 (by decide) 0 (by decide)).trans (decide_eq_true covered)
  · have uncovered : ¬ Frame.Covers (Memory.glyph 0xE) 62 62 1 31 := by decide
    exact (lit 1 (by decide) 31 (by decide)).trans (decide_eq_false uncovered)

end Machine

end Chip8
