import Chip8.Proofs.Frame.Sprites
import Chip8.Proofs.Machine.StepCases

/-!
# Steps that draw

Dxyn draws the bytes behind the index register as a sprite of at most fifteen
rows, which fits on the screen.  So the frame and the flag after such a step are
those of a sprite that is drawn exactly, with its corner where the registers
said before the step, also if one of them is the flag itself.
-/

namespace Chip8

namespace Machine

variable {machine : Machine} {x y n : Nibble}

theorem inside_of_draw {pc : UInt16}
    (sound : machine.fault? pc (.draw x y n) = none) :
    machine.index.toNat + n.val ≤ Memory.size := by
  by_contra outside
  have fault := accessFault?_outside (Nat.lt_of_not_le outside)
  rw [fault?, fault] at sound
  cases sound

theorem effect_draw (machine : Machine) (x y n : Nibble) :
    let drawn :=
      machine.frame.drawSprite (machine.register x) (machine.register y)
        (machine.memory.stretch machine.index.toNat n.val)
    (machine.effect (.draw x y n)).frame = drawn.1 ∧
      (machine.effect (.draw x y n)).register flagRegister =
        drawn.2.toUInt8 := by
  constructor
  · rfl
  · rw [effect, register_setRegister, if_pos rfl]

/--
A sprite that has no more rows than the screen turns over the pixels that it
covers and tells whether one of them went dark.  A step that executes Dxyn draws
so the bytes behind the index register, which are all inside of memory, and the
flag register tells the collision; without a row it only clears the flag.
-/
theorem sprites_drawn_exactly :
    (∀ (frame : Frame) (x0 y0 : UInt8) (sprite : List UInt8),
      sprite.length ≤ 32 →
        Frame.DrawnExactly frame (frame.drawSprite x0 y0 sprite).1
          (frame.drawSprite x0 y0 sprite).2 x0.toNat y0.toNat sprite) ∧
    ∀ (machine : Machine) (x y n : Nibble),
      machine.step.result = .ok (.executed (.draw x y n)) →
        machine.index.toNat + n.val ≤ Memory.size ∧
        (∃ collision : Bool,
          Frame.DrawnExactly machine.frame machine.step.state.frame collision
            (machine.register x).toNat (machine.register y).toNat
            (machine.memory.stretch machine.index.toNat n.val) ∧
          machine.step.state.register flagRegister = collision.toUInt8) ∧
        (n = 0 →
          machine.step.state =
            machine.advanced.setRegister flagRegister 0) := by
  refine ⟨fun frame x0 y0 sprite fits => frame.drawnExactly x0 y0 fits, ?_⟩
  intro machine x y n executed
  obtain ⟨-, -, sound, effected⟩ := step_of_executed executed
  obtain ⟨frame_eq, flag_eq⟩ := machine.advanced.effect_draw x y n
  have fits : (machine.memory.stretch machine.index.toNat n.val).length ≤
      Frame.height := by
    rw [Memory.length_stretch]
    exact Nat.le_of_lt (Nat.lt_trans n.val_lt (by decide))
  rw [effected]
  refine ⟨inside_of_draw sound, ⟨_, ?_, flag_eq⟩, ?_⟩
  · rw [frame_eq]
    exact machine.frame.drawnExactly (machine.register x)
      (machine.register y) fits
  · rintro rfl
    rfl

/-- An instruction that draws itself across the lower right corner. -/
def drawingProgram : List UInt8 :=
  [0xDF, 0xF2]

def drawingMachine : Machine :=
  { (loaded (.ofSeed 0) drawingProgram).setRegister 0xF 63 with
    index := 0x200
    frame := Frame.dark.setPixel 63 31 true }

/-- The corner was lit and goes dark, and the flag that said where tells it. -/
theorem drawingMachine_draws :
    drawingMachine.step.result = .ok (.executed (.draw 0xF 0xF 2)) ∧
      drawingMachine.step.state.frame.pixel 63 31 = false ∧
      drawingMachine.step.state.register flagRegister = 1 := by
  have placed : drawingMachine.memory =
      (loaded (.ofSeed 0) drawingProgram).memory := rfl
  have fits : drawingProgram.length ≤ Memory.programCapacity := by decide
  have decoded : drawingMachine.nextInstruction = .draw 0xF 0xF 2 :=
    nextInstruction_of_loaded drawingProgram 0 fits (by decide) placed rfl
      (by decide)
  have made := step_of_sound rfl rfl (by decide) decoded rfl
  have executed := congrArg (·.result) made
  obtain ⟨-, ⟨collision, exact, flag⟩, -⟩ :=
    sprites_drawn_exactly.2 drawingMachine 0xF 0xF 2 executed
  have read : (drawingMachine.memory.stretch 0x200 2).getD 0 0 = 0xDF := by
    have inside : 0 < drawingProgram.length := by decide
    have first := byteAt_loaded (.ofSeed 0) fits inside
    rw [← placed] at first
    exact first
  have covered :
      Frame.Covers
        (drawingMachine.memory.stretch drawingMachine.index.toNat
          (2 : Nibble).val)
        (drawingMachine.register 0xF).toNat
        (drawingMachine.register 0xF).toNat 63 31 :=
    ⟨0, by decide, 0, by decide, rfl, rfl, by
      show ((drawingMachine.memory.stretch 0x200 2).getD 0 0).toNat.testBit 7
      rw [read]
      decide⟩
  have lit : drawingMachine.frame.pixel 63 31 = true := by
    show (Frame.dark.setPixel 63 31 true).pixel 63 31 = true
    rw [Frame.pixel_setPixel, if_pos ⟨rfl, rfl⟩]
  have dark : drawingMachine.step.state.frame.pixel 63 31 = false := by
    have turned := exact.pixel_eq 63 (by decide) 31 (by decide)
    rw [lit, decide_eq_true covered] at turned
    exact turned
  have collides : collision = true :=
    exact.collision_iff.mpr ⟨63, by decide, 31, by decide, lit, dark⟩
  refine ⟨executed, dark, ?_⟩
  rw [flag, collides]
  rfl

end Machine

end Chip8
