import Chip8.Frame

/-!
# Sprites

A sprite has one byte for each of its rows, the leftmost pixel in the most
significant bit.  Drawing it turns over every pixel under a set bit, so drawing
it twice erases it; the collision flag tells whether a lit pixel was put out.
-/

namespace Chip8

namespace Frame

/-- Whether a sprite row has a pixel in a column. -/
def spriteBit (row : UInt8) (column : Nat) : Bool :=
  row.toNat.testBit (7 - column)

/-- The coordinates under the set bits of one sprite row. -/
def rowPoints (x y : Nat) (row : UInt8) : List (Nat × Nat) :=
  ((List.range 8).filter (spriteBit row)).map fun column => (x + column, y)

/-- The coordinates under the set bits of a sprite, row after row. -/
def spritePoints (x y : Nat) : List UInt8 → List (Nat × Nat)
  | [] => []
  | row :: rest => rowPoints x y row ++ spritePoints x (y + 1) rest

/--
Turn over pixels one after another, and tell whether one of them was lit when
its turn came.
-/
def flipAll (frame : Frame) : List (Nat × Nat) → Frame × Bool
  | [] => (frame, false)
  | (x, y) :: rest =>
      let lit := frame.pixel x y
      let later := (frame.flip x y).flipAll rest
      (later.1, lit || later.2)

/-- Draw a sprite with its upper left corner at a place. -/
def drawSprite (frame : Frame) (x y : UInt8) (sprite : List UInt8) :
    Frame × Bool :=
  frame.flipAll (spritePoints x.toNat y.toNat sprite)

end Frame

end Chip8
