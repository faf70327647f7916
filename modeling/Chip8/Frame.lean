import Chip8.Text.Record

/-!
# The frame

The frame is a grid of 64 by 32 pixels, each lit or dark.  Coordinates wrap
around both edges, so every pair of numbers names a pixel.  `pixel` is the view
in which the operations and the texts are described.
-/

namespace Chip8

/-- The pixels of the screen. -/
structure Frame where
  /-- Whether each pixel is lit, row after row. -/
  pixels : Vector Bool (64 * 32)
  deriving DecidableEq

namespace Frame

/-- How many pixels a row has. -/
def width : Nat := 64

/-- How many rows there are. -/
def height : Nat := 32

/-- The place of a pixel among all pixels. -/
def place (x y : Nat) : Fin (64 * 32) :=
  ⟨64 * (y % 32) + x % 64, by omega⟩

/-- The frame without a lit pixel. -/
def dark : Frame :=
  ⟨Vector.replicate (64 * 32) false⟩

/-- Whether a pixel is lit. -/
def pixel (frame : Frame) (x y : Nat) : Bool :=
  frame.pixels[place x y]

/-- Light a pixel or put it out. -/
def setPixel (frame : Frame) (x y : Nat) (lit : Bool) : Frame :=
  ⟨frame.pixels.set (place x y) lit⟩

/-- Turn a pixel over. -/
def flip (frame : Frame) (x y : Nat) : Frame :=
  frame.setPixel x y (!frame.pixel x y)

/-- Whether no pixel is lit. -/
def isDark (frame : Frame) : Bool :=
  frame.pixels.all fun lit => !lit

/-- The coordinates of all pixels, row after row. -/
def coordinates : List (Nat × Nat) :=
  (List.range height).flatMap fun y => (List.range width).map fun x => (x, y)

/-- The coordinates of the lit pixels, row after row. -/
def litPixels (frame : Frame) : List (Nat × Nat) :=
  coordinates.filter fun point => frame.pixel point.1 point.2

/-- How many pixels are lit. -/
def litCount (frame : Frame) : Nat :=
  frame.litPixels.length

/-- One row as characters: an at sign for a lit pixel, else a space. -/
def rowText (frame : Frame) (y : Nat) : String :=
  String.ofList <|
    (List.range width).map fun x => if frame.pixel x y then '@' else ' '

/-- The rows as lines, without a line break at the end. -/
def text (frame : Frame) : String :=
  "\n".intercalate ((List.range height).map frame.rowText)

/-- A frame written out. -/
def asRecord (frame : Frame) : String :=
  Text.Record.withFields "FrameBuffer" [("lit", toString frame.litCount)]

/-- Coordinates that agree up to the edges name the same pixel. -/
theorem place_eq_iff (x y x' y' : Nat) :
    place x y = place x' y' ↔ x % 64 = x' % 64 ∧ y % 32 = y' % 32 := by
  simp only [place, Fin.mk.injEq]
  omega

theorem pixel_setPixel (frame : Frame) (x y x' y' : Nat) (lit : Bool) :
    (frame.setPixel x y lit).pixel x' y' =
      if x % 64 = x' % 64 ∧ y % 32 = y' % 32 then lit
      else frame.pixel x' y' := by
  simp only [← place_eq_iff, pixel, setPixel, Fin.getElem_fin,
    Vector.getElem_set, Fin.ext_iff]

@[simp]
theorem pixel_dark (x y : Nat) : dark.pixel x y = false := by
  simp [pixel, dark]

end Frame

end Chip8
