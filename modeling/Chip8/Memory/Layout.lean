/-!
# The memory map

Memory has 4096 bytes.  The font stands at 0x050, a program at 0x200; the rest
starts as zero.  The call stack, the registers and the frame are not in memory.
-/

namespace Chip8.Memory

/-- How many bytes there are. -/
def size : Nat := 4096

/-- Where the font starts. -/
def fontStart : Nat := 0x050

/-- How many bytes a glyph of the font has, one for each row. -/
def glyphSize : Nat := 5

/-- Where a program starts. -/
def programStart : Nat := 0x200

/-- How many bytes there are from the start of a program to the end. -/
def programCapacity : Nat := size - programStart

/-- The glyphs of the sixteen digits, one after another. -/
def font : List UInt8 :=
  [0xF0, 0x90, 0x90, 0x90, 0xF0, -- 0
    0x20, 0x60, 0x20, 0x20, 0x70, -- 1
    0xF0, 0x10, 0xF0, 0x80, 0xF0, -- 2
    0xF0, 0x10, 0xF0, 0x10, 0xF0, -- 3
    0x90, 0x90, 0xF0, 0x10, 0x10, -- 4
    0xF0, 0x80, 0xF0, 0x10, 0xF0, -- 5
    0xF0, 0x80, 0xF0, 0x90, 0xF0, -- 6
    0xF0, 0x10, 0x20, 0x40, 0x40, -- 7
    0xF0, 0x90, 0xF0, 0x90, 0xF0, -- 8
    0xF0, 0x90, 0xF0, 0x10, 0xF0, -- 9
    0xF0, 0x90, 0xF0, 0x90, 0x90, -- A
    0xE0, 0x90, 0xE0, 0x90, 0xE0, -- B
    0xF0, 0x80, 0x80, 0x80, 0xF0, -- C
    0xE0, 0x90, 0x90, 0x90, 0xE0, -- D
    0xF0, 0x80, 0xF0, 0x80, 0xF0, -- E
    0xF0, 0x80, 0xF0, 0x80, 0x80] -- F

end Chip8.Memory
