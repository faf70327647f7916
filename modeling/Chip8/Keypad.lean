import Chip8.Nibble
import Chip8.Text.Record

/-!
# The keypad

Sixteen latches, one for each key, that the host sets and the machine reads.
Codes above 15 name no key: they are never down and cannot be pressed.
-/

namespace Chip8

/-- How many keys there are. -/
def keyCount : Nat := 16

/-- The keys that are down. -/
structure Keypad where
  /-- Whether each key is down. -/
  keys : Vector Bool keyCount
  deriving DecidableEq

namespace Keypad

/-- The keypad with no key down. -/
def released : Keypad :=
  ⟨Vector.replicate keyCount false⟩

/-- Whether the key with this code is down. -/
def isPressed (keypad : Keypad) (code : UInt8) : Bool :=
  keypad.keys[code.toNat]?.getD false

/-- Press or release the key with this code, if there is one. -/
def setKey (keypad : Keypad) (code : UInt8) (pressed : Bool) : Keypad :=
  ⟨keypad.keys.setIfInBounds code.toNat pressed⟩

/-- The keys that are down, ascending. -/
def pressedKeys (keypad : Keypad) : List Nibble :=
  (List.finRange 16).filter fun key => keypad.isPressed key.toByte

/-- The lowest key that is down. -/
def lowestPressed? (keypad : Keypad) : Option Nibble :=
  (List.finRange 16).find? fun key => keypad.isPressed key.toByte

/-- The keypad with exactly the keys down that satisfy a test. -/
def ofPressed (test : Nibble → Bool) : Keypad :=
  ⟨Vector.ofFn test⟩

/-- The keypad with the keys of a list down; other codes are left out. -/
def ofCodes (codes : List UInt8) : Keypad :=
  codes.foldl (fun keypad code => keypad.setKey code true) released

/-- A keypad written out. -/
def asRecord (keypad : Keypad) : String :=
  Text.Record.withFields "Keypad"
    [("keys", Text.Record.ofList (keypad.keys.toList.map toString))]

@[simp]
theorem isPressed_released (code : UInt8) :
    released.isPressed code = false := by
  simp only [isPressed, released, Vector.getElem?_replicate]
  split <;> rfl

theorem isPressed_setKey (keypad : Keypad) (code other : UInt8)
    (pressed : Bool) :
    (keypad.setKey code pressed).isPressed other =
      if code = other ∧ other.toNat < keyCount then pressed
      else keypad.isPressed other := by
  simp only [isPressed, setKey, Vector.getElem?_setIfInBounds,
    UInt8.toNat_inj]
  grind

end Keypad

end Chip8
