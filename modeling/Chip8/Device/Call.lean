import Chip8.Frame

/-!
# Device calls

What the program asks of the terminal and the speaker.  Each call either
succeeds or fails with a fixed wording; whether it fails depends only on how
many calls of its kind were made before.
-/

namespace Chip8

/-- What is asked of a device. -/
inductive DeviceAction where
  /-- Take the keyboard over. -/
  | takeKeyboard
  /-- Give the keyboard back. -/
  | releaseKeyboard
  /-- Take the screen over. -/
  | openScreen
  /-- Empty the screen. -/
  | clearScreen
  /-- Hide the cursor. -/
  | hideCursor
  /-- Show the cursor. -/
  | showCursor
  /-- Draw on the screen. -/
  | draw
  /-- Sound a tone of this pitch; zero is silence. -/
  | tone (pitch : Nat)
  deriving DecidableEq

namespace DeviceAction

/-- The name of an action. -/
def name : DeviceAction → String
  | .takeKeyboard => "raw on"
  | .releaseKeyboard => "raw off"
  | .openScreen => "terminal new"
  | .clearScreen => "clear"
  | .hideCursor => "hide cursor"
  | .showCursor => "show cursor"
  | .draw => "draw"
  | .tone pitch => "tone " ++ toString pitch

/-- The wording of the error when an action fails. -/
def failure : DeviceAction → String
  | .takeKeyboard => "raw mode failed"
  | .tone _ => "speaker failed"
  | action => action.name ++ " failed"

end DeviceAction

/-- What is shown on the screen: points inside of a border with a title. -/
structure Canvas where
  /-- How many columns the border and what it holds take. -/
  columns : Nat
  /-- How many rows the border and what it holds take. -/
  rows : Nat
  /-- The least and the greatest horizontal coordinate. -/
  horizontal : Int × Int
  /-- The least and the greatest vertical coordinate. -/
  vertical : Int × Int
  /-- The points, in the order in which they are drawn. -/
  points : List (Int × Int)
  /-- The title in the border. -/
  title : String
  deriving DecidableEq

namespace Canvas

/-- The canvas of a frame; its vertical coordinates grow upwards. -/
def ofFrame (title : String) (frame : Frame) : Canvas where
  columns := Frame.width + 2
  rows := Frame.height + 2
  horizontal := (0, Frame.width - 1)
  vertical := (-(Frame.height - 1), 0)
  points := frame.litPixels.map fun point => (point.1, -point.2)
  title := title

/-- A range of coordinates. -/
def rangeText (range : Int × Int) : String :=
  toString range.1 ++ ".." ++ toString range.2

/-- The coordinates of a point. -/
def pointText (point : Int × Int) : String :=
  toString point.1 ++ "," ++ toString point.2

/-- A canvas on one line: white blocks on black inside of a whole border. -/
def line (canvas : Canvas) : String :=
  "canvas rect=0,0," ++ toString canvas.columns ++ "," ++
    toString canvas.rows ++ " borders=all bg=Black x=" ++
    rangeText canvas.horizontal ++ " y=" ++ rangeText canvas.vertical ++
    " marker=Block color=White points=" ++
    " ".intercalate (canvas.points.map pointText) ++ " title=" ++ canvas.title

end Canvas

/-- A call to a device. -/
inductive DeviceCall where
  /-- An action was asked for, and it succeeded or failed. -/
  | attempt (action : DeviceAction) (succeeded : Bool)
  /-- This was drawn. -/
  | shown (canvas : Canvas)
  deriving DecidableEq

/-- A call on one line. -/
def DeviceCall.line : DeviceCall → String
  | .attempt action true => action.name
  | .attempt action false => action.name ++ " failed"
  | .shown canvas => canvas.line

/-- The calls of one kind: which of them fail and how many were made. -/
structure Channel where
  /-- Whether the call with this number fails, counting from zero. -/
  fails : Nat → Bool
  /-- How many calls were made. -/
  calls : Nat

namespace Channel

/-- A channel on which every call succeeds. -/
def reliable : Channel :=
  ⟨fun _ => false, 0⟩

/-- The channel on which calls from a number on fail too, counting from one. -/
def failingFrom (channel : Channel) (number : Nat) : Channel :=
  { channel with fails := fun call => channel.fails call || number ≤ call + 1 }

/-- Whether the next call succeeds. -/
def works (channel : Channel) : Bool :=
  !channel.fails channel.calls

/-- The channel after one more call. -/
def next (channel : Channel) : Channel :=
  { channel with calls := channel.calls + 1 }

end Channel

end Chip8
