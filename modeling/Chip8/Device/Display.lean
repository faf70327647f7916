import Chip8.Device.Event

/-!
# Displays

A terminal display takes the screen over in three calls, of which each has to
succeed before the next one is made, and shows the cursor again at the end.  A
frame recorder only remembers what it was shown.
-/

namespace Chip8

/-- The calls that a terminal display makes, by their kinds. -/
structure ScreenChannels where
  /-- Taking the screen over. -/
  openScreen : Channel
  /-- Emptying the screen. -/
  clearScreen : Channel
  /-- Hiding the cursor. -/
  hideCursor : Channel
  /-- Drawing. -/
  draw : Channel
  /-- Showing the cursor. -/
  showCursor : Channel

/-- A display in a terminal. -/
structure TerminalDisplay where
  /-- The title in the border. -/
  title : String
  /-- Drawing. -/
  drawing : Channel
  /-- Showing the cursor. -/
  cursor : Channel

namespace TerminalDisplay

/-- One of the calls that take the screen over. -/
def prepare (action : DeviceAction) (channel : Channel) :
    Activity Emission IoError Unit Unit :=
  let call := .call (.attempt action channel.works)
  if channel.works then ⟨.ok (), (), [call]⟩
  else ⟨.error (.device action.failure), (), [call]⟩

/-- Take the screen over, if the terminal lets it happen. -/
def open? (channels : ScreenChannels) (title : String) :
    Activity Emission IoError Unit TerminalDisplay :=
  (prepare .openScreen channels.openScreen).andThen fun () () =>
    (prepare .clearScreen channels.clearScreen).andThen fun () () =>
      (prepare .hideCursor channels.hideCursor).andThen fun () () =>
        .done ⟨title, channels.draw, channels.showCursor⟩ ()

/-- Show a frame. -/
def draw (display : TerminalDisplay) (frame : Frame) :
    Activity Emission IoError TerminalDisplay Unit :=
  let after := { display with drawing := display.drawing.next }
  if display.drawing.works then
    ⟨.ok (), after,
      [.call (.attempt .draw true),
        .call (.shown (.ofFrame display.title frame))]⟩
  else
    ⟨.error (.device DeviceAction.draw.failure), after,
      [.call (.attempt .draw false)]⟩

instance : DisplayDevice TerminalDisplay where
  draw := draw

/-- What happens when the screen is given back; a failure changes nothing. -/
def close (display : TerminalDisplay) : List Emission :=
  [.call (.attempt .showCursor display.cursor.works)]

end TerminalDisplay

/-- A display that remembers what it was shown. -/
structure FrameRecorder where
  /-- How many frames it was shown. -/
  count : Nat
  /-- The last of them. -/
  last : Option Frame
  deriving DecidableEq

namespace FrameRecorder

/-- The recorder that was shown nothing. -/
def empty : FrameRecorder :=
  ⟨0, none⟩

/-- Remember a frame. -/
def draw (recorder : FrameRecorder) (frame : Frame) :
    Activity Emission IoError FrameRecorder Unit :=
  .done () ⟨recorder.count + 1, some frame⟩

instance : DisplayDevice FrameRecorder where
  draw := draw

end FrameRecorder

end Chip8
