import Chip8.Device.Faulty
import Chip8.Device.KeyScript
import Chip8.Device.Notation
import Chip8.File.Tree
import Chip8.Main
import Chip8.Host.Request
import Chip8.Machine.Operation
import Chip8.Memory.Access
import Chip8.Memory.Change
import Chip8.Proofs.Machine.Checked
import Chip8.Proofs.Machine.Faults
import Chip8.Proofs.Machine.Pausing
import Chip8.Proofs.Machine.KeyWait
import Chip8.Proofs.Host.Frame
import Chip8.Proofs.Host.Loop
import Chip8.Proofs.Machine.Calls
import Chip8.Proofs.Machine.Timers
import Chip8.Proofs.Memory.History
import Chip8.Proofs.Host.Commands
import Chip8.Proofs.Host.Course
import Chip8.Proofs.Host.Sound
import Chip8.Proofs.Host.Run
import Chip8.Proofs.Host.Tone
import Chip8.Proofs.Host.Reload
import Chip8.Proofs.Instruction.Patterns
import Chip8.Proofs.Instruction.Assembly
import Chip8.Proofs.Machine.Footprint
import Chip8.Proofs.Machine.Countdown
import Chip8.Proofs.Host.Operations
import Chip8.Proofs.Machine.RandomBytes
import Chip8.Proofs.Host.RandomBytes
import Chip8.Proofs.Frame.Drawings
import Chip8.Proofs.Machine.Drawing
import Chip8.Proofs.Host.Terminal
import Chip8.Proofs.Keyboard
import Chip8.Proofs.Session
import Chip8.Proofs.Machine.Arithmetic
import Chip8.Proofs.Machine.Flow
import Chip8.Proofs.Host.PlainFrame
import Chip8.Proofs.Machine.Loading
import Chip8.Proofs.File.Path
import Chip8.Proofs.Rom.Digits
import Chip8.Proofs.Rom.Formats
import Chip8.Proofs.Machine.Saving
import Chip8.Proofs.Frame.Views
import Chip8.Proofs.Machine.Glyphs
import Chip8.Proofs.Machine.Transcript
import Chip8.Proofs.Speaker
import Chip8.Proofs.KeyScript
import Chip8.Proofs.Host.Expecting
import Chip8.Proofs.Session.Progress
