import Chip8.Device.Event

/-!
# The keyboard of a terminal

A terminal tells when a key is pressed and never when it is released.  A press
therefore holds its key for six scans, and a later press of the same key starts
anew.  Three keys are commands to the host instead; of several commands during
one scan the last one counts.

A scan that fails has read the events before the failure and has held their
keys, but it leaves the keypad as it was.  What it has not read waits for the
next scan.
-/

namespace Chip8

/-- Something that the terminal tells. -/
inductive KeyEvent where
  /-- The escape key. -/
  | escape
  /-- A key with a character, whatever modifier is held. -/
  | character (char : Char)
  /-- Any other key, or something that is no key. -/
  | other
  deriving DecidableEq

/-- What asking the terminal for an event gives. -/
inductive Arrival where
  /-- An event. -/
  | event (event : KeyEvent)
  /-- No event: the terminal failed. -/
  | failed (error : IoError)
  deriving DecidableEq

/-- A keyboard. -/
structure Keyboard where
  /-- For how many scans each key is still held, the present one included. -/
  held : Vector Nat 16
  /-- What is waiting at each scan to come. -/
  waiting : List (List Arrival)
  deriving DecidableEq

namespace Keyboard

/-- For how many scans a press holds its key. -/
def holdScans : Nat := 6

/-- The characters of the keys, by the rows of the left half of a keyboard. -/
def layout : List (Char × Nibble) :=
  [('1', 0x1), ('2', 0x2), ('3', 0x3), ('4', 0xC),
    ('q', 0x4), ('w', 0x5), ('e', 0x6), ('r', 0xD),
    ('a', 0x7), ('s', 0x8), ('d', 0x9), ('f', 0xE),
    ('z', 0xA), ('x', 0x0), ('c', 0xB), ('v', 0xF)]

/-- The key of a character in either case. -/
def keyOf? (char : Char) : Option Nibble :=
  layout.lookup char.toLower

/-- The command of an event. -/
def commandOf? : KeyEvent → Option Command
  | .escape => some .quit
  | .character 'p' => some .togglePause
  | .character 'm' => some .toggleMute
  | _ => none

/-- The key that an event presses. -/
def pressOf? (event : KeyEvent) : Option Nibble :=
  match commandOf? event, event with
  | none, .character char => keyOf? char
  | _, _ => none

/-- What is told about an event: a character that is no command and no key. -/
def recordsOf (event : KeyEvent) : List LogRecord :=
  match commandOf? event, event with
  | none, .character char =>
      if (keyOf? char).isNone then [.unmappedKey char] else []
  | _, _ => []

/-- The events that are read: those before the terminal fails, if it does. -/
def eventsRead : List Arrival → List KeyEvent
  | .event event :: rest => event :: eventsRead rest
  | _ => []

/-- The first failure of the terminal, with what is still waiting behind it. -/
def failure? : List Arrival → Option (IoError × List Arrival)
  | [] => none
  | .event _ :: rest => failure? rest
  | .failed error :: rest => some (error, rest)

/-- The last command among some events. -/
def lastCommand? (events : List KeyEvent) : Option Command :=
  (events.filterMap commandOf?).getLast?

/-- For how many scans each key is held after one more event. -/
def hold (held : Vector Nat 16) (event : KeyEvent) : Vector Nat 16 :=
  match pressOf? event with
  | some key => held.set key holdScans key.val_lt
  | none => held

/-- The keypad with the held keys down. -/
def keypadOf (held : Vector Nat 16) : Keypad :=
  .ofPressed fun key => 0 < getElem held key.val key.val_lt

/-- Bring a keypad up to date. -/
def scan (keyboard : Keyboard) (keypad : Keypad) :
    Activity Emission IoError (Keyboard × Keypad) (Option Command) :=
  let now := keyboard.waiting.headD []
  let later := keyboard.waiting.tail
  let events := eventsRead now
  let aged := keyboard.held.map fun scans => scans - 1
  let held := events.foldl hold aged
  let trace := (events.flatMap recordsOf).map Emission.told
  match failure? now with
  | none =>
      ⟨.ok (lastCommand? events), (⟨held, later⟩, keypadOf held), trace⟩
  | some (error, rest) =>
      ⟨.error error, (⟨held, rest :: later⟩, keypad), trace⟩

instance : InputDevice Keyboard where
  scan := scan

/-- Take the keyboard over, if the terminal lets it happen. -/
def open? (channel : Channel) (waiting : List (List Arrival)) :
    Activity Emission IoError Unit Keyboard :=
  let call := .call (.attempt .takeKeyboard channel.works)
  if channel.works then ⟨.ok ⟨Vector.replicate 16 0, waiting⟩, (), [call]⟩
  else ⟨.error (.device DeviceAction.takeKeyboard.failure), (), [call]⟩

/-- What happens when the keyboard is given back. -/
def close : List Emission :=
  [.call (.attempt .releaseKeyboard true)]

end Keyboard

end Chip8
