import Chip8.Device.KeyScript
import Chip8.Proofs.Keypad

/-!
# Keys that latch, and scripts that hold them

A keypad keeps what was last done to each key, and a script replaces all that
is on a keypad at every scan.  So the keys that are down after a scan are those
that the script lists for it, whatever a host did to the keypad before, and
none when the script is used up.
-/

namespace Chip8

/-- What a keypad tells of the changes that led to it. -/
structure Keypad.Latched (changes : List Change) : Prop where
  /-- A key is as its latest setting made it. -/
  isPressed : ∀ code, code.toNat < 16 →
    (released.after changes).isPressed code = latest changes code
  /-- What is no key is not down. -/
  no_key : ∀ code, 16 ≤ code.toNat →
    (released.after changes).isPressed code = false
  /-- Setting what is no key changes nothing. -/
  ignored : ∀ code pressed, 16 ≤ code.toNat →
    released.after (changes ++ [.set code pressed]) = released.after changes
  /-- The search finds the least code that is down. -/
  found : ∀ key, (released.after changes).lowestPressed? = some key ↔
    (released.after changes).isPressed key.toByte = true ∧
      ∀ code, code < key.toByte →
        (released.after changes).isPressed code = false
  /-- The search finds nothing if and only if nothing is down. -/
  not_found : (released.after changes).lowestPressed? = none ↔
    ∀ code, (released.after changes).isPressed code = false
  /-- Keypads are told apart by the codes that are down. -/
  told_apart : ∀ other : Keypad, released.after changes = other ↔
    ∀ code, (released.after changes).isPressed code = other.isPressed code

theorem Keypad.latched (changes : List Change) : Latched changes where
  isPressed _ small := isPressed_after changes small
  no_key _ large := isPressed_of_no_key large
  ignored code pressed large := by
    rw [after_concat]
    exact setKey_of_no_key _ pressed large
  found _ := lowestPressed?_eq_some_iff
  not_found := lowestPressed?_eq_none_iff
  told_apart _ := ⟨fun same code => by rw [same], ext_isPressed⟩

namespace KeyScript

/-- A script after scans of some keypads. -/
def scanned (script : KeyScript) (keypads : List Keypad) : KeyScript :=
  keypads.foldl (fun script keypad => (script.scan keypad).state.1) script

theorem scans_scanned (script : KeyScript) (keypads : List Keypad) :
    (script.scanned keypads).scans = script.scans.drop keypads.length := by
  induction keypads generalizing script with
  | nil => rfl
  | cons keypad keypads ih =>
      rw [scanned, List.foldl_cons]
      refine (ih _).trans ?_
      rcases script with ⟨scans⟩
      cases scans with
      | nil => simp [scan, Activity.done]
      | cons now later => rfl

/--
The scan that follows others presses the keys of its frame, and no others, and
gives the command of the frame; behind the last frame nothing is pressed.
-/
structure Plays (script : KeyScript) (earlier : List Keypad)
    (keypad : Keypad) : Prop where
  frame : ∀ frame, script.scans[earlier.length]? = some frame →
    ((script.scanned earlier).scan keypad).result = .ok frame.command ∧
      ∀ code,
        ((script.scanned earlier).scan keypad).state.2.isPressed code =
            true ↔
          code.toNat < 16 ∧ code ∈ frame.codes
  used_up : script.scans.length ≤ earlier.length →
    ((script.scanned earlier).scan keypad).result = .ok none ∧
      ∀ code,
        ((script.scanned earlier).scan keypad).state.2.isPressed code = false

theorem plays (script : KeyScript) (earlier : List Keypad) (keypad : Keypad) :
    Plays script earlier keypad := by
  have rest := script.scans_scanned earlier
  constructor
  case frame =>
    intro frame here
    obtain ⟨inside, rfl⟩ := List.getElem?_eq_some_iff.mp here
    rw [List.drop_eq_getElem_cons inside] at rest
    rw [scan, rest]
    exact ⟨rfl, Keypad.isPressed_ofCodes _⟩
  case used_up =>
    intro beyond
    rw [List.drop_eq_nil_of_le beyond] at rest
    rw [scan, rest]
    exact ⟨rfl, Keypad.isPressed_released⟩

/-- Keys and codes without a key are held, then nothing behind the script. -/
example :
    let script : KeyScript := ⟨[⟨[0x2, 0x10, 0x1], some .quit⟩]⟩
    let first := script.scan (.ofCodes [0x5])
    first.result = .ok (some .quit) ∧ first.state.2 = .ofCodes [0x1, 0x2] ∧
      (first.state.1.scan first.state.2).state.2 = .released := by
  decide

/--
After any changes a key is as its latest setting made it.  Whatever keys were
down before, each scan of a script gives its command and leaves just the named
keys down, and none when the script is used up.
-/
theorem latches_and_scripts :
    (∀ changes, Keypad.Latched changes) ∧
      ∀ (script : KeyScript) earlier keypad, Plays script earlier keypad :=
  ⟨Keypad.latched, plays⟩

end KeyScript

end Chip8
