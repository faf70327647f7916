import Chip8.Device.Keyboard
import Chip8.Proofs.Keypad

/-!
# For how long a press holds its key

A terminal does not tell when a key is released, and so the keys that are down
after a scan are read off the presses of the last six scans, that scan among
them.  Behind this is one law of the counters: the counter of a key is six less
the number of scans since its latest press, and zero if that is too long ago or
if there was none.  A press therefore starts the time of its key anew, whatever
was left of it.

A scan that fails counts like any other.  The presses before the failure have
been read and hold their keys, but only the next scan that succeeds shows them
on the keypad.
-/

namespace Chip8

namespace Keyboard

/-- The events that the next scan reads. -/
def nextRead (keyboard : Keyboard) : List KeyEvent :=
  eventsRead (keyboard.waiting.headD [])

/-- For how many scans a key is held by these counters. -/
def counter (held : Vector Nat 16) (key : Nibble) : Nat :=
  getElem held key.val key.val_lt

/-- For how many scans a key is still held, the present one included. -/
def remaining (keyboard : Keyboard) (key : Nibble) : Nat :=
  counter keyboard.held key

/-- Whether one of the events presses the key. -/
def presses (key : Nibble) (events : List KeyEvent) : Bool :=
  events.any fun event => decide (pressOf? event = some key)

/--
A keyboard has been scanned and has read some events, one list for each scan
and the latest first.  Between the scans anything may come to be waiting, each
scan may bring another keypad up to date, and it may fail.
-/
inductive HasRead : List (List KeyEvent) → Keyboard → Prop where
  /-- The keyboard was just taken over. -/
  | taken {channel : Channel} {waiting : List (List Arrival)}
      {keyboard : Keyboard}
      (opened : (open? channel waiting).result = .ok keyboard) :
      HasRead [] keyboard
  /-- Something else is waiting. -/
  | arrived {reads : List (List KeyEvent)} {keyboard : Keyboard}
      (waiting : List (List Arrival)) (earlier : HasRead reads keyboard) :
      HasRead reads { keyboard with waiting }
  /-- There was a scan. -/
  | scanned {reads : List (List KeyEvent)} {keyboard : Keyboard}
      (keypad : Keypad) (earlier : HasRead reads keyboard) :
      HasRead (keyboard.nextRead :: reads) (keyboard.scan keypad).state.1

variable {keyboard : Keyboard} {reads : List (List KeyEvent)}
  {events : List KeyEvent} {key : Nibble} {char : Char}
  {channel : Channel} {waiting : List (List Arrival)}

/-! ## Taking the keyboard over -/

theorem open_of_works (works : channel.works = true) :
    open? channel waiting =
      ⟨.ok ⟨.replicate 16 0, waiting⟩, (),
        [.call (.attempt .takeKeyboard true)]⟩ := by
  simp only [open?, works, if_true]

theorem open_of_fails (fails : channel.works = false) :
    open? channel waiting =
      ⟨.error (.device DeviceAction.takeKeyboard.failure), (),
        [.call (.attempt .takeKeyboard false)]⟩ := by
  simp only [open?, fails, Bool.false_eq_true, if_false]

theorem works_of_ok
    (taken : (open? channel waiting).result = .ok keyboard) :
    channel.works = true := by
  cases works : channel.works with
  | true => rfl
  | false =>
      rw [open_of_fails works] at taken
      cases taken

theorem works_of_error {error : IoError}
    (failed : (open? channel waiting).result = .error error) :
    channel.works = false := by
  cases works : channel.works with
  | false => rfl
  | true =>
      rw [open_of_works works] at failed
      cases failed

/-! ## Which event presses which key -/

/-- No character stands twice on the layout. -/
theorem lookup_layout :
    layout.lookup char = some key ↔ (char, key) ∈ layout := by
  constructor
  · intro found
    obtain ⟨before, after, whole, -⟩ := List.lookup_eq_some_iff.mp found
    rw [whole]
    exact List.mem_append_right before List.mem_cons_self
  · intro member
    have unique : ∀ entry ∈ layout,
        layout.lookup entry.1 = some entry.2 := by
      decide
    exact unique (char, key) member

/-- A key is pressed by its character in either case, but not by a command. -/
theorem pressOf?_eq_some_iff {event : KeyEvent} :
    pressOf? event = some key ↔
      ∃ char, event = .character char ∧ commandOf? event = none ∧
        (char.toLower, key) ∈ layout := by
  constructor
  · intro pressed
    unfold pressOf? at pressed
    split at pressed
    next char quiet =>
      exact ⟨char, rfl, quiet, lookup_layout.mp pressed⟩
    next => cases pressed
  · rintro ⟨char, rfl, quiet, member⟩
    unfold pressOf?
    rw [quiet]
    exact lookup_layout.mpr member

theorem presses_iff :
    presses key events = true ↔
      ∃ char, .character char ∈ events ∧
        commandOf? (.character char) = none ∧
        (char.toLower, key) ∈ layout := by
  rw [presses, List.any_eq_true]
  constructor
  · rintro ⟨event, member, pressed⟩
    obtain ⟨char, rfl, quiet, mapped⟩ :=
      pressOf?_eq_some_iff.mp (of_decide_eq_true pressed)
    exact ⟨char, member, quiet, mapped⟩
  · rintro ⟨char, member, quiet, mapped⟩
    have pressed := pressOf?_eq_some_iff.mpr ⟨char, rfl, quiet, mapped⟩
    exact ⟨.character char, member, decide_eq_true pressed⟩

theorem presses_cons (event : KeyEvent) :
    presses key (event :: events) =
      (decide (pressOf? event = some key) || presses key events) :=
  List.any_cons

/-! ## The counter of a key -/

theorem counter_hold (held : Vector Nat 16) (event : KeyEvent) :
    counter (hold held event) key =
      if pressOf? event = some key then holdScans else counter held key := by
  unfold hold
  split
  next pressed isPress =>
    rw [isPress, counter, Vector.getElem_set]
    simp only [Option.some.injEq, Fin.ext_iff]
    rfl
  next none => rw [none, if_neg nofun]

/-- A key that some event presses is held anew, and any other key as before. -/
theorem counter_foldl_hold (held : Vector Nat 16) :
    counter (events.foldl hold held) key =
      if presses key events then holdScans else counter held key := by
  induction events generalizing held with
  | nil => rfl
  | cons event later ih =>
      rw [List.foldl_cons, ih, counter_hold, presses_cons]
      by_cases now : pressOf? event = some key
      · rw [if_pos now, decide_eq_true now, Bool.true_or, ite_self, if_pos rfl]
      · rw [if_neg now, decide_eq_false now, Bool.false_or]

/-- A scan takes one from each counter and then holds the keys pressed. -/
theorem remaining_scan (keyboard : Keyboard) (keypad : Keypad)
    (key : Nibble) :
    (keyboard.scan keypad).state.1.remaining key =
      if presses key keyboard.nextRead then holdScans
      else keyboard.remaining key - 1 := by
  have held : (keyboard.scan keypad).state.1.held =
      keyboard.nextRead.foldl hold
        (keyboard.held.map fun scans => scans - 1) := by
    unfold scan
    dsimp only
    split <;> rfl
  rw [remaining, held, counter_foldl_hold, counter, Vector.getElem_map]
  rfl

/-- How much of its time a key has left, so long after its latest press. -/
def timeLeft : Option Nat → Nat
  | some age => holdScans - age
  | none => 0

theorem timeLeft_le (age : Option Nat) : timeLeft age ≤ holdScans := by
  cases age with
  | none => exact Nat.zero_le holdScans
  | some age => exact Nat.sub_le holdScans age

theorem timeLeft_succ (age : Option Nat) :
    timeLeft (age.map (· + 1)) = timeLeft age - 1 := by
  cases age with
  | none => rfl
  | some age => exact Nat.sub_add_eq holdScans age 1

/-- The counter of a key is what its latest press has left for it. -/
theorem HasRead.remaining_eq (read : HasRead reads keyboard) (key : Nibble) :
    keyboard.remaining key = timeLeft (reads.findIdx? (presses key)) := by
  induction read with
  | taken opened =>
      rw [open_of_works (works_of_ok opened)] at opened
      cases opened
      exact Vector.getElem_replicate key.val_lt
  | arrived waiting earlier ih => exact ih
  | @scanned keyboard reads keypad earlier ih =>
      rw [remaining_scan, ih, List.findIdx?_cons]
      split
      · rfl
      · rw [timeLeft_succ]

theorem HasRead.remaining_le (read : HasRead reads keyboard) (key : Nibble) :
    keyboard.remaining key ≤ holdScans := by
  rw [read.remaining_eq]
  exact timeLeft_le _

/-- There is time left if and only if one of the last six scans had a press. -/
theorem timeLeft_pos_iff :
    0 < timeLeft (reads.findIdx? (presses key)) ↔
      ∃ events ∈ reads.take holdScans, presses key events = true := by
  constructor
  · intro left
    cases latest : reads.findIdx? (presses key) with
    | none =>
        rw [latest] at left
        cases left
    | some age =>
        rw [latest] at left
        obtain ⟨inside, pressed, -⟩ :=
          List.findIdx?_eq_some_iff_getElem.mp latest
        have recent : age < holdScans := Nat.lt_of_sub_pos left
        refine ⟨reads[age], ?_, pressed⟩
        exact List.mem_take_iff_getElem.mpr
          ⟨age, Nat.lt_min.mpr ⟨recent, inside⟩, rfl⟩
  · rintro ⟨events, member, pressed⟩
    obtain ⟨place, bound, rfl⟩ := List.mem_take_iff_getElem.mp member
    obtain ⟨recent, inside⟩ := Nat.lt_min.mp bound
    cases latest : reads.findIdx? (presses key) with
    | none =>
        have never := List.findIdx?_eq_none_iff.mp latest
        rw [never _ (List.getElem_mem inside)] at pressed
        cases pressed
    | some age =>
        obtain ⟨_, -, later⟩ := List.findIdx?_eq_some_iff_getElem.mp latest
        -- The latest press is no earlier than the one that is known.
        have atMost : age ≤ place :=
          Nat.le_of_not_lt fun earlier => later place earlier pressed
        exact Nat.sub_pos_of_lt (Nat.lt_of_le_of_lt atMost recent)

/-! ## The keypad after a scan -/

/-- A scan shows the keys that are held, unless it fails. -/
theorem keypad_scan (keyboard : Keyboard) (keypad : Keypad) :
    (keyboard.scan keypad).state.2 =
      match (keyboard.scan keypad).result with
      | .ok _ => keypadOf (keyboard.scan keypad).state.1.held
      | .error _ => keypad := by
  unfold scan
  dsimp only
  split <;> rfl

theorem isPressed_scan {keypad : Keypad} {command : Option Command}
    (succeeded : (keyboard.scan keypad).result = .ok command) :
    (keyboard.scan keypad).state.2.isPressed key.toByte = true ↔
      0 < (keyboard.scan keypad).state.1.remaining key := by
  rw [keypad_scan, succeeded]
  dsimp only
  rw [keypadOf, Keypad.isPressed_ofPressed, decide_eq_true_iff]
  rfl

/-- A key is down after a scan if one of the last six scans had a press. -/
theorem HasRead.isPressed_iff (read : HasRead reads keyboard)
    {keypad : Keypad} {command : Option Command}
    (succeeded : (keyboard.scan keypad).result = .ok command) :
    (keyboard.scan keypad).state.2.isPressed key.toByte = true ↔
      ∃ events ∈ (keyboard.nextRead :: reads).take holdScans,
        presses key events = true := by
  have further : HasRead (keyboard.nextRead :: reads)
      (keyboard.scan keypad).state.1 := read.scanned keypad
  rw [isPressed_scan succeeded, further.remaining_eq, timeLeft_pos_iff]

/--
After a scan that succeeds a code is down if and only if its key was pressed
during that scan or one of the five before it.  A scan that fails leaves the
keypad as it was.  The counter of a key is what its latest press has left for
it, and never exceeds six.
-/
theorem key_down_iff_recently_pressed (read : HasRead reads keyboard)
    (keypad : Keypad) :
    (∀ command, (keyboard.scan keypad).result = .ok command →
      ∀ code, (keyboard.scan keypad).state.2.isPressed code = true ↔
        ∃ events ∈ (keyboard.nextRead :: reads).take 6,
          ∃ (char : Char) (key : Nibble), .character char ∈ events ∧
            commandOf? (.character char) = none ∧
            (char.toLower, key) ∈ layout ∧ key.toByte = code) ∧
    (∀ error, (keyboard.scan keypad).result = .error error →
      (keyboard.scan keypad).state.2 = keypad) ∧
    (∀ key, (keyboard.scan keypad).state.1.remaining key =
      timeLeft ((keyboard.nextRead :: reads).findIdx? (presses key))) ∧
    (∀ key, keyboard.remaining key ≤ 6 ∧
      (keyboard.scan keypad).state.1.remaining key ≤ 6) := by
  have further : HasRead (keyboard.nextRead :: reads)
      (keyboard.scan keypad).state.1 := read.scanned keypad
  refine ⟨?_, ?_, further.remaining_eq,
    fun key => ⟨read.remaining_le key, further.remaining_le key⟩⟩
  · intro command succeeded code
    constructor
    · intro down
      obtain ⟨key, rfl⟩ := Keypad.exists_key_of_isPressed down
      obtain ⟨events, recent, pressed⟩ :=
        (read.isPressed_iff succeeded).mp down
      obtain ⟨char, member, quiet, mapped⟩ := presses_iff.mp pressed
      exact ⟨events, recent, char, key, member, quiet, mapped, rfl⟩
    · rintro ⟨events, recent, char, key, member, quiet, mapped, rfl⟩
      have pressed := presses_iff.mpr ⟨char, member, quiet, mapped⟩
      exact (read.isPressed_iff succeeded).mpr ⟨events, recent, pressed⟩
  · intro error failed
    rw [keypad_scan, failed]

/-- A keyboard at which x was pressed before the terminal fails. -/
def interrupted : Keyboard :=
  ⟨.replicate 16 0,
    [[.event (.character 'X'), .failed (.device "read failed")]]⟩

/-- The scan that fails shows nothing, and the next one shows the key. -/
theorem interrupted_shows_key_later :
    let failed := interrupted.scan .released
    HasRead [[.character 'X']] failed.state.1 ∧
      failed.state.2 = .released ∧
      (failed.state.1.scan .released).state.2.isPressed 0x0 = true := by
  intro failed
  have start : HasRead [] interrupted :=
    @HasRead.taken .reliable interrupted.waiting _ rfl
  have read : HasRead [[.character 'X']] failed.state.1 :=
    start.scanned .released
  obtain ⟨-, unchanged, -⟩ := key_down_iff_recently_pressed start .released
  obtain ⟨shown, -⟩ := key_down_iff_recently_pressed read .released
  refine ⟨read, unchanged (.device "read failed") rfl, ?_⟩
  refine (shown none rfl 0x0).mpr ⟨[.character 'X'], by decide, 'X', 0x0, ?_⟩
  decide

end Keyboard

end Chip8
