import Chip8.Keypad
import Mathlib.Data.List.Induction

/-!
# The latches and the lowest key that is down

A keypad is nothing but what it says of the codes: a key is down if the latest
setting of it since all keys were released was a press.

The keypad is searched from key 0 on.  The search finds nothing exactly if no
code at all is down, and otherwise the key below which no code is down.
-/

namespace Chip8

namespace Keypad

variable {keypad : Keypad}

/-- Codes above 15 are never down. -/
theorem isPressed_of_no_key {code : UInt8} (large : 16 ≤ code.toNat) :
    keypad.isPressed code = false := by
  have beyond : keypad.keys[code.toNat]? = none :=
    Vector.getElem?_eq_none large
  rw [isPressed, beyond]
  rfl

/-- Exactly the keys that satisfy the test are down. -/
@[simp]
theorem isPressed_ofPressed (test : Nibble → Bool) (key : Nibble) :
    (ofPressed test).isPressed key.toByte = test key := by
  have inside : key.val < keyCount := key.isLt
  rw [isPressed, Nibble.toNat_toByte, Vector.getElem?_eq_getElem inside,
    Option.getD_some]
  exact Vector.getElem_ofFn inside

/-- Keypads on which the same codes are down are the same. -/
theorem ext_isPressed {first second : Keypad}
    (same : ∀ code, first.isPressed code = second.isPressed code) :
    first = second := by
  cases first with | mk keys =>
  cases second with | mk keys' =>
  congr 1
  apply Vector.ext
  intro key inside
  have below : key < 16 := inside
  have code : (UInt8.ofNat key).toNat = key := by
    rw [UInt8.toNat_ofNat']
    omega
  have agree := same (UInt8.ofNat key)
  simpa only [isPressed, code, Vector.getElem?_eq_getElem inside,
    Option.getD_some] using agree

/-- A code that is down is the code of a key. -/
theorem exists_key_of_isPressed {code : UInt8}
    (pressed : keypad.isPressed code = true) :
    ∃ key : Nibble, key.toByte = code := by
  rcases Nat.lt_or_ge code.toNat 16 with small | large
  · refine ⟨⟨code.toNat, small⟩, ?_⟩
    apply UInt8.toNat.inj
    rw [Nibble.toNat_toByte]
  · rw [isPressed_of_no_key large] at pressed
    cases pressed

/-- The search finds nothing exactly if nothing is down. -/
theorem lowestPressed?_eq_none_iff :
    keypad.lowestPressed? = none ↔
      ∀ code, keypad.isPressed code = false := by
  rw [lowestPressed?, List.find?_eq_none]
  constructor
  · intro none code
    cases pressed : keypad.isPressed code with
    | false => rfl
    | true =>
        obtain ⟨key, rfl⟩ := exists_key_of_isPressed pressed
        exact absurd pressed (none key (List.mem_finRange key))
  · intro none key _
    rw [none key.toByte]
    exact Bool.false_ne_true

/-- The key at a place of the search has the number of the place. -/
theorem toNat_searched {place : Nat}
    (inside : place < (List.finRange 16).length) :
    (Nibble.toByte (List.finRange 16)[place]).toNat = place := by
  rw [Nibble.toNat_toByte, List.getElem_finRange]
  rfl

/-- The search finds the key that is down and below which none is. -/
theorem lowestPressed?_eq_some_iff {key : Nibble} :
    keypad.lowestPressed? = some key ↔
      keypad.isPressed key.toByte = true ∧
        ∀ code, code < key.toByte → keypad.isPressed code = false := by
  rw [lowestPressed?, List.find?_eq_some_iff_getElem]
  constructor
  · rintro ⟨pressed, place, inside, rfl, before⟩
    refine ⟨pressed, ?_⟩
    intro code below
    rw [UInt8.lt_iff_toNat_lt, toNat_searched inside] at below
    have earlier := before code.toNat below
    have same := UInt8.toNat.inj
      (toNat_searched (Nat.lt_trans below inside))
    rw [same, Bool.not_eq_true'] at earlier
    exact earlier
  · rintro ⟨pressed, before⟩
    have inside : key.val < (List.finRange 16).length := by
      rw [List.length_finRange]
      exact key.isLt
    refine ⟨pressed, key.val, inside, ?_, ?_⟩
    · rw [List.getElem_finRange]
      rfl
    · intro number below
      rw [Bool.not_eq_true']
      apply before
      rw [UInt8.lt_iff_toNat_lt, toNat_searched (Nat.lt_trans below inside),
        Nibble.toNat_toByte]
      exact below

/-- If a code is down, the search finds a key. -/
theorem exists_lowestPressed {code : UInt8}
    (pressed : keypad.isPressed code = true) :
    ∃ key, keypad.lowestPressed? = some key := by
  cases lowest : keypad.lowestPressed? with
  | some key => exact ⟨key, rfl⟩
  | none =>
      rw [lowestPressed?_eq_none_iff.mp lowest code] at pressed
      cases pressed

/-! ## Histories -/

/-- What a host does to a keypad. -/
inductive Change where
  /-- Press or release the key with this code. -/
  | set (code : UInt8) (pressed : Bool)
  /-- Release all keys. -/
  | releaseAll

namespace Change

/-- Whether a change is for one key. -/
def isSetting : Change → Bool
  | .set _ _ => true
  | .releaseAll => false

/-- What a change makes of one key. -/
def setting? (code : UInt8) : Change → Option Bool
  | .set other pressed => if other = code then some pressed else none
  | .releaseAll => none

/-- A keypad after a change. -/
def apply (keypad : Keypad) : Change → Keypad
  | .set code pressed => keypad.setKey code pressed
  | .releaseAll => released

end Change

/-- A keypad after several changes. -/
def after (keypad : Keypad) (changes : List Change) : Keypad :=
  changes.foldl Change.apply keypad

theorem after_concat (keypad : Keypad) (earlier : List Change)
    (change : Change) :
    keypad.after (earlier ++ [change]) =
      Change.apply (keypad.after earlier) change := by
  rw [after, List.foldl_append]
  rfl

/--
What the latest setting of a code since all keys were released made of it;
not pressed if there was none.
-/
def latest (changes : List Change) (code : UInt8) : Bool :=
  ((changes.reverse.takeWhile Change.isSetting).findSome?
    (Change.setting? code)).getD false

/-- A key is as its latest setting made it. -/
theorem isPressed_after (changes : List Change) {code : UInt8}
    (small : code.toNat < 16) :
    (released.after changes).isPressed code = latest changes code := by
  induction changes using List.reverseRecOn with
  | nil => exact isPressed_released code
  | append_singleton earlier change ih =>
      rw [after_concat]
      cases change with
      | releaseAll =>
          rw [Change.apply, isPressed_released, latest, List.reverse_concat]
          rfl
      | set other pressed =>
          rw [Change.apply, isPressed_setKey, ih, latest, latest,
            List.reverse_concat, List.takeWhile_cons_of_pos rfl,
            List.findSome?_cons, Change.setting?]
          by_cases same : other = code
          · simp [same, keyCount, small]
          · simp [same]

/-- A code of no key changes nothing. -/
theorem setKey_of_no_key (keypad : Keypad) {code : UInt8} (pressed : Bool)
    (large : 16 ≤ code.toNat) : keypad.setKey code pressed = keypad := by
  apply ext_isPressed
  intro other
  rw [isPressed_setKey, if_neg]
  rintro ⟨rfl, small⟩
  exact absurd small (Nat.not_lt.mpr large)

/-- Pressing the keys of a list keeps the others as they were. -/
theorem isPressed_foldl_setKey (keypad : Keypad) (codes : List UInt8)
    (code : UInt8) :
    (codes.foldl (fun keypad code => keypad.setKey code true)
        keypad).isPressed code = true ↔
      (code.toNat < 16 ∧ code ∈ codes) ∨ keypad.isPressed code = true := by
  induction codes generalizing keypad with
  | nil => simp
  | cons first codes ih =>
      rw [List.foldl_cons, ih, isPressed_setKey, keyCount, List.mem_cons]
      by_cases same : first = code
      · subst same
        by_cases small : first.toNat < 16 <;> simp [small]
      · simp [same, Ne.symm same]

/-- Exactly the keys of the list are down. -/
theorem isPressed_ofCodes (codes : List UInt8) (code : UInt8) :
    (ofCodes codes).isPressed code = true ↔
      code.toNat < 16 ∧ code ∈ codes := by
  rw [ofCodes, isPressed_foldl_setKey, isPressed_released]
  simp

end Keypad

end Chip8
