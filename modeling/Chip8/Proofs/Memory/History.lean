import Chip8.Memory.Access
import Chip8.Proofs.Memory.Access

/-!
# The history of a memory

Whatever was asked of a memory before, an access succeeds if and only if it
ends inside of memory, and one that fails changes nothing.  What is then read
is at each address the byte that was written there last, or the byte of a new
memory where nothing was written.

All accesses are one: `perform_eq` says what any of them gives and leaves behind
by its start, its length and the bytes it writes, and the history of a memory
is folded from this single equation.
-/

namespace Chip8

namespace Memory

namespace Access

/-! ## What an access asks for -/

/-- The first address of an access. -/
def start : Access → Nat
  | .readByte address => address.toNat
  | .readWord address => address.toNat
  | .slice start _ => start.toNat
  | .writeByte address _ => address.toNat
  | .write start _ => start.toNat
  | .fill start _ _ => start.toNat
  | .load _ => 0x200

/-- How many bytes an access is about. -/
def length : Access → Nat
  | .readByte _ => 1
  | .readWord _ => 2
  | .slice _ length => length
  | .writeByte _ _ => 1
  | .write _ data => data.length
  | .fill _ length _ => length
  | .load program => program.length

/-- The bytes that an access writes from its start on; none if it reads. -/
def data : Access → List UInt8
  | .readByte _ => []
  | .readWord _ => []
  | .slice _ _ => []
  | .writeByte _ value => [value]
  | .write _ data => data
  | .fill _ length value => List.replicate length value
  | .load program => program

/-- The access ends inside of memory. -/
def Inside (access : Access) : Prop :=
  access.start + access.length ≤ 4096

instance (access : Access) : Decidable access.Inside :=
  inferInstanceAs (Decidable (_ ≤ _))

/-- What an access gives, if these are the bytes. -/
def answer (byteAt : Nat → UInt8) : Access → Answer
  | .readByte address => .byte (byteAt address.toNat)
  | .readWord address =>
      .word <| UInt16.ofNat <|
        256 * (byteAt address.toNat).toNat +
          (byteAt (address.toNat + 1)).toNat
  | .slice start length =>
      .bytes <| (List.range length).map fun offset =>
        byteAt (start.toNat + offset)
  | _ => .written

/--
Why an access fails: a program is too large, and any other access names its
start, or the first address that does not exist if it started before that.
-/
def refusal : Access → Error
  | .load program => .programTooLarge program.length
  | access =>
      .addressOutOfBounds
        (if 0x1000 ≤ access.start then access.start else 0x1000)

/-- The byte that an access writes at an address, if it writes one there. -/
def written? (access : Access) (address : Nat) : Option UInt8 :=
  if access.Inside ∧ access.start ≤ address then
    access.data[address - access.start]?
  else none

end Access

/--
The byte written last at an address by the accesses of a history that
succeeded, or else the byte of a new memory.
-/
def latest (history : List Access) (address : Nat) : UInt8 :=
  (history.filterMap fun access => access.written? address).getLast?.getD
    (withFont.byteAt address)

/-! ## One access -/

namespace Access

/-- The check that an access has to pass. -/
def check : Access → Except Error Unit
  | .readByte address => checkAccess address 1
  | .readWord address => checkAccess address 2
  | .slice start length => checkAccess start length
  | .writeByte address _ => checkAccess address 1
  | .write start data => checkAccess start data.length
  | .fill start length _ => checkAccess start length
  | .load program =>
      if programCapacity < program.length then
        .error (.programTooLarge program.length)
      else checkAccess (UInt16.ofNat programStart) program.length

variable {access : Access}

theorem check_of_inside (inside : access.Inside) : access.check = .ok () := by
  cases access with
  | load program =>
      have fits : program.length ≤ programCapacity :=
        Nat.le_sub_of_add_le' inside
      exact (if_neg (Nat.not_lt_of_le fits)).trans (checkAccess_inside inside)
  | _ => exact checkAccess_inside inside

theorem check_of_outside (outside : ¬ access.Inside) :
    access.check = .error access.refusal := by
  -- Checks report the maximum of the start and the size.
  have reported (start : UInt16) (length : Nat)
      (leaves : 4096 < start.toNat + length) :
      checkAccess start length = .error (.addressOutOfBounds
        (if 0x1000 ≤ start.toNat then start.toNat else 0x1000)) := by
    rw [checkAccess_outside leaves, Nat.max_comm]
    rfl
  cases access with
  | load program =>
      exact if_pos <| Nat.lt_of_not_le fun fits => outside (end_of_fits fits)
  | _ => exact reported _ _ (Nat.lt_of_not_le outside)

/-- An access does all that it is asked for once it has passed its check. -/
theorem perform_eq_check (access : Access) (memory : Memory) :
    access.perform memory =
      match access.check with
      | .ok () =>
          (.ok (access.answer memory.byteAt),
            memory.overwrite access.start access.data)
      | .error error => (.error error, memory) := by
  cases access with
  | readByte address =>
      rw [perform, Memory.readByte, check]
      cases checkAccess address 1 <;> rfl
  | readWord address =>
      rw [perform, Memory.readWord, check]
      cases checkAccess address 2 <;> rfl
  | slice start length =>
      rw [perform, Memory.slice, check]
      cases checkAccess start length <;> rfl
  | writeByte address value =>
      rw [perform, Memory.writeByte, check]
      cases checkAccess address 1 <;> rfl
  | write start data =>
      rw [perform, Memory.write, check]
      cases checkAccess start data.length <;> rfl
  | fill start length value =>
      rw [perform, Memory.fill, check]
      cases checkAccess start length <;> rfl
  | load program =>
      rw [perform, Memory.load, check]
      split
      · rfl
      · rw [Memory.write]
        cases checkAccess (UInt16.ofNat programStart) program.length <;> rfl

/-- An access succeeds as a whole, or it changes nothing. -/
theorem perform_eq (access : Access) (memory : Memory) :
    access.perform memory =
      if access.Inside then
        (.ok (access.answer memory.byteAt),
          memory.overwrite access.start access.data)
      else (.error access.refusal, memory) := by
  rw [perform_eq_check]
  by_cases inside : access.Inside
  · rw [check_of_inside inside, if_pos inside]
  · rw [check_of_outside inside, if_neg inside]

theorem length_data_le (access : Access) :
    access.data.length ≤ access.length := by
  cases access with
  | fill start length value => exact Nat.le_of_eq List.length_replicate
  | _ => simp [data, length]

/-- The byte at an address is the one written there, or the old one. -/
theorem byteAt_perform (access : Access) (memory : Memory) (address : Nat) :
    (access.perform memory).2.byteAt address =
      (access.written? address).getD (memory.byteAt address) := by
  by_cases inside : access.Inside
  · have fits : access.start + access.data.length ≤ size :=
      Nat.le_trans (Nat.add_le_add_left access.length_data_le _) inside
    rw [perform_eq, if_pos inside, byteAt_overwrite]
    by_cases behind : access.start ≤ address
    · have asked : access.written? address =
          access.data[address - access.start]? := if_pos ⟨inside, behind⟩
      rw [asked]
      by_cases covered : address - access.start < access.data.length
      · rw [if_pos (by omega), List.getD_eq_getElem?_getD,
          List.getElem?_eq_getElem covered]
        rfl
      · rw [if_neg (by omega),
          List.getElem?_eq_none (Nat.le_of_not_lt covered)]
        rfl
    · have unasked : access.written? address = none :=
        if_neg fun all => behind all.2
      rw [if_neg fun all => behind all.1, unasked]
      rfl
  · have unasked : access.written? address = none :=
      if_neg fun all => inside all.1
    rw [perform_eq, if_neg inside, unasked]
    rfl

end Access

/-! ## Histories -/

/-- What is written last at an address is what is found there. -/
theorem byteAt_after (memory : Memory) (history : List Access)
    (address : Nat) :
    (memory.after history).byteAt address =
      (history.filterMap fun access =>
        access.written? address).getLast?.getD (memory.byteAt address) := by
  induction history generalizing memory with
  | nil => rfl
  | cons access rest step =>
      rw [after, step, access.byteAt_perform, List.filterMap_cons]
      cases access.written? address with
      | none => rfl
      | some value =>
          rw [List.getLast?_cons]
          rfl

theorem after_append (memory : Memory) (earlier later : List Access) :
    memory.after (earlier ++ later) =
      (memory.after earlier).after later := by
  induction earlier generalizing memory with
  | nil => rfl
  | cons access rest step => exact step (access.perform memory).2

/-! ## Words -/

theorem readByte_inside {memory : Memory} {address : UInt16}
    (inside : address.toNat + 1 ≤ size) :
    memory.readByte address = .ok (memory.byteAt address.toNat) := by
  rw [readByte, checkAccess_inside inside]
  rfl

/-- A word is read up to 0xFFE, and it is made of two bytes. -/
theorem readWord_eq_ok_iff {memory : Memory} {address value : UInt16} :
    memory.readWord address = .ok value ↔
      address.toNat ≤ 0xFFE ∧ ∃ high low,
        memory.readByte address = .ok high ∧
          memory.readByte (address + 1) = .ok low ∧
          value.toNat = 256 * high.toNat + low.toNat := by
  by_cases inside : address.toNat ≤ 0xFFE
  · have next : (address + 1).toNat = address.toNat + 1 := by
      rw [UInt16.toNat_add, UInt16.toNat_one]
      exact Nat.mod_eq_of_lt (by omega)
    have fits : address.toNat + 2 ≤ size := Nat.add_le_add_right inside 2
    have nextFits : (address + 1).toNat + 1 ≤ size := next ▸ fits
    rw [readWord_inside fits, readByte_inside (Nat.le_of_succ_le fits),
      readByte_inside nextFits, next]
    constructor
    · intro read
      cases read
      exact ⟨inside, _, _, rfl, rfl, memory.toNat_wordAt address.toNat⟩
    · rintro ⟨-, high, low, highRead, lowRead, made⟩
      cases highRead
      cases lowRead
      rw [← memory.toNat_wordAt] at made
      exact congrArg Except.ok (UInt16.toNat_inj.mp made).symm
  · have leaves : size < address.toNat + 2 :=
      Nat.add_lt_add_right (Nat.lt_of_not_le inside) 2
    rw [readWord_outside leaves]
    constructor
    · intro read
      cases read
    · rintro ⟨fits, -⟩
      exact absurd fits inside

/--
After every history, memory has its 4096 bytes, and every access does as a whole
what its start, its length and the bytes written last tell, or fails if it does
not end inside of memory and then changes nothing.  A word is read up to 0xFFE,
and it is made of the bytes at its address and behind it.
-/
theorem history_determines_accesses (history : List Access) :
    let memory := withFont.after history
    memory.bytes.toList.length = 4096 ∧
    (∀ access : Access,
      access.perform memory =
        if access.Inside then
          (.ok (access.answer (latest history)),
            withFont.after (history ++ [access]))
        else (.error access.refusal, memory)) ∧
    ∀ address value,
      memory.readWord address = .ok value ↔
        address.toNat ≤ 0xFFE ∧ ∃ high low,
          memory.readByte address = .ok high ∧
          memory.readByte (address + 1) = .ok low ∧
          value.toNat = 256 * high.toNat + low.toNat := by
  intro memory
  have bytes : memory.byteAt = latest history :=
    funext fun address => byteAt_after withFont history address
  refine ⟨memory.bytes.length_toList, ?_, fun _ _ => readWord_eq_ok_iff⟩
  intro access
  have next : withFont.after (history ++ [access]) =
      (access.perform memory).2 := after_append withFont history [access]
  have made := access.perform_eq memory
  rw [bytes] at made
  by_cases inside : access.Inside
  · rw [if_pos inside] at made
    rw [if_pos inside, next, made]
  · rw [if_neg inside] at made
    rw [if_neg inside, made]

end Memory

end Chip8
