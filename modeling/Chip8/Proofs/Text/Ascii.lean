import Chip8.Text.Utf8
import Mathlib.Data.List.Basic
import Mathlib.Tactic.SplitIfs

/-!
# The characters of ASCII

Only the letters of ASCII change their case, by a fixed distance between their
code points.  In UTF-8 the characters of ASCII are single bytes, and all bytes
of other characters lie above them; so bytes of ASCII are always a text.
-/

namespace Chip8

namespace Text

theorem toNat_toLower (char : Char) :
    char.toLower.toNat =
      if 0x41 ≤ char.toNat ∧ char.toNat ≤ 0x5A then char.toNat + 0x20
      else char.toNat := by
  by_cases upper : char.val ≥ 'A'.val ∧ char.val ≤ 'Z'.val
  · have capital : 0x41 ≤ char.toNat ∧ char.toNat ≤ 0x5A := upper
    have changed : char.toLower = ⟨char.val + 0x20, _⟩ := dif_pos upper
    rw [if_pos capital, changed, Char.toNat, UInt32.toNat_add]
    show (char.toNat + 0x20) % 4294967296 = _
    exact Nat.mod_eq_of_lt (by omega)
  · have kept : char.toLower = char := dif_neg upper
    rw [kept]
    exact (if_neg upper).symm

theorem toNat_toUpper (char : Char) :
    char.toUpper.toNat =
      if 0x61 ≤ char.toNat ∧ char.toNat ≤ 0x7A then char.toNat - 0x20
      else char.toNat := by
  by_cases lower : 'a'.val ≤ char.val ∧ char.val ≤ 'z'.val
  · have small : 0x61 ≤ char.toNat ∧ char.toNat ≤ 0x7A := lower
    have changed : char.toUpper = ⟨char.val + ('A'.val - 'a'.val), _⟩ :=
      dif_pos lower
    rw [if_pos small, changed, Char.toNat, UInt32.toNat_add]
    -- The distance is taken away by adding what it lacks to 2 ^ 32.
    show (char.toNat + 4294967264) % 4294967296 = _
    omega
  · have kept : char.toUpper = char := dif_neg lower
    rw [kept]
    exact (if_neg lower).symm

/-- A character is found again from its lowercase form. -/
theorem eq_toLower_or (char : Char) :
    char = char.toLower ∨ char = char.toLower.toUpper := by
  simp only [← Char.toNat_inj, toNat_toUpper, toNat_toLower]
  split
  · right
    rw [if_pos (by omega), Nat.add_sub_cancel]
  · exact .inl rfl

/-- A text with the capital letters of ASCII in lowercase. -/
def lowered (text : String) : String :=
  String.ofList (text.toList.map Char.toLower)

namespace Utf8

variable {char : Char} {byte : UInt8}

theorem utf8EncodeChar_of_ascii (ascii : char.toNat ≤ 0x7F) :
    String.utf8EncodeChar char = [UInt8.ofNat char.toNat] :=
  if_pos ascii

theorem high_of_mem_utf8EncodeChar (beyond : 0x7F < char.toNat)
    (member : byte ∈ String.utf8EncodeChar char) : 0x80 ≤ byte.toNat := by
  have wide : ¬ char.val.toNat ≤ 127 := Nat.not_le_of_gt beyond
  rw [String.utf8EncodeChar, if_neg wide] at member
  split_ifs at member
  all_goals
    simp only [List.mem_cons, List.not_mem_nil, or_false] at member
  · rcases member with rfl | rfl
    all_goals
      rw [UInt8.toNat_ofNat']
      omega
  · rcases member with rfl | rfl | rfl
    all_goals
      rw [UInt8.toNat_ofNat']
      omega
  · rcases member with rfl | rfl | rfl | rfl
    all_goals
      rw [UInt8.toNat_ofNat']
      omega

theorem exists_encode_of_ascii {bytes : List UInt8}
    (ascii : ∀ byte ∈ bytes, byte.toNat ≤ 0x7F) :
    ∃ text, encode text = bytes := by
  have single : ∀ byte ∈ bytes,
      String.utf8EncodeChar (Char.ofNat byte.toNat) = [byte] := by
    intro byte member
    have small := ascii byte member
    have valid : byte.toNat.isValidChar := .inl (by omega)
    have value : (Char.ofNat byte.toNat).toNat = byte.toNat := by
      rw [Char.ofNat, dif_pos valid]
      rfl
    rw [utf8EncodeChar_of_ascii (by omega), value, UInt8.ofNat_toNat]
  refine ⟨String.ofList (bytes.map fun byte => Char.ofNat byte.toNat), ?_⟩
  rw [encode_ofList, List.flatMap_map, List.flatMap_congr single,
    List.flatMap_singleton']

end Utf8

end Text

end Chip8
