import Chip8.Proofs.Text.Ascii
import Chip8.Rom.Digits
import Mathlib.Data.List.Forall2

/-!
# Which texts are programs

A text is read if and only if it is a printing: the digits of the bytes in
their order, each in either case, with white space anywhere.  `Prints` says this
without reading anything, and the main theorem adds what becomes of all other
texts.  An odd number of digits is noticed before any digit is looked at, and
of several pairs that are no bytes the first one is named.

Reading is first told pair by pair, for characters without white space.  There a
digit is what the alphabet says, and `digitValue?` is shown to agree with it.
-/

namespace Chip8

theorem Nibble.joined_eq_iff {high low : Nibble} {byte : UInt8} :
    joined high low = byte ↔ high = upper byte ∧ low = lower byte := by
  constructor
  · rintro rfl
    simp
  · rintro ⟨rfl, rfl⟩
    exact joined_upper_lower byte

namespace Text.Hex

/-- A character is a digit in one of the two cases. -/
def IsDigit (char : Char) : Prop :=
  char ∈ "0123456789abcdefABCDEF".toList

/-- A character is the digit of a value. -/
def Writes (value : Nibble) (char : Char) : Prop :=
  "0123456789abcdef".toList[value.val]? = some char ∨
    "0123456789ABCDEF".toList[value.val]? = some char

instance (char : Char) : Decidable (IsDigit char) :=
  inferInstanceAs (Decidable (_ ∈ _))

instance (value : Nibble) (char : Char) : Decidable (Writes value char) :=
  inferInstanceAs (Decidable (_ ∨ _))

variable {value : Nibble} {char high low : Char} {byte : UInt8}

theorem writes_iff :
    Writes value char ↔
      char = digit value ∨ char = (digit value).toUpper := by
  have lower : ∀ value : Nibble,
      "0123456789abcdef".toList[value.val]? = some (digit value) := by decide
  have upper : ∀ value : Nibble,
      "0123456789ABCDEF".toList[value.val]? = some (digit value).toUpper := by
    decide
  simp only [Writes, lower, upper, Option.some.injEq, eq_comm]

theorem isDigit_iff : IsDigit char ↔ ∃ value, Writes value char := by
  have written : "0123456789abcdefABCDEF".toList.all
      fun char => ∃ value, Writes value char := by decide
  have listed : ∀ value : Nibble,
      digit value ∈ "0123456789abcdefABCDEF".toList ∧
        (digit value).toUpper ∈ "0123456789abcdefABCDEF".toList := by decide
  constructor
  · intro isDigit
    exact of_decide_eq_true (List.all_eq_true.mp written char isDigit)
  · rintro ⟨value, writes⟩
    rcases writes_iff.mp writes with rfl | rfl
    · exact (listed value).1
    · exact (listed value).2

theorem isBlank_of_isDigit (isDigit : IsDigit char) :
    Blank.isBlank char = false := by
  have visible : "0123456789abcdefABCDEF".toList.all
      fun char => Blank.isBlank char = false := by decide
  exact of_decide_eq_true (List.all_eq_true.mp visible char isDigit)

theorem digitValue?_eq_some_iff :
    digitValue? char = some value ↔ Writes value char := by
  rw [writes_iff]
  constructor
  · intro found
    have matched := List.find?_some found
    have same : digit value = char.toLower := beq_iff_eq.mp matched
    rw [same]
    exact eq_toLower_or char
  · rintro (rfl | rfl)
    · exact digitValue?_digit value
    · exact digitValue?_toUpper_digit value

theorem byteValue?_eq_some_iff :
    byteValue? high low = some byte ↔
      Writes (.upper byte) high ∧ Writes (.lower byte) low := by
  simp only [byteValue?, Option.bind_eq_bind, Option.bind_eq_some_iff,
    Option.pure_def, Option.some.injEq, Nibble.joined_eq_iff,
    digitValue?_eq_some_iff]
  constructor
  · rintro ⟨_, first, _, second, rfl, rfl⟩
    exact ⟨first, second⟩
  · rintro ⟨first, second⟩
    exact ⟨_, first, _, second, rfl, rfl⟩

theorem byteValue?_eq_none_iff :
    byteValue? high low = none ↔ ¬ (IsDigit high ∧ IsDigit low) := by
  rw [← Option.not_isSome_iff_eq_none, Option.isSome_iff_exists, not_iff_not]
  simp only [byteValue?_eq_some_iff, isDigit_iff]
  constructor
  · rintro ⟨byte, first, second⟩
    exact ⟨⟨_, first⟩, _, second⟩
  · rintro ⟨⟨first, writes⟩, second, writes'⟩
    refine ⟨Nibble.joined first second, ?_⟩
    rw [Nibble.upper_joined, Nibble.lower_joined]
    exact ⟨writes, writes'⟩

end Text.Hex

namespace Rom.Digits

open Text Text.Hex

/-- The halves of bytes, in the order in which they are written. -/
def halves (bytes : List UInt8) : List Nibble :=
  bytes.flatMap fun byte => [.upper byte, .lower byte]

/-- Characters write the values of digits, with white space anywhere. -/
inductive Written : List Nibble → List Char → Prop where
  | done : Written [] []
  | blank {values : List Nibble} {chars : List Char} {char : Char}
      (isBlank : Blank.isBlank char = true) (rest : Written values chars) :
      Written values (char :: chars)
  | digit {values : List Nibble} {chars : List Char} {value : Nibble}
      {char : Char} (writes : Writes value char)
      (rest : Written values chars) :
      Written (value :: values) (char :: chars)

/-- A text is a printing of some bytes. -/
def Prints (bytes : List UInt8) (text : String) : Prop :=
  Written (halves bytes) text.toList

/-- The first pair of characters of which one is no digit. -/
def FirstJunk (chars : List Char) (high low : Char) : Prop :=
  ∃ front rest, chars = front ++ high :: low :: rest ∧
    front.length % 2 = 0 ∧ (∀ char ∈ front, IsDigit char) ∧
      ¬ (IsDigit high ∧ IsDigit low)

variable {bytes later : List UInt8} {chars : List Char} {high low : Char}
  {text other : String}

@[simp]
theorem halves_cons (byte : UInt8) (bytes : List UInt8) :
    halves (byte :: bytes) = .upper byte :: .lower byte :: halves bytes :=
  rfl

@[simp]
theorem length_halves (bytes : List UInt8) :
    (halves bytes).length = 2 * bytes.length := by
  induction bytes with
  | nil => rfl
  | cons byte rest ih =>
      rw [halves_cons, List.length_cons, List.length_cons, ih,
        List.length_cons]
      omega

theorem halves_append (bytes later : List UInt8) :
    halves (bytes ++ later) = halves bytes ++ halves later :=
  List.flatMap_append

theorem forall₂_halves_cons {byte : UInt8} :
    List.Forall₂ Writes (halves (byte :: bytes)) (high :: low :: chars) ↔
      Writes (.upper byte) high ∧ Writes (.lower byte) low ∧
        List.Forall₂ Writes (halves bytes) chars := by
  rw [halves_cons, List.forall₂_cons, List.forall₂_cons]

/-! ## Pairs -/

/-- Pairs of digits are read if and only if they are the halves of bytes. -/
theorem bytesOf_eq_ok_iff (even : chars.length % 2 = 0) :
    bytesOf chars = .ok bytes ↔ List.Forall₂ Writes (halves bytes) chars := by
  fun_induction bytesOf chars generalizing bytes with
  | case1 high low rest byte read ih =>
      have fewer : rest.length % 2 = 0 := by
        simp only [List.length_cons] at even
        omega
      have written := byteValue?_eq_some_iff.mp read
      constructor
      · intro accepted
        cases remaining : bytesOf rest with
        | error defect =>
            rw [remaining] at accepted
            cases accepted
        | ok further =>
            rw [remaining] at accepted
            cases accepted
            exact .cons written.1 (.cons written.2
              ((ih fewer).mp remaining))
      · intro matched
        cases bytes with
        | nil => cases matched
        | cons first further =>
            obtain ⟨upper, lower, others⟩ := forall₂_halves_cons.mp matched
            have same := byteValue?_eq_some_iff.mpr ⟨upper, lower⟩
            cases read.symm.trans same
            rw [(ih fewer).mpr others]
            rfl
  | case2 high low rest read =>
      have junk := byteValue?_eq_none_iff.mp read
      refine ⟨nofun, fun matched => absurd ?_ junk⟩
      cases bytes with
      | nil => cases matched
      | cons first further =>
          obtain ⟨upper, lower, -⟩ := forall₂_halves_cons.mp matched
          exact ⟨isDigit_iff.mpr ⟨_, upper⟩, isDigit_iff.mpr ⟨_, lower⟩⟩
  | case3 chars unpaired =>
      have empty : chars = [] := by
        match chars with
        | [] => rfl
        | [_] => cases even
        | high :: low :: rest => exact absurd rfl (unpaired high low rest)
      subst empty
      constructor
      · intro accepted
        cases accepted
        exact .nil
      · intro matched
        cases bytes with
        | nil => rfl
        | cons => cases matched

/-- What is refused is the first pair that is no byte. -/
theorem firstJunk_of_refused {defect : HexDefect}
    (even : chars.length % 2 = 0) (refused : bytesOf chars = .error defect) :
    ∃ high low, FirstJunk chars high low ∧ defect = .notByte high low := by
  fun_induction bytesOf chars with
  | case1 high low rest byte read ih =>
      have fewer : rest.length % 2 = 0 := by
        simp only [List.length_cons] at even
        omega
      cases remaining : bytesOf rest with
      | ok further =>
          rw [remaining] at refused
          cases refused
      | error found =>
          rw [remaining] at refused
          cases refused
          obtain ⟨high', low', ⟨front, behind, split, whole, digits, junk⟩,
            named⟩ := ih fewer remaining
          have written := byteValue?_eq_some_iff.mp read
          refine ⟨high', low', ⟨high :: low :: front, behind, ?_, ?_, ?_,
            junk⟩, named⟩
          · rw [split]
            rfl
          · simp only [List.length_cons]
            omega
          · rw [List.forall_mem_cons, List.forall_mem_cons]
            exact ⟨isDigit_iff.mpr ⟨_, written.1⟩,
              isDigit_iff.mpr ⟨_, written.2⟩, digits⟩
  | case2 high low rest read =>
      cases refused
      exact ⟨high, low, ⟨[], rest, rfl, rfl, nofun,
        byteValue?_eq_none_iff.mp read⟩, rfl⟩
  | case3 chars unpaired => cases refused

theorem isDigit_of_matched {values : List Nibble}
    (matched : List.Forall₂ Writes values chars) :
    ∀ char ∈ chars, IsDigit char := by
  induction matched with
  | nil => exact nofun
  | cons writes _ ih =>
      exact List.forall_mem_cons.mpr ⟨isDigit_iff.mpr ⟨_, writes⟩, ih⟩

theorem FirstJunk.exists_not_isDigit (first : FirstJunk chars high low) :
    ∃ char ∈ chars, ¬ IsDigit char := by
  obtain ⟨front, rest, rfl, -, -, junk⟩ := first
  by_cases upper : IsDigit high
  · exact ⟨low, by simp, fun lower => junk ⟨upper, lower⟩⟩
  · exact ⟨high, by simp, upper⟩

/-! ## Texts -/

theorem significant_append (text other : String) :
    significant (text ++ other) = significant text ++ significant other := by
  rw [significant, String.toList_append, List.filter_append]
  rfl

/-- Without its white space, a written text is its digits. -/
theorem written_iff {values : List Nibble} :
    Written values chars ↔
      List.Forall₂ Writes values
        (chars.filter fun char => !Blank.isBlank char) := by
  constructor
  · intro written
    induction written with
    | done => exact .nil
    | blank isBlank _ ih =>
        rw [List.filter_cons_of_neg (by simp [isBlank])]
        exact ih
    | digit writes _ ih =>
        have visible := isBlank_of_isDigit (isDigit_iff.mpr ⟨_, writes⟩)
        rw [List.filter_cons_of_pos (by simp [visible])]
        exact .cons writes ih
  · intro matched
    induction chars generalizing values with
    | nil =>
        cases matched
        exact .done
    | cons char rest ih =>
        cases blank : Blank.isBlank char with
        | true =>
            rw [List.filter_cons_of_neg (by simp [blank])] at matched
            exact .blank blank (ih matched)
        | false =>
            rw [List.filter_cons_of_pos (by simp [blank])] at matched
            cases matched with
            | cons writes others => exact .digit writes (ih others)

theorem prints_iff :
    Prints bytes text ↔
      List.Forall₂ Writes (halves bytes) (significant text) :=
  written_iff

theorem parse_of_even (even : (significant text).length % 2 = 0) :
    parse text = bytesOf (significant text) :=
  if_pos even

theorem parse_of_odd (odd : (significant text).length % 2 = 1) :
    parse text = .error (.oddDigits (significant text).length) :=
  if_neg (by omega)

/-- A text is read if and only if it is a printing of what is read. -/
theorem parse_eq_ok_iff : parse text = .ok bytes ↔ Prints bytes text := by
  rw [prints_iff]
  rcases Nat.mod_two_eq_zero_or_one (significant text).length with even | odd
  · rw [parse_of_even even, bytesOf_eq_ok_iff even]
  · rw [parse_of_odd odd]
    refine ⟨nofun, fun matched => ?_⟩
    have length := matched.length_eq
    rw [length_halves] at length
    omega

theorem Prints.append (first : Prints bytes text)
    (second : Prints later other) :
    Prints (bytes ++ later) (text ++ other) := by
  rw [prints_iff] at *
  rw [halves_append, significant_append]
  exact List.rel_append first second

theorem parse_of_junk (even : (significant text).length % 2 = 0)
    (junk : ∃ char ∈ significant text, ¬ IsDigit char) :
    ∃ high low, FirstJunk (significant text) high low ∧
      parse text = .error (.notByte high low) := by
  cases result : parse text with
  | ok bytes =>
      obtain ⟨char, member, noDigit⟩ := junk
      have matched := prints_iff.mp (parse_eq_ok_iff.mp result)
      exact absurd (isDigit_of_matched matched char member) noDigit
  | error defect =>
      rw [parse_of_even even] at result
      obtain ⟨high, low, first, rfl⟩ := firstJunk_of_refused even result
      exact ⟨high, low, first, rfl⟩

theorem parse_of_digits (even : (significant text).length % 2 = 0)
    (digits : ∀ char ∈ significant text, IsDigit char) :
    ∃ bytes, parse text = .ok bytes ∧
      List.Forall₂ Writes (halves bytes) (significant text) := by
  cases result : parse text with
  | ok bytes => exact ⟨bytes, rfl, prints_iff.mp (parse_eq_ok_iff.mp result)⟩
  | error defect =>
      rw [parse_of_even even] at result
      obtain ⟨high, low, first, -⟩ := firstJunk_of_refused even result
      obtain ⟨char, member, noDigit⟩ := first.exists_not_isDigit
      exact absurd (digits char member) noDigit

/--
Of the characters of a text that are no white space, an odd number is refused
with that number, whatever they are, and else the first pair that is not made of
two digits; if there is none, the characters are the digits of the bytes that
are read.  So every printing of a byte string is read as that byte string, and
texts that are read one after another are read as one.  The refusals are worded
by the number and by the pair.
-/
theorem parse_reads_exactly (text : String) :
    let digits := significant text
    (digits.length % 2 = 1 →
      parse text = .error (.oddDigits digits.length)) ∧
    (digits.length % 2 = 0 → (∃ char ∈ digits, ¬ IsDigit char) →
      ∃ high low, FirstJunk digits high low ∧
        parse text = .error (.notByte high low)) ∧
    (digits.length % 2 = 0 → (∀ char ∈ digits, IsDigit char) →
      ∃ bytes, parse text = .ok bytes ∧
        2 * bytes.length = digits.length ∧
        List.Forall₂ Writes (halves bytes) digits) ∧
    (∀ bytes, parse text = .ok bytes ↔ Prints bytes text) ∧
    (∀ other bytes later, parse text = .ok bytes → parse other = .ok later →
      parse (text ++ other) = .ok (bytes ++ later)) ∧
    (∀ count, (HexDefect.oddDigits count).message =
      "odd number of hex digits (" ++ toString count ++ ")") ∧
    ∀ high low, (HexDefect.notByte high low).message =
      "not a hex byte: " ++ String.ofList [high, low] := by
  intro digits
  refine ⟨parse_of_odd, parse_of_junk, ?_, fun _ => parse_eq_ok_iff, ?_,
    fun _ => rfl, fun _ _ => rfl⟩
  · intro even all
    obtain ⟨bytes, read, matched⟩ := parse_of_digits even all
    refine ⟨bytes, read, ?_, matched⟩
    rw [← length_halves]
    exact matched.length_eq
  · intro other bytes later read read'
    have printed := parse_eq_ok_iff.mp read
    have printed' := parse_eq_ok_iff.mp read'
    exact parse_eq_ok_iff.mpr (printed.append printed')

/-- Two bytes, with white space also between the two digits of a byte. -/
def spacedText : String := "0\n0E\u00a0 a"

/-- It is read, and so is what is written behind it. -/
theorem spacedText_read :
    parse spacedText = .ok [0x00, 0xEA] ∧
      parse (spacedText ++ "f0") = .ok [0x00, 0xEA, 0xF0] ∧
      parse "0xg" = .error (.oddDigits 3) ∧
      ∃ high low, FirstJunk (significant "00 0x 1g") high low ∧
        parse "00 0x 1g" = .error (.notByte high low) := by
  obtain ⟨-, -, -, accepted, appended, -⟩ := parse_reads_exactly spacedText
  obtain ⟨-, -, -, accepted', -⟩ := parse_reads_exactly "f0"
  have read : parse spacedText = .ok [0x00, 0xEA] := by
    rw [accepted]
    exact .digit (by decide) <| .blank (by decide) <| .digit (by decide) <|
      .digit (by decide) <| .blank (by decide) <| .blank (by decide) <|
      .digit (by decide) .done
  have read' : parse "f0" = .ok [0xF0] := by
    rw [accepted']
    exact .digit (by decide) <| .digit (by decide) .done
  refine ⟨read, appended "f0" _ _ read read', ?_, ?_⟩
  · exact (parse_reads_exactly "0xg").1 (by decide)
  · exact (parse_reads_exactly "00 0x 1g").2.1 (by decide)
      ⟨'x', by decide, by decide⟩

end Rom.Digits

end Chip8
