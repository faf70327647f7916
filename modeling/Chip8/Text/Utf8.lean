/-!
# Reading UTF-8

Bytes are read into characters one at a time.  A byte either starts a
character, continues the character begun before it, or does neither.  Whatever
was begun and cannot be continued is one ill-formed sequence, and the byte that
stopped it is looked at afresh; so each ill-formed sequence is as long as
possible and no byte of a later character is lost.

`decode?` reads well-formed bytes only.  `decodeLossy` puts U+FFFD in the place
of each ill-formed sequence.
-/

namespace Chip8.Text.Utf8

/-- What a stretch of bytes stands for. -/
inductive Piece where
  /-- A character. -/
  | char (char : Char)
  /-- A sequence that no character has. -/
  | illFormed
  deriving DecidableEq

/-- A character of which some bytes have been read. -/
structure Begun where
  /-- The bits collected so far. -/
  value : Nat
  /-- How many bytes have to follow the next one. -/
  remaining : Nat
  /-- The least byte that continues the character. -/
  low : Nat
  /-- The greatest byte that continues the character. -/
  high : Nat
  deriving DecidableEq

/-- What is known after a byte that stands at the start of a character. -/
def start (byte : UInt8) : List Piece × Option Begun :=
  let value := byte.toNat
  if value < 0x80 then ([.char (Char.ofNat value)], none)
  else if value < 0xC2 then ([.illFormed], none)
  else if value < 0xE0 then ([], some ⟨value - 0xC0, 0, 0x80, 0xBF⟩)
  else if value = 0xE0 then ([], some ⟨0x0, 1, 0xA0, 0xBF⟩)
  else if value = 0xED then ([], some ⟨0xD, 1, 0x80, 0x9F⟩)
  else if value < 0xF0 then ([], some ⟨value - 0xE0, 1, 0x80, 0xBF⟩)
  else if value = 0xF0 then ([], some ⟨0x0, 2, 0x90, 0xBF⟩)
  else if value < 0xF4 then ([], some ⟨value - 0xF0, 2, 0x80, 0xBF⟩)
  else if value = 0xF4 then ([], some ⟨0x4, 2, 0x80, 0x8F⟩)
  else ([.illFormed], none)

/-- What is known after one more byte. -/
def next : Option Begun → UInt8 → List Piece × Option Begun
  | none, byte => start byte
  | some character, byte =>
      if character.low ≤ byte.toNat ∧ byte.toNat ≤ character.high then
        let value := 64 * character.value + byte.toNat % 64
        match character.remaining with
        | 0 => ([.char (Char.ofNat value)], none)
        | remaining + 1 => ([], some ⟨value, remaining, 0x80, 0xBF⟩)
      else
        (.illFormed :: (start byte).1, (start byte).2)

/-- The pieces of a byte string, given what was begun before it. -/
def pieces : Option Begun → List UInt8 → List Piece
  | none, [] => []
  | some _, [] => [.illFormed]
  | begun, byte :: rest =>
      (next begun byte).1 ++ pieces (next begun byte).2 rest

/-- The text of a well-formed byte string. -/
def decode? (bytes : List UInt8) : Option String :=
  String.fromUTF8? (ByteArray.mk bytes.toArray)

/-- The text of a byte string, with U+FFFD for each ill-formed sequence. -/
def decodeLossy (bytes : List UInt8) : String :=
  String.ofList <| (pieces none bytes).map fun
    | .char char => char
    | .illFormed => '\uFFFD'

/-- The bytes of a text. -/
def encode (text : String) : List UInt8 :=
  text.toUTF8.data.toList

theorem encode_injective {text other : String}
    (same : encode text = encode other) : text = other := by
  apply String.toByteArray_inj.mp
  apply ByteArray.ext
  exact Array.toList_inj.mp same

theorem encode_ofList (chars : List Char) :
    encode (String.ofList chars) = chars.flatMap String.utf8EncodeChar := by
  rw [encode, String.toUTF8, String.toByteArray_ofList, List.utf8Encode,
    List.toList_data_toByteArray]

/-- The bytes that are read as a text are the bytes of that text. -/
theorem decode?_eq_some_iff {bytes : List UInt8} {text : String} :
    decode? bytes = some text ↔ encode text = bytes := by
  constructor
  · intro decoded
    rw [decode?, String.fromUTF8?] at decoded
    split at decoded
    · cases decoded
      rfl
    · cases decoded
  · rintro rfl
    rw [decode?, String.fromUTF8?]
    exact dif_pos text.isValidUTF8

end Chip8.Text.Utf8
