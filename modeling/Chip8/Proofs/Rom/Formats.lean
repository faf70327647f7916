import Chip8.File.Tree
import Chip8.Proofs.File.Path
import Chip8.Proofs.Machine.Loading
import Chip8.Proofs.Rom.Digits
import Chip8.Rom

/-!
# What a file name tells of a program

A name tells a format if its extension is one of the names of that format, the
letters of ASCII taken in either case.  `Tells` says this of the text of the
extension, and an extension that is no text tells nothing.  The program is
looked up by the bytes of the extension instead; the two agree because lowering
a text lowers its bytes.

A file without a format is refused before it is looked at.  Any other file is
read first, then taken for a text if its format says so, and only then for
digits, so that each of these errors hides the later ones.
-/

namespace Chip8

/-- The extensions of files of a format, in lowercase. -/
def RomFormat.names : RomFormat → List String
  | .raw => ["ch8", "c8"]
  | .digits => ["hex"]

namespace Rom

open Text Text.Utf8

/-! ## Lowering bytes -/

theorem toNat_lowercase (byte : UInt8) :
    (lowercase byte).toNat =
      if 0x41 ≤ byte.toNat ∧ byte.toNat ≤ 0x5A then byte.toNat + 0x20
      else byte.toNat := by
  by_cases upper : 0x41 ≤ byte ∧ byte ≤ 0x5A
  · have capital : 0x41 ≤ byte.toNat ∧ byte.toNat ≤ 0x5A := upper
    rw [lowercase, if_pos upper, if_pos capital, UInt8.toNat_add]
    show (byte.toNat + 0x20) % 256 = _
    omega
  · rw [lowercase, if_neg upper]
    exact (if_neg upper).symm

theorem map_lowercase_utf8EncodeChar (char : Char) :
    (String.utf8EncodeChar char).map lowercase =
      String.utf8EncodeChar char.toLower := by
  have value := toNat_toLower char
  rcases Nat.lt_or_ge 0x7F char.toNat with beyond | ascii
  · have kept : ∀ byte ∈ String.utf8EncodeChar char,
        lowercase byte = byte := by
      intro byte member
      have high := high_of_mem_utf8EncodeChar beyond member
      apply UInt8.toNat_inj.mp
      rw [toNat_lowercase, if_neg (by omega)]
    rw [if_neg (by omega)] at value
    rw [Char.toNat_inj.mp value, List.map_congr_left kept, List.map_id']
  · have ascii' : char.toLower.toNat ≤ 0x7F := by
      split at value
      all_goals omega
    have byte_value : (UInt8.ofNat char.toNat).toNat = char.toNat := by
      rw [UInt8.toNat_ofNat']
      omega
    rw [utf8EncodeChar_of_ascii ascii, utf8EncodeChar_of_ascii ascii',
      List.map_singleton, List.singleton_inj, ← UInt8.toNat_inj,
      toNat_lowercase, byte_value, ← value, UInt8.toNat_ofNat']
    omega

/-- Lowering the bytes of a text is lowering the text. -/
theorem map_lowercase_encode (text : String) :
    (encode text).map lowercase = encode (lowered text) := by
  have spelled := encode_ofList text.toList
  rw [String.ofList_toList] at spelled
  rw [spelled, lowered, encode_ofList, List.map_flatMap, List.flatMap_map]
  simp only [map_lowercase_utf8EncodeChar]

/-- What is lowered to bytes of ASCII is a text. -/
theorem exists_encode_of_lowered {bytes : List UInt8}
    (ascii : ∀ byte ∈ bytes.map lowercase, byte.toNat ≤ 0x7F) :
    ∃ text, encode text = bytes := by
  apply exists_encode_of_ascii
  intro byte member
  have low := ascii (lowercase byte) (List.mem_map_of_mem member)
  rw [toNat_lowercase] at low
  split at low
  all_goals omega

/-! ## Formats -/

/-- The name of a file tells its format. -/
def Tells (path : Path) (format : RomFormat) : Prop :=
  ∃ extension text, path.HasExtension extension ∧ encode text = extension ∧
    lowered text ∈ format.names

/--
The name of a file tells no format: it has no extension, or one that is no
text, or one that is none of the three names.
-/
def TellsNothing (path : Path) : Prop :=
  (∀ extension, ¬ path.HasExtension extension) ∨
    (∃ extension, path.HasExtension extension ∧
      ∀ text, encode text ≠ extension) ∨
    ∃ extension text, path.HasExtension extension ∧ encode text = extension ∧
      lowered text ∉ ["ch8", "c8", "hex"]

variable {path other : Path} {format : RomFormat} {extension : FileName}

theorem formatOfExtension?_encode {text : String} :
    formatOfExtension? (encode text) = some format ↔
      lowered text ∈ format.names := by
  have same (name : String) :
      encode (lowered text) = encode name ↔ lowered text = name :=
    ⟨fun equal => encode_injective equal, congrArg encode⟩
  simp only [formatOfExtension?, map_lowercase_encode, same]
  cases format with
  | raw => grind [RomFormat.names]
  | digits => grind [RomFormat.names]

theorem exists_encode_of_format
    (known : formatOfExtension? extension = some format) :
    ∃ text, encode text = extension := by
  have ascii : ∀ name ∈ ["ch8", "c8", "hex"],
      (encode name).all fun byte => byte.toNat ≤ 0x7F := by decide
  have listed : ∃ name ∈ ["ch8", "c8", "hex"],
      extension.map lowercase = encode name := by
    simp only [formatOfExtension?] at known
    grind
  obtain ⟨name, member, same⟩ := listed
  apply exists_encode_of_lowered
  intro byte spelled
  rw [same] at spelled
  exact of_decide_eq_true (List.all_eq_true.mp (ascii name member) byte spelled)

theorem format?_eq_some_iff :
    format? path = some format ↔ Tells path format := by
  simp only [format?, Option.bind_eq_some_iff, Path.extension?_eq_some_iff,
    Tells]
  constructor
  · rintro ⟨extension, has, known⟩
    obtain ⟨text, rfl⟩ := exists_encode_of_format known
    exact ⟨_, text, has, rfl, formatOfExtension?_encode.mp known⟩
  · rintro ⟨extension, text, has, rfl, named⟩
    exact ⟨_, has, formatOfExtension?_encode.mpr named⟩

theorem format?_eq_none_iff : format? path = none ↔ TellsNothing path := by
  rw [← Option.not_isSome_iff_eq_none, Option.isSome_iff_exists]
  simp only [format?_eq_some_iff]
  constructor
  · intro nothing
    by_cases has : ∃ extension, path.HasExtension extension
    · obtain ⟨extension, has⟩ := has
      by_cases spelled : ∃ text, encode text = extension
      · obtain ⟨text, rfl⟩ := spelled
        refine .inr (.inr ⟨_, text, has, rfl, fun listed => nothing ?_⟩)
        simp only [List.mem_cons, List.not_mem_nil, or_false] at listed
        rcases listed with named | named | named
        · exact ⟨.raw, _, text, has, rfl, by simp [RomFormat.names, named]⟩
        · exact ⟨.raw, _, text, has, rfl, by simp [RomFormat.names, named]⟩
        · exact ⟨.digits, _, text, has, rfl, by simp [RomFormat.names, named]⟩
      · exact .inr (.inl ⟨extension, has, not_exists.mp spelled⟩)
    · exact .inl (not_exists.mp has)
  · rintro nothing ⟨format, extension, text, has, spelled, named⟩
    rcases nothing with without | ⟨_, has', unread⟩ | ⟨_, _, has', rfl, other⟩
    · exact without extension has
    · cases has.unique has'
      exact unread text spelled
    · cases has.unique has'
      cases encode_injective spelled
      apply other
      cases format with
      | raw => exact List.mem_append_left ["hex"] named
      | digits => exact List.mem_append_right ["ch8", "c8"] named

/-! ## Files -/

variable {read : FileSystem}

theorem load_of_tells (tells : Tells path format) :
    load read path =
      ((read path).mapError .io).bind (program format) := by
  rw [load, format?_eq_some_iff.mpr tells]
  cases read path <;> rfl

theorem load_of_tellsNothing (nothing : TellsNothing path) :
    load read path = .error (.unsupportedFormat path.text) := by
  rw [load, format?_eq_none_iff.mpr nothing]

theorem program_digits_encode (text : String) :
    program .digits (encode text) =
      (Digits.parse text).mapError .invalidHex := by
  rw [program, decode?_eq_some_iff.mpr rfl]

theorem program_digits_of_unread {contents : List UInt8}
    (unread : ∀ text, encode text ≠ contents) :
    program .digits contents = .error (.io .notText) := by
  cases decoded : decode? contents with
  | none => rw [program, decoded]
  | some text => exact absurd (decode?_eq_some_iff.mp decoded) (unread text)

theorem program_ne_unsupported (format : RomFormat) (contents : List UInt8)
    (shown : String) :
    program format contents ≠ .error (.unsupportedFormat shown) := by
  cases format with
  | raw => exact nofun
  | digits =>
      rw [program]
      cases decode? contents with
      | none => exact nofun
      | some text =>
          show (Digits.parse text).mapError Error.invalidHex ≠ _
          cases Digits.parse text <;> exact nofun

/-- Only a file without a format is refused for its format. -/
theorem load_eq_unsupported_iff {shown : String} :
    load read path = .error (.unsupportedFormat shown) ↔
      TellsNothing path ∧ shown = path.text := by
  constructor
  · intro refused
    cases known : format? path with
    | none =>
        rw [load, known] at refused
        cases refused
        exact ⟨format?_eq_none_iff.mp known, rfl⟩
    | some format =>
        rw [load_of_tells (format?_eq_some_iff.mp known)] at refused
        cases contents : read path with
        | error error =>
            rw [contents] at refused
            cases refused
        | ok contents' =>
            rw [contents] at refused
            exact absurd refused (program_ne_unsupported format contents' shown)
  · rintro ⟨nothing, rfl⟩
    exact load_of_tellsNothing nothing

/--
Whatever there is at a path, it is refused for its format exactly if its name
tells none.  A file named `ch8` or `c8` holds the bytes of a program; one named
`hex` has to be read, to be a text and to be a printing, in this order.  A
printing of a program in the one file and the program in the other are the same
program, and machines built from the two are the same but for their random
bytes, or neither is built.
-/
theorem load_follows_name (read : FileSystem) (path : Path) :
    (∀ shown, load read path = .error (.unsupportedFormat shown) ↔
      TellsNothing path ∧ shown = path.text) ∧
    (Tells path .raw → load read path = (read path).mapError .io) ∧
    (Tells path .digits →
      (∀ error, read path = .error error →
        load read path = .error (.io error)) ∧
      (∀ contents, read path = .ok contents →
        (∀ text, encode text ≠ contents) →
          load read path = .error (.io .notText)) ∧
      ∀ text, read path = .ok (encode text) →
        load read path = (Digits.parse text).mapError .invalidHex) ∧
    ∀ other bytes text, Tells path .digits → Tells other .raw →
      Digits.Prints bytes text → read path = .ok (encode text) →
        read other = .ok bytes →
          load read path = .ok bytes ∧ load read other = .ok bytes ∧
          ∀ random random',
            ((load read path).bind (Machine.withProgram random')).map
                (Machine.withRandom random) =
              (load read other).bind (Machine.withProgram random) := by
  refine ⟨fun _ => load_eq_unsupported_iff, ?_, ?_, ?_⟩
  · intro raw
    rw [load_of_tells raw]
    cases read path <;> rfl
  · intro digits
    rw [load_of_tells digits]
    refine ⟨?_, ?_, ?_⟩
    · intro error failed
      rw [failed]
      rfl
    · intro contents held unread
      rw [held]
      exact program_digits_of_unread unread
    · intro text held
      rw [held]
      exact program_digits_encode text
  · intro other bytes text digits raw prints held held'
    have first : load read path = .ok bytes := by
      rw [load_of_tells digits, held]
      show program .digits (encode text) = .ok bytes
      rw [program_digits_encode, Digits.parse_eq_ok_iff.mpr prints]
      rfl
    have second : load read other = .ok bytes := by
      rw [load_of_tells raw, held']
      rfl
    refine ⟨first, second, ?_⟩
    intro random random'
    rw [first, second]
    exact Machine.withProgram_withRandom random random' bytes

/-- A file that holds a printing of two bytes, and one that holds the bytes. -/
def bothFormats : FileTree :=
  ⟨[([encode "a.b.HEX"], .file (encode "1 2\n00")),
    ([encode "a.C8"], .file [0x12, 0x00])]⟩

/-- They are the same program, and other paths are refused each in its way. -/
theorem bothFormats_load :
    let printed : Path := .ofString ".//a.b.HEX"
    let plain : Path := .ofString "a.C8"
    load bothFormats.read printed = .ok [0x12, 0x00] ∧
      load bothFormats.read plain = .ok [0x12, 0x00] ∧
      load bothFormats.read (.ofString "b.ch8") = .error (.io .notFound) ∧
      load bothFormats.read (.ofString "a/.hex") =
        .error (.unsupportedFormat "a/.hex") := by
  intro printed plain
  have digits : Tells printed .digits :=
    format?_eq_some_iff.mp (by decide)
  have raw : Tells plain .raw := format?_eq_some_iff.mp (by decide)
  have missing : Tells (.ofString "b.ch8") .raw :=
    format?_eq_some_iff.mp (by decide)
  have nothing : TellsNothing (.ofString "a/.hex") :=
    format?_eq_none_iff.mp (by decide)
  have prints : Digits.Prints [0x12, 0x00] "1 2\n00" :=
    Digits.parse_eq_ok_iff.mp (by decide)
  obtain ⟨same, same', -⟩ :=
    (load_follows_name bothFormats.read printed).2.2.2 plain _ _ digits raw
      prints (by decide) (by decide)
  refine ⟨same, same', ?_, ?_⟩
  · rw [(load_follows_name bothFormats.read _).2.1 missing]
    decide
  · rw [(load_follows_name bothFormats.read _).1]
    exact ⟨nothing, by decide⟩

end Rom

end Chip8
