import Chip8.Proofs.Frame.Flips
import Mathlib.Data.List.GetD

/-!
# Sprites on the screen

The points of a sprite stand under the set bits of its rows.  As long as the
sprite has no more rows than the screen, no two of them have the same place, so
each pixel of the screen is turned over once or not at all: it is turned over if
the sprite covers it, and the collision flag tells whether a pixel went dark.
-/

namespace Chip8

namespace Frame

variable {x y x' y' : Nat} {sprite : List UInt8} {point : Nat × Nat}

theorem mem_rowPoints {row : UInt8} :
    point ∈ rowPoints x y row ↔
      ∃ column < 8, spriteBit row column = true ∧ point = (x + column, y) := by
  rw [rowPoints, List.mem_map]
  constructor
  · rintro ⟨column, member, rfl⟩
    obtain ⟨inside, bit⟩ := List.mem_filter.mp member
    exact ⟨column, List.mem_range.mp inside, bit, rfl⟩
  · rintro ⟨column, inside, bit, rfl⟩
    exact ⟨column, List.mem_filter.mpr ⟨List.mem_range.mpr inside, bit⟩, rfl⟩

/-- The points of a sprite stand under the set bits of its rows. -/
theorem mem_spritePoints :
    point ∈ spritePoints x y sprite ↔
      ∃ row < sprite.length, ∃ column < 8,
        spriteBit (sprite.getD row 0) column = true ∧
          point = (x + column, y + row) := by
  induction sprite generalizing y with
  | nil => simp [spritePoints]
  | cons byte rest ih =>
      rw [spritePoints, List.mem_append, mem_rowPoints, ih]
      constructor
      · rintro (⟨column, inside, bit, rfl⟩ |
          ⟨row, below, column, inside, bit, rfl⟩)
        · exact ⟨0, Nat.succ_pos _, column, inside, bit, rfl⟩
        · refine ⟨row + 1, Nat.succ_lt_succ below, column, inside, bit, ?_⟩
          rw [Nat.add_right_comm, Nat.add_assoc]
      · rintro ⟨row, below, column, inside, bit, rfl⟩
        cases row with
        | zero => exact .inl ⟨column, inside, bit, rfl⟩
        | succ row =>
            refine .inr ⟨row, Nat.lt_of_succ_lt_succ below, column, inside,
              bit, ?_⟩
            rw [Nat.add_right_comm, Nat.add_assoc]

theorem placesOf_rowPoints (x y : Nat) (row : UInt8) :
    placesOf (rowPoints x y row) =
      ((List.range 8).filter (spriteBit row)).map fun column =>
        place (x + column) y :=
  List.map_map

/-- A corner that is moved once around the screen has the same places. -/
theorem placesOf_spritePoints_congr (columns : x % 64 = x' % 64)
    (rows : y % 32 = y' % 32) (sprite : List UInt8) :
    placesOf (spritePoints x y sprite) =
      placesOf (spritePoints x' y' sprite) := by
  induction sprite generalizing y y' with
  | nil => rfl
  | cons byte rest ih =>
      have first :
          placesOf (rowPoints x y byte) = placesOf (rowPoints x' y' byte) := by
        rw [placesOf_rowPoints, placesOf_rowPoints]
        apply List.map_congr_left
        intro column _
        apply (place_eq_iff _ _ _ _).mpr
        exact ⟨by omega, rows⟩
      have later := ih (show (y + 1) % 32 = (y' + 1) % 32 by omega)
      rw [spritePoints, spritePoints, placesOf_append, placesOf_append, first,
        later]

theorem exists_spriteBit_iff {row : UInt8} :
    (∃ column < 8, spriteBit row column = true) ↔ row ≠ 0 := by
  constructor
  · rintro ⟨column, -, bit⟩ rfl
    rw [spriteBit, UInt8.toNat_zero, Nat.zero_testBit] at bit
    cases bit
  · intro nonzero
    have value : row.toNat ≠ 0 :=
      fun zero => nonzero (UInt8.toNat.inj zero)
    obtain ⟨place, bit⟩ := Nat.exists_testBit_of_ne_zero value
    have low : place < 8 := by
      by_contra high
      have small : row.toNat < 2 ^ place :=
        Nat.lt_of_lt_of_le row.toNat_lt
          (Nat.pow_le_pow_right Nat.two_pos (Nat.le_of_not_lt high))
      rw [Nat.testBit_lt_two_pow small] at bit
      cases bit
    refine ⟨7 - place, by omega, ?_⟩
    rw [spriteBit, Nat.sub_sub_self (Nat.le_of_lt_succ low)]
    exact bit

theorem exists_mem_spritePoints_iff :
    (∃ point, point ∈ spritePoints x y sprite) ↔ ∃ byte ∈ sprite, byte ≠ 0 := by
  simp only [mem_spritePoints]
  constructor
  · rintro ⟨point, row, below, column, inside, bit, -⟩
    rw [List.getD_eq_getElem sprite 0 below] at bit
    exact ⟨sprite[row], List.getElem_mem below,
      exists_spriteBit_iff.mp ⟨column, inside, bit⟩⟩
  · rintro ⟨byte, member, nonzero⟩
    obtain ⟨row, below, rfl⟩ := List.getElem_of_mem member
    obtain ⟨column, inside, bit⟩ := exists_spriteBit_iff.mpr nonzero
    rw [← List.getD_eq_getElem sprite 0 below] at bit
    exact ⟨_, row, below, column, inside, bit, rfl⟩

/-! ## Sprites that fit on the screen -/

theorem nodup_placesOf_rowPoints (x y : Nat) (row : UInt8) :
    (placesOf (rowPoints x y row)).Nodup := by
  rw [placesOf_rowPoints]
  apply List.Nodup.map_on ?_ (List.nodup_range.filter _)
  intro column member column' member' same
  have inside := List.mem_range.mp (List.mem_filter.mp member).1
  have inside' := List.mem_range.mp (List.mem_filter.mp member').1
  obtain ⟨columns, -⟩ := (place_eq_iff _ _ _ _).mp same
  omega

/-- The points of a sprite that fits on the screen have different places. -/
theorem nodup_placesOf_spritePoints (x y : Nat)
    (fits : sprite.length ≤ height) :
    (placesOf (spritePoints x y sprite)).Nodup := by
  induction sprite generalizing y with
  | nil => exact List.nodup_nil
  | cons byte rest ih =>
      have fewer : rest.length < 32 := fits
      rw [spritePoints, placesOf_append]
      refine (nodup_placesOf_rowPoints x y byte).append
        (ih (y + 1) (Nat.le_of_lt fewer)) ?_
      intro here first later
      obtain ⟨point, member, rfl⟩ := List.mem_map.mp first
      obtain ⟨point', member', same⟩ := List.mem_map.mp later
      obtain ⟨column, -, -, rfl⟩ := mem_rowPoints.mp member
      obtain ⟨row, below, column', -, -, rfl⟩ := mem_spritePoints.mp member'
      obtain ⟨-, rows⟩ := (place_eq_iff _ _ _ _).mp same
      omega

/--
Whether a sprite, its upper left corner at `(x0, y0)`, has a set bit over the
pixel `(x, y)` of the screen.
-/
def Covers (sprite : List UInt8) (x0 y0 x y : Nat) : Prop :=
  ∃ row < sprite.length, ∃ column < 8,
    (x0 + column) % 64 = x ∧ (y0 + row) % 32 = y ∧
      (sprite.getD row 0).toNat.testBit (7 - column) = true

instance (sprite : List UInt8) (x0 y0 x y : Nat) :
    Decidable (Covers sprite x0 y0 x y) :=
  inferInstanceAs (Decidable (∃ row < sprite.length, ∃ column < 8, _))

theorem covers_iff {x0 y0 : Nat} (onScreen : x < 64) (onScreen' : y < 32) :
    Covers sprite x0 y0 x y ↔
      place x y ∈ placesOf (spritePoints x0 y0 sprite) := by
  rw [placesOf, List.mem_map]
  constructor
  · rintro ⟨row, below, column, inside, columns, rows, bit⟩
    refine ⟨_, mem_spritePoints.mpr ⟨row, below, column, inside, bit, rfl⟩, ?_⟩
    apply (place_eq_iff _ _ _ _).mpr
    rw [columns, rows, Nat.mod_eq_of_lt onScreen, Nat.mod_eq_of_lt onScreen']
    exact ⟨rfl, rfl⟩
  · rintro ⟨point, member, same⟩
    obtain ⟨row, below, column, inside, bit, rfl⟩ := mem_spritePoints.mp member
    obtain ⟨columns, rows⟩ := (place_eq_iff _ _ _ _).mp same
    rw [Nat.mod_eq_of_lt onScreen] at columns
    rw [Nat.mod_eq_of_lt onScreen'] at rows
    exact ⟨row, below, column, inside, columns, rows, bit⟩

/-! ## Sprites of any height -/

/--
How many rows of a sprite, its upper left corner at `(x0, y0)`, have a set bit
over the pixel `(x, y)` of the screen.
-/
def coverings (sprite : List UInt8) (x0 y0 x y : Nat) : Nat :=
  (List.range sprite.length).countP fun row =>
    decide (Covers [sprite.getD row 0] x0 (y0 + row) x y)

theorem coverings_cons (byte : UInt8) (x0 y0 x y : Nat) :
    coverings (byte :: sprite) x0 y0 x y =
      coverings sprite x0 (y0 + 1) x y +
        if Covers [byte] x0 y0 x y then 1 else 0 := by
  have later : ∀ row, y0 + 1 + row = y0 + (row + 1) := fun row => by omega
  rw [coverings, List.length_cons, List.range_succ_eq_map, List.countP_cons,
    List.countP_map, coverings]
  simp only [later, decide_eq_true_eq, Nat.add_zero, List.getD_cons_zero]
  rfl

theorem count_placesOf_rowPoints (byte : UInt8) {x0 y0 : Nat}
    (onScreen : x < 64) (onScreen' : y < 32) :
    (placesOf (rowPoints x0 y0 byte)).count (place x y) =
      if Covers [byte] x0 y0 x y then 1 else 0 := by
  have alone : spritePoints x0 y0 [byte] = rowPoints x0 y0 byte :=
    List.append_nil _
  simp only [(nodup_placesOf_rowPoints x0 y0 byte).count,
    covers_iff onScreen onScreen', alone]

/-- A pixel is met once for each row that has a set bit over it. -/
theorem count_placesOf_spritePoints (sprite : List UInt8) {x0 y0 : Nat}
    (onScreen : x < 64) (onScreen' : y < 32) :
    (placesOf (spritePoints x0 y0 sprite)).count (place x y) =
      coverings sprite x0 y0 x y := by
  induction sprite generalizing y0 with
  | nil => rfl
  | cons byte rest ih =>
      rw [spritePoints, placesOf_append, List.count_append,
        count_placesOf_rowPoints byte onScreen onScreen', ih, coverings_cons,
        Nat.add_comm]

/-! ## Drawing -/

section Drawing

variable (frame : Frame) (x0 y0 : UInt8)

theorem pixel_drawSprite (fits : sprite.length ≤ height) (onScreen : x < 64)
    (onScreen' : y < 32) :
    (frame.drawSprite x0 y0 sprite).1.pixel x y =
      (frame.pixel x y ^^
        decide (Covers sprite x0.toNat y0.toNat x y)) := by
  have different :=
    nodup_placesOf_spritePoints x0.toNat y0.toNat fits
  rw [drawSprite, pixel_flipAll, different.count]
  by_cases covered : Covers sprite x0.toNat y0.toNat x y
  · rw [if_pos ((covers_iff onScreen onScreen').mp covered),
      decide_eq_true covered, Bool.xor_true, Function.iterate_one]
  · rw [if_neg (fun among => covered
        ((covers_iff onScreen onScreen').mpr among)),
      decide_eq_false covered, Bool.xor_false, Function.iterate_zero, id]

/-- The flag tells whether the sprite covers a pixel that was lit. -/
theorem collides_drawSprite_iff (fits : sprite.length ≤ height) :
    (frame.drawSprite x0 y0 sprite).2 = true ↔
      ∃ x < 64, ∃ y < 32, frame.pixel x y = true ∧
        Covers sprite x0.toNat y0.toNat x y := by
  have different :=
    nodup_placesOf_spritePoints x0.toNat y0.toNat fits
  rw [drawSprite, flipAll_collides_iff frame different]
  constructor
  · rintro ⟨⟨x, y⟩, member, lit⟩
    -- A point may lie beyond the screen; its pixel is the one around it.
    have here : place (x % 64) (y % 32) = place x y :=
      (place_eq_iff _ _ _ _).mpr ⟨Nat.mod_mod _ _, Nat.mod_mod _ _⟩
    have columns := Nat.mod_lt x (show 0 < 64 by decide)
    have rows := Nat.mod_lt y (show 0 < 32 by decide)
    refine ⟨x % 64, columns, y % 32, rows,
      (frame.pixel_congr here).trans lit, ?_⟩
    rw [covers_iff columns rows, here]
    exact List.mem_map_of_mem member
  · rintro ⟨x, onScreen, y, onScreen', lit, covered⟩
    obtain ⟨point, member, same⟩ :=
      List.mem_map.mp ((covers_iff onScreen onScreen').mp covered)
    exact ⟨point, member, (frame.pixel_congr same).trans lit⟩

end Drawing

/-- What drawing a sprite has made of a frame, and what it tells. -/
structure DrawnExactly (before after : Frame) (collision : Bool)
    (x0 y0 : Nat) (sprite : List UInt8) : Prop where
  /-- The pixels under the set bits are turned over, and no others. -/
  pixel_eq : ∀ x < 64, ∀ y < 32, after.pixel x y =
    (before.pixel x y ^^ decide (Covers sprite x0 y0 x y))
  /-- A collision is a pixel that went dark. -/
  collision_iff : collision = true ↔
    ∃ x < 64, ∃ y < 32,
      before.pixel x y = true ∧ after.pixel x y = false

/-- A sprite that has no more rows than the screen is drawn exactly. -/
theorem drawnExactly (frame : Frame) (x0 y0 : UInt8)
    (fits : sprite.length ≤ height) :
    DrawnExactly frame (frame.drawSprite x0 y0 sprite).1
      (frame.drawSprite x0 y0 sprite).2 x0.toNat y0.toNat sprite where
  pixel_eq x onScreen y onScreen' :=
    frame.pixel_drawSprite x0 y0 fits onScreen onScreen'
  collision_iff := by
    rw [frame.collides_drawSprite_iff x0 y0 fits]
    constructor
    · rintro ⟨x, onScreen, y, onScreen', lit, covered⟩
      refine ⟨x, onScreen, y, onScreen', lit, ?_⟩
      rw [frame.pixel_drawSprite x0 y0 fits onScreen onScreen', lit,
        decide_eq_true covered]
      rfl
    · rintro ⟨x, onScreen, y, onScreen', lit, dark⟩
      refine ⟨x, onScreen, y, onScreen', lit, ?_⟩
      by_contra uncovered
      rw [frame.pixel_drawSprite x0 y0 fits onScreen onScreen', lit,
        decide_eq_false uncovered] at dark
      cases dark

/-! ## Drawing on a dark frame -/

theorem pixel_of_isDark {frame : Frame} (dark : frame.isDark = true)
    (x y : Nat) : frame.pixel x y = false := by
  rw [isDark, Vector.all_eq_true] at dark
  have out := dark (place x y).val (place x y).isLt
  rw [Bool.not_eq_true'] at out
  exact out

/-- On a dark frame the sprite is all that is lit, and nothing collides. -/
theorem DrawnExactly.of_isDark {before after : Frame} {collision : Bool}
    {x0 y0 : Nat}
    (drawn : DrawnExactly before after collision x0 y0 sprite)
    (dark : before.isDark = true) :
    (∀ x < 64, ∀ y < 32,
        after.pixel x y = decide (Covers sprite x0 y0 x y)) ∧
      collision = false := by
  constructor
  · intro x onScreen y onScreen'
    rw [drawn.pixel_eq x onScreen y onScreen', pixel_of_isDark dark,
      Bool.false_xor]
  · rw [Bool.eq_false_iff, ne_eq, drawn.collision_iff]
    rintro ⟨x, -, y, -, lit, -⟩
    rw [pixel_of_isDark dark] at lit
    cases lit

end Frame

end Chip8
