import Chip8.Proofs.Frame.Sprites

/-!
# Drawings

A drawing is a sprite with the place of its upper left corner.  To make a
drawing is to turn over the points under its set bits, so what holds of points
holds of drawings, of whatever height their sprites are: their order is of no
account for the frame that is left, a corner may be moved once around the
screen, and a drawing that is made twice in a row is erased.  A drawing with a
set bit never appears and disappears again without a collision.
-/

namespace Chip8

/-- A sprite and the place of its upper left corner. -/
structure Drawing where
  x : UInt8
  y : UInt8
  sprite : List UInt8
  deriving DecidableEq

namespace Drawing

def points (drawing : Drawing) : List (Nat × Nat) :=
  Frame.spritePoints drawing.x.toNat drawing.y.toNat drawing.sprite

/-- How many of its rows have a set bit over a pixel of the screen. -/
def coverings (drawing : Drawing) (x y : Nat) : Nat :=
  Frame.coverings drawing.sprite drawing.x.toNat drawing.y.toNat x y

/-- The same sprite, its corner moved around the screen if at all. -/
structure Matches (first second : Drawing) : Prop where
  columns : first.x.toNat % 64 = second.x.toNat % 64
  rows : first.y.toNat % 32 = second.y.toNat % 32
  sprites : first.sprite = second.sprite

/-- Whether some bit of the sprite is set. -/
def IsVisible (drawing : Drawing) : Prop :=
  ∃ byte ∈ drawing.sprite, byte ≠ 0

end Drawing

namespace Frame

variable (frame : Frame) {drawing drawing' : Drawing}
  {drawings drawings' : List Drawing}

/-- Make drawings one after another; each of them tells its collision. -/
def drawAll (frame : Frame) : List Drawing → Frame × List Bool
  | [] => (frame, [])
  | drawing :: rest =>
      let drawn := frame.drawSprite drawing.x drawing.y drawing.sprite
      let later := drawn.1.drawAll rest
      (later.1, drawn.2 :: later.2)

theorem drawAll_frame (drawings : List Drawing) :
    (frame.drawAll drawings).1 =
      (frame.flipAll (drawings.flatMap Drawing.points)).1 := by
  induction drawings generalizing frame with
  | nil => rfl
  | cons drawing rest ih =>
      rw [drawAll, ih, List.flatMap_cons, flipAll_append]
      rfl

/-- A pixel is turned over once for each row that has a set bit over it. -/
theorem pixel_drawAll {x y : Nat} (onScreen : x < 64) (onScreen' : y < 32)
    (drawings : List Drawing) :
    (frame.drawAll drawings).1.pixel x y =
      (frame.pixel x y ^^ decide
        (Odd (drawings.map fun drawing => drawing.coverings x y).sum)) := by
  have counted : (placesOf (drawings.flatMap Drawing.points)).count
      (place x y) =
        (drawings.map fun drawing => drawing.coverings x y).sum := by
    rw [placesOf, List.map_flatMap, List.count_flatMap]
    congr 1
    apply List.map_congr_left
    intro drawing _
    exact count_placesOf_spritePoints drawing.sprite onScreen onScreen'
  rw [drawAll_frame, pixel_flipAll, counted, iterate_not]

theorem drawSprite_congr (same : drawing.Matches drawing') :
    frame.drawSprite drawing.x drawing.y drawing.sprite =
      frame.drawSprite drawing'.x drawing'.y drawing'.sprite := by
  apply frame.flipAll_congr
  rw [same.sprites]
  exact placesOf_spritePoints_congr same.columns same.rows _

/-- In whatever order drawings are made, the same frame is left. -/
theorem drawAll_perm (reordered : drawings.Perm drawings') :
    (frame.drawAll drawings).1 = (frame.drawAll drawings').1 := by
  rw [drawAll_frame, drawAll_frame]
  exact frame.flipAll_perm (reordered.flatMap_right Drawing.points)

theorem drawAll_congr (same : List.Forall₂ Drawing.Matches drawings drawings') :
    frame.drawAll drawings = frame.drawAll drawings' := by
  induction same generalizing frame with
  | nil => rfl
  | cons here _ ih =>
      rw [drawAll, drawAll, frame.drawSprite_congr here, ih]

theorem drawAll_erased (drawing : Drawing) :
    (frame.drawAll [drawing, drawing]).1 = frame := by
  rw [drawAll_frame]
  show (frame.flipAll (drawing.points ++ (drawing.points ++ []))).1 = frame
  rw [List.append_nil]
  exact frame.flipAll_twice drawing.points

/-- Unless no bit is set, one of two equal drawings collides. -/
theorem drawAll_collides_iff (drawing : Drawing) :
    true ∈ (frame.drawAll [drawing, drawing]).2 ↔ drawing.IsVisible := by
  have both : true ∈ (frame.drawAll [drawing, drawing]).2 ↔
      (frame.flipAll (drawing.points ++ drawing.points)).2 = true := by
    rw [flipAll_append, Bool.or_eq_true]
    show true ∈ [(frame.flipAll drawing.points).2,
      ((frame.flipAll drawing.points).1.flipAll drawing.points).2] ↔ _
    rw [List.mem_pair, eq_comm, @eq_comm _ true]
  have visible : (∃ point, point ∈ drawing.points) ↔ drawing.IsVisible :=
    exists_mem_spritePoints_iff
  rw [both, ← visible]
  constructor
  · intro collides
    cases drawn : drawing.points with
    | nil =>
        rw [drawn] at collides
        cases collides
    | cons point rest =>
        exact ⟨point, List.mem_cons_self⟩
  · rintro ⟨point, member⟩
    have among : 0 < (placesOf drawing.points).count (place point.1 point.2) :=
      List.count_pos_iff.mpr (List.mem_map_of_mem member)
    apply flipAll_collides_of_twice (x := point.1) (y := point.2)
    rw [placesOf_append, List.count_append]
    exact Nat.add_le_add among among

/--
Drawings turn pixels over, commute, wrap around the screen, and erase
themselves: the pixels that change are those that an odd number of rows covers,
those of one drawing included; a reordered list of drawings leaves the same
frame; drawings with their corners moved around the screen leave the same frame
and tell the same collisions; and a drawing that is made twice in a row leaves
no trace, but one of the two collides, unless no bit of its sprite is set.
-/
theorem drawings_commute_wrap_and_erase (frame : Frame) :
    (∀ drawings : List Drawing, ∀ x < 64, ∀ y < 32,
      (frame.drawAll drawings).1.pixel x y =
        (frame.pixel x y ^^ decide
          (Odd (drawings.map fun drawing => drawing.coverings x y).sum))) ∧
    (∀ drawings drawings' : List Drawing, drawings.Perm drawings' →
      (frame.drawAll drawings).1 = (frame.drawAll drawings').1) ∧
    (∀ drawings drawings' : List Drawing,
      List.Forall₂ Drawing.Matches drawings drawings' →
        frame.drawAll drawings = frame.drawAll drawings') ∧
    (∀ drawing : Drawing,
      (frame.drawAll [drawing, drawing]).1 = frame ∧
        (true ∈ (frame.drawAll [drawing, drawing]).2 ↔ drawing.IsVisible)) := by
  refine ⟨?_, ?_, ?_, ?_⟩
  · intro drawings x onScreen y onScreen'
    exact frame.pixel_drawAll onScreen onScreen' drawings
  · intro drawings drawings' reordered
    exact frame.drawAll_perm reordered
  · intro drawings drawings' same
    exact frame.drawAll_congr same
  · intro drawing
    exact ⟨frame.drawAll_erased drawing, frame.drawAll_collides_iff drawing⟩

/-- A column of more pixels than the screen has rows, near an edge. -/
def tallDrawing : Drawing :=
  ⟨60, 30, List.replicate 33 0x81⟩

/-- The same column with its corner moved, and a dot inside of it. -/
def movedDrawing : Drawing :=
  ⟨188, 254, List.replicate 33 0x81⟩

def dotDrawing : Drawing :=
  ⟨60, 31, [0x80]⟩

/--
The last row of the column is drawn over its first one.  The dot is drawn before
the column or after it.
-/
theorem tallDrawing_commutes_wraps_and_erases :
    (dark.drawAll [tallDrawing]).1.pixel 60 30 = false ∧
      (dark.drawAll [tallDrawing]).1.pixel 60 31 = true ∧
      (dark.drawAll [tallDrawing, dotDrawing]).1 =
        (dark.drawAll [dotDrawing, tallDrawing]).1 ∧
      dark.drawAll [tallDrawing, dotDrawing] =
        dark.drawAll [movedDrawing, dotDrawing] ∧
      (dark.drawAll [tallDrawing, tallDrawing]).1 = dark ∧
      true ∈ (dark.drawAll [tallDrawing, tallDrawing]).2 := by
  obtain ⟨turn, commute, wrap, erase⟩ := drawings_commute_wrap_and_erase dark
  have moved : List.Forall₂ Drawing.Matches [tallDrawing, dotDrawing]
      [movedDrawing, dotDrawing] :=
    .cons ⟨rfl, rfl, rfl⟩ (.cons ⟨rfl, rfl, rfl⟩ .nil)
  have twice : ([tallDrawing].map fun drawing =>
      drawing.coverings 60 30).sum = 2 := by decide
  have once : ([tallDrawing].map fun drawing =>
      drawing.coverings 60 31).sum = 1 := by decide
  refine ⟨?_, ?_, commute _ _ (.swap _ _ _), wrap _ _ moved,
    (erase tallDrawing).1, ?_⟩
  · rw [turn _ 60 (by decide) 30 (by decide), twice, pixel_dark]
    decide
  · rw [turn _ 60 (by decide) 31 (by decide), once, pixel_dark]
    decide
  exact (erase tallDrawing).2.mpr ⟨0x81, by decide, by decide⟩

end Frame

end Chip8
