import Chip8.Frame.Sprite
import Mathlib.Algebra.Ring.Parity
import Mathlib.Data.List.Count
import Mathlib.Data.List.Nodup

/-!
# Turning pixels over

To turn pixels over one after another is to turn each of them over as often as
its place occurs among the points.  So the frame that is left depends on the
places alone, whatever their order, and an even number of times leaves no trace.

The collision flag depends on the order as well.  It is told here for points
whose places are all different, where it is a question to the first frame, and
for a place that occurs twice, which never goes unnoticed: after the one turn
or after the other the pixel is lit.
-/

namespace Chip8

namespace Frame

/-- The places of some points, in their order. -/
def placesOf (points : List (Nat × Nat)) : List (Fin (64 * 32)) :=
  points.map fun point => place point.1 point.2

@[simp]
theorem placesOf_cons (x y : Nat) (points : List (Nat × Nat)) :
    placesOf ((x, y) :: points) = place x y :: placesOf points :=
  rfl

@[simp]
theorem placesOf_append (earlier later : List (Nat × Nat)) :
    placesOf (earlier ++ later) = placesOf earlier ++ placesOf later :=
  List.map_append

theorem ext_pixel {first second : Frame}
    (same : ∀ x y, first.pixel x y = second.pixel x y) : first = second := by
  cases first with | mk pixels =>
  cases second with | mk pixels' =>
  congr 1
  apply Vector.ext
  intro number inside
  have here : place (number % 64) (number / 64) = ⟨number, inside⟩ := by
    apply Fin.ext
    simp only [place]
    omega
  have agree := same (number % 64) (number / 64)
  simpa only [pixel, here, Fin.getElem_fin] using agree

theorem pixel_congr (frame : Frame) {x y x' y' : Nat}
    (same : place x y = place x' y') : frame.pixel x y = frame.pixel x' y' :=
  congrArg (fun number : Fin (64 * 32) => frame.pixels[number]) same

theorem pixel_flip (frame : Frame) (x y x' y' : Nat) :
    (frame.flip x y).pixel x' y' =
      if place x y = place x' y' then !frame.pixel x' y'
      else frame.pixel x' y' := by
  rw [flip, pixel_setPixel]
  simp only [← place_eq_iff]
  split
  · rename_i same
    rw [frame.pixel_congr same]
  · rfl

/-! ## The frame that is left -/

variable (frame : Frame) {points points' : List (Nat × Nat)} {x y : Nat}

/-- Each pixel is turned over as often as its place occurs. -/
theorem pixel_flipAll (points : List (Nat × Nat)) (x y : Nat) :
    (frame.flipAll points).1.pixel x y =
      not^[(placesOf points).count (place x y)] (frame.pixel x y) := by
  induction points generalizing frame with
  | nil => rfl
  | cons point rest ih =>
      obtain ⟨x', y'⟩ := point
      show ((frame.flip x' y').flipAll rest).1.pixel x y = _
      rw [ih, pixel_flip, placesOf_cons, List.count_cons]
      by_cases same : place x' y' = place x y
      · rw [if_pos same, if_pos (beq_iff_eq.mpr same),
          Function.iterate_succ_apply]
      · rw [if_neg same, if_neg (fun equal => same (beq_iff_eq.mp equal)),
          Nat.add_zero]

theorem iterate_not (times : Nat) (lit : Bool) :
    not^[times] lit = (lit ^^ decide (Odd times)) := by
  rcases Nat.even_or_odd times with even | odd
  · rw [Bool.involutive_not.iterate_even even,
      decide_eq_false (Nat.not_odd_iff_even.mpr even), Bool.xor_false, id]
  · rw [Bool.involutive_not.iterate_odd odd, decide_eq_true odd, Bool.xor_true]

/-- In whatever order the pixels are turned over, the same frame is left. -/
theorem flipAll_perm (reordered : points.Perm points') :
    (frame.flipAll points).1 = (frame.flipAll points').1 := by
  apply ext_pixel
  intro x y
  have counted : (placesOf points).count (place x y) =
      (placesOf points').count (place x y) :=
    (reordered.map _).count_eq _
  rw [pixel_flipAll, pixel_flipAll, counted]

/-- Only the places of the points matter, also for the flag. -/
theorem flipAll_congr (same : placesOf points = placesOf points') :
    frame.flipAll points = frame.flipAll points' := by
  induction points generalizing frame points' with
  | nil =>
      rw [List.map_eq_nil_iff.mp same.symm]
  | cons point rest ih =>
      cases points' with
      | nil => cases same
      | cons point' rest' =>
          obtain ⟨x, y⟩ := point
          obtain ⟨x', y'⟩ := point'
          rw [placesOf_cons, placesOf_cons] at same
          obtain ⟨here, later⟩ := List.cons.inj same
          have turned : frame.flip x y = frame.flip x' y' := by
            apply ext_pixel
            intro column row
            rw [pixel_flip, pixel_flip, here]
          rw [flipAll, flipAll, turned, ih _ later, frame.pixel_congr here]

theorem flipAll_append (earlier later : List (Nat × Nat)) :
    frame.flipAll (earlier ++ later) =
      (((frame.flipAll earlier).1.flipAll later).1,
        (frame.flipAll earlier).2 ||
          ((frame.flipAll earlier).1.flipAll later).2) := by
  induction earlier generalizing frame with
  | nil => rfl
  | cons point rest ih =>
      obtain ⟨x, y⟩ := point
      rw [List.cons_append, flipAll, flipAll]
      simp only [ih, Bool.or_assoc]

/-- Pixels that are turned over twice are as they were. -/
theorem flipAll_twice (points : List (Nat × Nat)) :
    (frame.flipAll (points ++ points)).1 = frame := by
  apply ext_pixel
  intro x y
  rw [pixel_flipAll, placesOf_append, List.count_append,
    Bool.involutive_not.iterate_even (Even.add_self _), id]

/-! ## The collision flag -/

/-- A lit pixel among the points is noticed. -/
theorem flipAll_collides_of_lit (lit : frame.pixel x y = true)
    (among : place x y ∈ placesOf points) :
    (frame.flipAll points).2 = true := by
  induction points generalizing frame with
  | nil => cases among
  | cons point rest ih =>
      obtain ⟨x', y'⟩ := point
      show (frame.pixel x' y' || ((frame.flip x' y').flipAll rest).2) = true
      rw [Bool.or_eq_true]
      by_cases same : place x' y' = place x y
      · exact .inl ((frame.pixel_congr same).trans lit)
      · right
        apply ih
        · rw [pixel_flip, if_neg same]
          exact lit
        · exact List.mem_of_ne_of_mem (Ne.symm same) among

/-- A place that occurs twice is noticed, whether its pixel was lit or not. -/
theorem flipAll_collides_of_twice
    (twice : 2 ≤ (placesOf points).count (place x y)) :
    (frame.flipAll points).2 = true := by
  induction points generalizing frame with
  | nil => cases twice
  | cons point rest ih =>
      obtain ⟨x', y'⟩ := point
      show (frame.pixel x' y' || ((frame.flip x' y').flipAll rest).2) = true
      rw [Bool.or_eq_true]
      rw [placesOf_cons, List.count_cons] at twice
      by_cases same : place x' y' = place x y
      · cases lit : frame.pixel x' y' with
        | true => exact .inl rfl
        | false =>
            -- The first turn lights the pixel, and the second one finds it lit.
            right
            apply flipAll_collides_of_lit (x := x) (y := y)
            · rw [pixel_flip, if_pos same, ← frame.pixel_congr same, lit]
              rfl
            · rw [if_pos (beq_iff_eq.mpr same)] at twice
              exact List.count_pos_iff.mp (Nat.le_of_succ_le_succ twice)
      · right
        apply ih
        rwa [if_neg (fun equal => same (beq_iff_eq.mp equal)),
          Nat.add_zero] at twice

/--
If no place occurs twice, the flag tells whether one of the points was lit to
begin with.
-/
theorem flipAll_collides_iff (different : (placesOf points).Nodup) :
    (frame.flipAll points).2 = true ↔
      ∃ point ∈ points, frame.pixel point.1 point.2 = true := by
  induction points generalizing frame with
  | nil => simp [flipAll]
  | cons point rest ih =>
      obtain ⟨x, y⟩ := point
      rw [placesOf_cons] at different
      obtain ⟨fresh, different⟩ := List.nodup_cons.mp different
      have kept : ∀ point ∈ rest, (frame.flip x y).pixel point.1 point.2 =
          frame.pixel point.1 point.2 := by
        intro point member
        rw [pixel_flip, if_neg]
        intro same
        apply fresh
        rw [same]
        exact List.mem_map_of_mem member
      show (frame.pixel x y || ((frame.flip x y).flipAll rest).2) = true ↔ _
      rw [Bool.or_eq_true, ih _ different, List.exists_mem_cons_iff]
      apply or_congr_right
      constructor
      · rintro ⟨point, member, lit⟩
        exact ⟨point, member, (kept point member).symm.trans lit⟩
      · rintro ⟨point, member, lit⟩
        exact ⟨point, member, (kept point member).trans lit⟩

end Frame

end Chip8
