import Chip8.Device.Display
import Chip8.Proofs.Frame.Flips
import Mathlib.Data.List.Induction

/-!
# The ways to look at a frame

A frame is one row of cells behind another.  It can be asked for single pixels,
for the list of its lit pixels and for their number, it can be written out as
text, and its points are drawn on a canvas.  All of these show the same pixels:
what was set last at each place since the frame was last cleared.

The cells are counted through in the order of `coordinates`, and this ties the
numbers of cells to columns and rows once for all views.  The lit pixels are
listed in that order because it is the order of the coordinates themselves.
-/

namespace Chip8

namespace Frame

/-- A change of a frame. -/
inductive Change where
  /-- A pixel is lit or put out. -/
  | set (x y : Nat) (lit : Bool)
  /-- All pixels are put out. -/
  | clear
  deriving DecidableEq

namespace Change

/-- The frame after a change. -/
def apply (frame : Frame) : Change → Frame
  | .set x y lit => frame.setPixel x y lit
  | .clear => .dark

/-- Whether the change is about a single pixel. -/
def isSetting : Change → Bool
  | .set _ _ _ => true
  | .clear => false

/-- What the change makes of a pixel, if it is about that pixel alone. -/
def setting? (x y : Nat) : Change → Option Bool
  | .set x' y' lit =>
      if x' % 64 = x % 64 ∧ y' % 32 = y % 32 then some lit else none
  | .clear => none

end Change

/-- The frame after some changes, the first of them first. -/
def after (frame : Frame) (changes : List Change) : Frame :=
  changes.foldl Change.apply frame

/--
What the latest setting of a pixel since the frame was last cleared made of it;
dark if there was none.
-/
def latest (changes : List Change) (x y : Nat) : Bool :=
  ((changes.reverse.takeWhile Change.isSetting).findSome?
    (Change.setting? x y)).getD false

theorem pixel_after (changes : List Change) (x y : Nat) :
    (dark.after changes).pixel x y = latest changes x y := by
  induction changes using List.reverseRecOn with
  | nil => exact pixel_dark x y
  | append_singleton earlier change ih =>
      rw [after, List.foldl_concat]
      rw [after] at ih
      cases change with
      | clear =>
          rw [Change.apply, pixel_dark, latest, List.reverse_concat]
          rfl
      | set x' y' lit =>
          rw [Change.apply, pixel_setPixel, ih, latest, latest,
            List.reverse_concat, List.takeWhile_cons_of_pos rfl,
            List.findSome?_cons, Change.setting?]
          split <;> rfl

/-! ## Cells and coordinates -/

/-- Counting through the cells of a grid goes through its coordinates. -/
theorem flatMap_range_eq (columns rows : Nat) (some_column : 0 < columns) :
    ((List.range rows).flatMap fun y =>
        (List.range columns).map fun x => (x, y)) =
      (List.range (columns * rows)).map fun cell =>
        (cell % columns, cell / columns) := by
  induction rows with
  | zero => rfl
  | succ rows ih =>
      rw [List.range_succ, List.flatMap_append, ih, Nat.mul_succ,
        List.range_add, List.map_append, List.map_map, List.flatMap_singleton]
      congr 1
      apply List.map_congr_left
      intro column member
      have inside := List.mem_range.mp member
      show (column, rows) = _
      rw [Function.comp, Nat.mul_add_mod, Nat.mod_eq_of_lt inside,
        Nat.mul_add_div some_column, Nat.div_eq_of_lt inside, Nat.add_zero]

theorem coordinates_eq :
    coordinates =
      (List.range (64 * 32)).map fun cell => (cell % 64, cell / 64) :=
  flatMap_range_eq 64 32 (by decide)

theorem mem_coordinates {x y : Nat} :
    (x, y) ∈ coordinates ↔ x < 64 ∧ y < 32 := by
  simp [coordinates, width, height, and_comm]

/-- Strictly later in the order of rows and, inside of a row, of columns. -/
def Follows (point later : Nat × Nat) : Prop :=
  point.2 < later.2 ∨ point.2 = later.2 ∧ point.1 < later.1

theorem pairwise_coordinates : coordinates.Pairwise Follows := by
  rw [coordinates_eq, List.pairwise_map]
  apply List.pairwise_lt_range.imp
  intro cell later before
  simp only [Follows]
  omega

variable (frame : Frame)

/-- A cell is the pixel whose coordinates are found by division. -/
theorem getElem_cells {cell : Nat} (inside : cell < frame.pixels.toList.length) :
    frame.pixels.toList[cell] = frame.pixel (cell % 64) (cell / 64) := by
  have small : cell < 64 * 32 := by
    rw [Vector.length_toList] at inside
    exact inside
  have here : place (cell % 64) (cell / 64) = ⟨cell, small⟩ := by
    apply Fin.ext
    simp only [place]
    omega
  simp only [Vector.getElem_toList, pixel, here, Fin.getElem_fin]

/-- The cells are the pixels of the coordinates, in their order. -/
theorem cells_eq :
    frame.pixels.toList =
      coordinates.map fun point => frame.pixel point.1 point.2 := by
  rw [coordinates_eq, List.map_map]
  apply List.ext_getElem
  · rw [Vector.length_toList, List.length_map, List.length_range]
  · intro cell inside _
    rw [getElem_cells, List.getElem_map, List.getElem_range]
    rfl

theorem isDark_iff : frame.isDark = true ↔ frame.litPixels = [] := by
  rw [isDark, ← Vector.all_toList, cells_eq, List.all_map, List.all_eq_true,
    litPixels, List.filter_eq_nil_iff]
  simp

theorem asRecord_eq :
    frame.asRecord =
      "FrameBuffer \x7b lit: " ++ toString frame.litPixels.length ++ " \x7d" := by
  rw [asRecord, litCount, Text.Record.withFields, List.map_singleton,
    String.intercalate_singleton]
  simp only [String.append_assoc]
  rfl

/-! ## The list of the lit pixels -/

/-- The lit pixels are listed row by row, and each of them once. -/
structure Listed (points : List (Nat × Nat)) : Prop where
  mem_iff : ∀ x y, (x, y) ∈ points ↔
    x < 64 ∧ y < 32 ∧ frame.pixel x y = true
  ascending : points.Pairwise Follows
  once : points.Nodup
  /-- They are the lit ones among the cells, counted through. -/
  of_cells : points =
    (frame.pixels.toList.zipIdx.filter (·.1)).map fun cell =>
      (cell.2 % 64, cell.2 / 64)

theorem zipIdx_cells_eq :
    frame.pixels.toList.zipIdx =
      (List.range (64 * 32)).map fun cell =>
        (frame.pixel (cell % 64) (cell / 64), cell) := by
  apply List.ext_getElem
  · rw [List.length_zipIdx, Vector.length_toList, List.length_map,
      List.length_range]
  · intro cell _ _
    rw [List.getElem_zipIdx, getElem_cells, List.getElem_map,
      List.getElem_range, Nat.zero_add]

theorem listed_litPixels : frame.Listed frame.litPixels where
  mem_iff x y := by
    rw [litPixels, List.mem_filter, mem_coordinates, and_assoc]
  ascending := pairwise_coordinates.filter _
  once := by
    apply (pairwise_coordinates.filter _).imp
    rintro point _ follows rfl
    simp [Follows] at follows
  of_cells := by
    rw [zipIdx_cells_eq, litPixels, coordinates_eq, List.filter_map,
      List.filter_map, List.map_map]
    rfl

/-! ## The text -/

/-- The character of a pixel. -/
def mark (lit : Bool) : Char :=
  if lit then '@' else ' '

/-- A text has a line for each row with a character for each of its pixels. -/
structure Depicts (text : String) (lines : List String) : Prop where
  joined : text = "\n".intercalate lines
  lines_length : lines.length = 32
  line_length : ∀ line ∈ lines, line.length = 64
  unbroken : ∀ line ∈ lines, '\n' ∉ line.toList
  marked : ∀ x < 64, ∀ y < 32,
    lines[y]?.bind (·.toList[x]?) = some (mark (frame.pixel x y))
  /-- The lines are stretches of the cells. -/
  of_cells : lines = (List.range 32).map fun y =>
    String.ofList (((frame.pixels.toList.drop (64 * y)).take 64).map mark)

theorem toList_rowText (y : Nat) :
    (frame.rowText y).toList =
      (List.range 64).map fun x => mark (frame.pixel x y) := by
  rw [rowText, String.toList_ofList]
  rfl

/-- The row of a frame is a stretch of its cells. -/
theorem rowText_eq_cells {y : Nat} (onScreen : y < 32) :
    frame.rowText y =
      String.ofList
        (((frame.pixels.toList.drop (64 * y)).take 64).map mark) := by
  have inside : 64 * y + 64 ≤ frame.pixels.toList.length := by
    rw [Vector.length_toList]
    omega
  rw [← String.toList_inj, toList_rowText, String.toList_ofList]
  apply List.ext_getElem
  · simp only [List.length_map, List.length_range, List.length_take,
      List.length_drop]
    omega
  · intro x onRow _
    rw [List.length_map, List.length_range] at onRow
    have column : (64 * y + x) % 64 = x := by omega
    have row : (64 * y + x) / 64 = y := by omega
    rw [List.getElem_map, List.getElem_range, List.getElem_map,
      List.getElem_take, List.getElem_drop, getElem_cells, column, row]

theorem depicts_text :
    frame.Depicts frame.text ((List.range 32).map frame.rowText) where
  joined := rfl
  lines_length := by rw [List.length_map, List.length_range]
  line_length := by
    intro line member
    obtain ⟨y, -, rfl⟩ := List.mem_map.mp member
    rw [← String.length_toList, toList_rowText, List.length_map,
      List.length_range]
  unbroken := by
    intro line member
    obtain ⟨y, -, rfl⟩ := List.mem_map.mp member
    rw [toList_rowText, List.mem_map]
    rintro ⟨x, -, broken⟩
    cases lit : frame.pixel x y <;> simp [mark, lit] at broken
  marked := by
    intro x onScreen y onScreen'
    rw [List.getElem?_map, List.getElem?_range onScreen', Option.map_some,
      Option.bind_some, toList_rowText, List.getElem?_map,
      List.getElem?_range onScreen, Option.map_some]
  of_cells :=
    List.map_congr_left fun y member =>
      frame.rowText_eq_cells (List.mem_range.mp member)

variable {frame} {other : Frame} {text : String} {lines lines' : List String}

/-- The lines can be read off a text, for a line break is no character of them. -/
theorem Depicts.map_toList_eq (depicts : frame.Depicts text lines) :
    lines.map String.toList = text.toList.splitOn '\n' := by
  have some_line : lines.map String.toList ≠ [] := by
    rw [← List.length_pos_iff, List.length_map, depicts.lines_length]
    decide
  rw [depicts.joined, String.toList_intercalate]
  symm
  apply List.splitOn_intercalate '\n' _ some_line
  rw [List.forall_mem_map]
  exact depicts.unbroken

theorem mark_injective {lit lit' : Bool} (same : mark lit = mark lit') :
    lit = lit' := by
  cases lit <;> cases lit' <;> simp_all [mark]

/-- Frames with the same text are the same. -/
theorem Depicts.frame_eq (depicts : frame.Depicts text lines)
    (depicts' : other.Depicts text lines') : frame = other := by
  have same : lines = lines' :=
    List.map_injective_iff.mpr (fun _ _ equal => String.toList_injective equal)
      (depicts.map_toList_eq.trans depicts'.map_toList_eq.symm)
  apply ext_pixel
  intro x y
  have columns := Nat.mod_lt x (show 0 < 64 by decide)
  have rows := Nat.mod_lt y (show 0 < 32 by decide)
  have here : place (x % 64) (y % 32) = place x y :=
    (place_eq_iff _ _ _ _).mpr ⟨Nat.mod_mod _ _, Nat.mod_mod _ _⟩
  have marked := depicts.marked _ columns _ rows
  rw [same, depicts'.marked _ columns _ rows, frame.pixel_congr here,
    other.pixel_congr here, Option.some.injEq] at marked
  exact (mark_injective marked).symm

theorem text_eq_iff : frame.text = other.text ↔ frame = other := by
  constructor
  · intro same
    have depicts := other.depicts_text
    rw [← same] at depicts
    exact frame.depicts_text.frame_eq depicts
  · exact congrArg text

theorem eq_iff_pixel : frame = other ↔ ∀ x y, frame.pixel x y = other.pixel x y :=
  ⟨fun same _ _ => same ▸ rfl, ext_pixel⟩

/-! ## The canvas -/

/-- A canvas has the lit pixels as points, upside down, inside of its bounds. -/
structure OnCanvas (frame : Frame) (canvas : Canvas) : Prop where
  points_eq : canvas.points =
    frame.litPixels.map fun point => ((point.1 : Int), -(point.2 : Int))
  bounds : canvas.horizontal = (0, 63) ∧ canvas.vertical = (-31, 0)
  inside : ∀ point ∈ canvas.points,
    0 ≤ point.1 ∧ point.1 ≤ 63 ∧ -31 ≤ point.2 ∧ point.2 ≤ 0

theorem onCanvas (frame : Frame) (title : String) :
    frame.OnCanvas (.ofFrame title frame) where
  points_eq := rfl
  bounds := ⟨rfl, rfl⟩
  inside := by
    intro point member
    obtain ⟨⟨x, y⟩, listed, rfl⟩ := List.mem_map.mp member
    obtain ⟨onScreen, onScreen', -⟩ :=
      (frame.listed_litPixels.mem_iff x y).mp listed
    exact ⟨by omega, by omega, by omega, by omega⟩

theorem shown_iff {display : TerminalDisplay} {canvas : Canvas} :
    Emission.call (.shown canvas) ∈ (display.draw frame).trace ↔
      display.drawing.works = true ∧ canvas = .ofFrame display.title frame := by
  rw [TerminalDisplay.draw]
  split
  · rename_i works
    simp [works]
  · rename_i broken
    simp [broken]

/--
Whatever was set and cleared, all views show the same pixels: those that were
set last.  The lit ones are listed row by row, and the frame is dark if there is
none; their number is what the frame is written out by.  The text has an at sign
for each of them, and a frame can be read off its text.  On a terminal they are
drawn in the same order, with the rows growing downwards.
-/
theorem views_agree (changes : List Change) :
    let frame := dark.after changes
    (∀ x y, frame.pixel x y = latest changes x y) ∧
    frame.Listed frame.litPixels ∧
    (frame.isDark = true ↔ frame.litPixels = []) ∧
    frame.asRecord =
      "FrameBuffer \x7b lit: " ++ toString frame.litPixels.length ++ " \x7d" ∧
    (∃ lines, frame.Depicts frame.text lines) ∧
    (∀ others, let other := dark.after others
      (frame = other ↔ frame.text = other.text) ∧
      (frame = other ↔ ∀ x y, frame.pixel x y = other.pixel x y)) ∧
    ∀ (display : TerminalDisplay) canvas,
      (Emission.call (.shown canvas) ∈ (display.draw frame).trace ↔
        display.drawing.works = true ∧
          canvas = .ofFrame display.title frame) ∧
      frame.OnCanvas (.ofFrame display.title frame) := by
  intro frame
  exact ⟨pixel_after changes, frame.listed_litPixels, frame.isDark_iff,
    frame.asRecord_eq, ⟨_, frame.depicts_text⟩,
    fun others => ⟨text_eq_iff.symm, eq_iff_pixel⟩,
    fun display canvas => ⟨shown_iff, frame.onCanvas display.title⟩⟩

/-- A pixel set over the edges after a clearing is the one that is seen. -/
theorem wrappedPixel_seen :
    let frame := dark.after [.set 9 9 true, .clear, .set 67 33 true]
    (3, 1) ∈ frame.litPixels ∧ (9, 9) ∉ frame.litPixels ∧
    frame.isDark = false ∧ frame.text ≠ (dark.after []).text := by
  intro frame
  obtain ⟨seen, listed, isDark_iff, -, -, same_iff, -⟩ :=
    views_agree [.set 9 9 true, .clear, .set 67 33 true]
  have lit : frame.pixel 3 1 = true := seen 3 1
  have cleared : frame.pixel 9 9 = false := seen 9 9
  have member := (listed.mem_iff 3 1).mpr ⟨by decide, by decide, lit⟩
  refine ⟨member, ?_, ?_, ?_⟩
  · intro listed_too
    have := ((listed.mem_iff 9 9).mp listed_too).2.2
    exact Bool.false_ne_true (cleared.symm.trans this)
  · rw [Bool.eq_false_iff, ne_eq, isDark_iff]
    exact List.ne_nil_of_mem member
  · intro same
    have agree := (same_iff []).2.mp ((same_iff []).1.mpr same) 3 1
    exact Bool.false_ne_true ((pixel_dark 3 1).symm.trans (agree.symm.trans lit))

end Frame

end Chip8
