import Chip8.File.Path
import Mathlib.Data.List.TakeWhile

/-!
# Names of files and their extensions

A path is read here the other way round: it is put together from parts that
hold no slash, with slashes in between.  `Named` says which part is the name of
the file, and `HasExtension` cuts that name at its last dot.  Both are shown to
be what `fileName?` and `extension?` find, for paths with several dots, with
slashes and single dots at the end, and with bytes that are no text.
-/

namespace Chip8

namespace Path

/--
The name of the file is a part of the path that is neither empty nor made of
one or two dots, and behind it there are only empty parts and single dots.
-/
def Named (path : Path) (name : FileName) : Prop :=
  ∃ leading endings : List FileName,
    path.bytes = [slash].intercalate (leading ++ name :: endings) ∧
      (∀ part ∈ leading ++ name :: endings, slash ∉ part) ∧
      name ≠ [] ∧ name ≠ [dot] ∧ name ≠ upward ∧
      ∀ ending ∈ endings, ending = [] ∨ ending = [dot]

/-- The extension is what follows the last dot, if something precedes it. -/
def HasExtension (path : Path) (extension : FileName) : Prop :=
  ∃ stem, stem ≠ [] ∧ dot ∉ extension ∧ path.Named (stem ++ dot :: extension)

variable {path : Path} {name extension : FileName}

theorem slash_not_mem_of_mem_splitOn {bytes : List UInt8} {part : FileName}
    (member : part ∈ bytes.splitOn slash) : slash ∉ part := by
  induction bytes generalizing part with
  | nil =>
      rw [List.splitOn_nil, List.mem_singleton] at member
      rw [member]
      exact List.not_mem_nil
  | cons byte rest ih =>
      rw [List.splitOn_cons_eq_if_modifyHead] at member
      split at member
      · rcases List.mem_cons.mp member with rfl | later
        · exact List.not_mem_nil
        · exact ih later
      · rename_i other
        cases split : rest.splitOn slash with
        | nil => exact absurd split (List.splitOn_ne_nil slash rest)
        | cons first further =>
            rw [split] at ih member
            rcases List.mem_cons.mp member with rfl | later
            · rw [List.mem_cons, not_or]
              exact ⟨fun same => other (beq_iff_eq.mpr same.symm),
                ih List.mem_cons_self⟩
            · exact ih (List.mem_cons_of_mem first later)

/-- The parts of a path are those that it is put together from. -/
theorem parts_eq_iff {parts : List FileName} (some_part : parts ≠ []) :
    path.parts = parts ↔
      path.bytes = [slash].intercalate parts ∧
        ∀ part ∈ parts, slash ∉ part := by
  constructor
  · rintro rfl
    exact ⟨(List.intercalate_splitOn slash).symm,
      fun part member => slash_not_mem_of_mem_splitOn member⟩
  · rintro ⟨joined, whole⟩
    rw [Path.parts, joined]
    exact List.splitOn_intercalate slash whole some_part

theorem getLast?_steps_eq_some_iff :
    path.steps.getLast? = some name ↔
      (name ≠ [] ∧ name ≠ [dot]) ∧
        ∃ leading endings, path.parts = leading ++ name :: endings ∧
          ∀ ending ∈ endings, ending = [] ∨ ending = [dot] := by
  rw [steps, List.getLast?_filter, List.find?_eq_some_iff_append]
  simp only [Bool.not_eq_true', Bool.not_eq_false', Bool.or_eq_false_iff,
    Bool.or_eq_true, List.isEmpty_iff, List.isEmpty_eq_false_iff,
    beq_eq_false_iff_ne, beq_iff_eq]
  apply and_congr_right
  intro _
  constructor
  · rintro ⟨endings, leading, reversed, idle⟩
    refine ⟨leading.reverse, endings.reverse, ?_, ?_⟩
    · have parts := congrArg List.reverse reversed
      simpa using parts
    · intro ending member
      exact idle ending (List.mem_reverse.mp member)
  · rintro ⟨leading, endings, parts, idle⟩
    refine ⟨endings.reverse, leading.reverse, ?_, ?_⟩
    · rw [parts]
      simp
    · intro ending member
      exact idle ending (List.mem_reverse.mp member)

theorem fileName?_eq_some_iff :
    path.fileName? = some name ↔ path.Named name := by
  rw [fileName?, Option.filter_eq_some_iff, getLast?_steps_eq_some_iff, Named]
  constructor
  · rintro ⟨⟨⟨full, single⟩, leading, endings, parts, idle⟩, other⟩
    obtain ⟨joined, whole⟩ := (parts_eq_iff (by simp)).mp parts
    exact ⟨leading, endings, joined, whole, full, single, bne_iff_ne.mp other,
      idle⟩
  · rintro ⟨leading, endings, joined, whole, full, single, other, idle⟩
    have parts : path.parts = leading ++ name :: endings :=
      (parts_eq_iff (by simp)).mpr ⟨joined, whole⟩
    exact ⟨⟨⟨full, single⟩, leading, endings, parts, idle⟩,
      bne_iff_ne.mpr other⟩

/-! ## Extensions -/

theorem nameExtension?_of_no_dot (undotted : dot ∉ name) :
    nameExtension? name = none := by
  have whole : name.reverse.takeWhile (· != dot) = name.reverse := by
    rw [List.takeWhile_eq_self_iff]
    rintro byte member
    rw [bne_iff_ne]
    rintro rfl
    exact undotted (List.mem_reverse.mp member)
  simp only [nameExtension?, whole, List.length_reverse]
  exact if_neg (by omega)

/-- A name that is cut at its last dot has an extension unless it starts there. -/
theorem nameExtension?_of_cut (stem : FileName) (undotted : dot ∉ extension) :
    nameExtension? (stem ++ dot :: extension) =
      if stem = [] then none else some extension := by
  have turned : (stem ++ dot :: extension).reverse =
      extension.reverse ++ dot :: stem.reverse := by simp
  have ending : (stem ++ dot :: extension).reverse.takeWhile (· != dot) =
      extension.reverse := by
    rw [turned, List.takeWhile_append_of_pos, List.takeWhile_cons_of_neg,
      List.append_nil]
    · simp
    · rintro byte member
      rw [bne_iff_ne]
      rintro rfl
      exact undotted (List.mem_reverse.mp member)
  simp only [nameExtension?, ending, List.length_reverse, List.length_append,
    List.length_cons, List.reverse_reverse]
  cases stem with
  | nil => rw [if_pos rfl, if_neg (by simp)]
  | cons byte rest => rw [if_neg (List.cons_ne_nil byte rest), if_pos (by simp)]

theorem nameExtension?_eq_some_iff :
    nameExtension? name = some extension ↔
      ∃ stem, stem ≠ [] ∧ dot ∉ extension ∧ name = stem ++ dot :: extension := by
  constructor
  · intro found
    by_cases dotted : dot ∈ name
    · obtain ⟨after, before, turned, undotted⟩ :=
        List.eq_append_cons_of_mem (List.mem_reverse.mpr dotted)
      have cut : name = before.reverse ++ dot :: after.reverse := by
        rw [← List.reverse_reverse name, turned]
        simp
      rw [← List.mem_reverse] at undotted
      rw [cut, nameExtension?_of_cut _ undotted] at found
      split at found
      · cases found
      · rename_i full
        cases found
        exact ⟨_, full, undotted, cut⟩
    · rw [nameExtension?_of_no_dot dotted] at found
      cases found
  · rintro ⟨stem, full, undotted, rfl⟩
    rw [nameExtension?_of_cut stem undotted, if_neg full]

theorem extension?_eq_some_iff :
    path.extension? = some extension ↔ path.HasExtension extension := by
  simp only [extension?, Option.bind_eq_some_iff, fileName?_eq_some_iff,
    nameExtension?_eq_some_iff, HasExtension]
  constructor
  · rintro ⟨name, named, stem, full, undotted, rfl⟩
    exact ⟨stem, full, undotted, named⟩
  · rintro ⟨stem, full, undotted, named⟩
    exact ⟨_, named, stem, full, undotted, rfl⟩

theorem HasExtension.unique {other : FileName}
    (has : path.HasExtension extension) (has' : path.HasExtension other) :
    extension = other := by
  rw [← extension?_eq_some_iff] at has has'
  exact Option.some.inj (has.symm.trans has')

end Path

end Chip8
