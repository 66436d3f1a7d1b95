import Mathlib.Algebra.BigOperators.Group.List.Basic
import Mathlib.Data.List.Induction
import Mathlib.Data.List.ModifyLast

/-!
# Lists that are cut into sections

A list is read from its beginning, and an element starts a new section or joins the last one;
what stands before it decides.  `map_cut_concat` says what a loop has built that keeps a row
for each section.
-/

namespace Sections

universe u v

variable {α : Type u} {starts : List α → α → Bool} {sections : List (List α)} {l run : List α}
variable {a : α}

/-- The sections with one more element. -/
def place (starts : List α → α → Bool) (sections : List (List α)) (a : α) : List (List α) :=
  if starts sections.flatten a then sections ++ [[a]] else sections.modifyLast (· ++ [a])

/-- The sections of a list. -/
def cut (starts : List α → α → Bool) (l : List α) : List (List α) := l.foldl (place starts) []

theorem cut_concat (l : List α) (a : α) :
    cut starts (l ++ [a]) = place starts (cut starts l) a := by
  rw [cut, List.foldl_append]
  rfl

theorem flatten_place (first : ∀ a, starts [] a) (sections : List (List α)) (a : α) :
    (place starts sections a).flatten = sections.flatten ++ [a] := by
  unfold place
  split
  · rw [List.flatten_append, List.flatten_singleton]
  · rename_i goes_on
    rcases List.eq_nil_or_concat sections with rfl | ⟨closed, last, rfl⟩
    · exact absurd (first a) goes_on
    · rw [List.concat_eq_append, List.modifyLast_concat, List.flatten_append,
        List.flatten_append, List.flatten_singleton, List.flatten_singleton, List.append_assoc]

theorem flatten_cut (first : ∀ a, starts [] a) (l : List α) : (cut starts l).flatten = l := by
  induction l using List.reverseRecOn with
  | nil => rfl
  | append_singleton l a ih => rw [cut_concat, flatten_place first, ih]

theorem ne_nil_of_mem_cut (mem : run ∈ cut starts l) : run ≠ [] := by
  induction l using List.reverseRecOn generalizing run with
  | nil => cases mem
  | append_singleton l a ih =>
      rw [cut_concat, place] at mem
      split at mem
      · rcases List.mem_append.mp mem with before | here
        · exact ih before
        · rw [List.mem_singleton.mp here]
          exact List.cons_ne_nil _ _
      · rcases List.eq_nil_or_concat (cut starts l) with none | ⟨closed, last, some⟩
        · rw [none] at mem
          cases mem
        · rw [some, List.concat_eq_append, List.modifyLast_concat] at mem
          rcases List.mem_append.mp mem with before | here
          · refine ih ?_
            rw [some, List.concat_eq_append]
            exact List.mem_append_left _ before
          · rw [List.mem_singleton.mp here]
            exact List.append_ne_nil_of_right_ne_nil _ (List.cons_ne_nil _ _)

/-- What does not decide where a section starts can be changed before or after the cut. -/
theorem cut_map {w : α → α} (same : ∀ before a, starts (before.map w) (w a) = starts before a)
    (l : List α) : cut starts (l.map w) = (cut starts l).map (List.map w) := by
  induction l using List.reverseRecOn with
  | nil => rfl
  | append_singleton l a ih =>
      rw [List.map_append, List.map_singleton, cut_concat, cut_concat, ih, place, place,
        ← List.map_flatten, same]
      split
      · rw [List.map_append]
        rfl
      · rcases List.eq_nil_or_concat (cut starts l) with none | ⟨closed, last, some⟩
        · rw [none]
          rfl
        · rw [some, List.concat_eq_append, List.map_append, List.map_singleton,
            List.modifyLast_concat, List.modifyLast_concat, List.map_append, List.map_singleton,
            List.map_append, List.map_singleton]

/-- Sections that differ from those of a list in what does not decide are the sections of
their own elements. -/
theorem cut_flatten {w : α → α} (first : ∀ a, starts [] a)
    (same : ∀ before a, starts (before.map w) (w a) = starts before a)
    (alike : sections.map (List.map w) = (cut starts l).map (List.map w)) :
    cut starts sections.flatten = sections := by
  have shapes : (cut starts sections.flatten).map (List.map w) = sections.map (List.map w) := by
    rw [← cut_map same, List.map_flatten, alike, ← List.map_flatten, flatten_cut first,
      ← cut_map same]
  refine List.eq_iff_flatten_eq.mpr ⟨flatten_cut first _, ?_⟩
  have lengths := congrArg (List.map List.length) shapes
  simpa only [List.map_map, Function.comp_def, List.length_map] using lengths

variable {β : Type v} {row : List α → β} {put : β → α → β} {create : α → β}

/-- **A row for each section.**  A loop that creates a row where a section starts, and puts every
element on the last row, has built what the sections come to. -/
theorem map_cut_concat (single : ∀ a, row [a] = put (create a) a)
    (more : ∀ run a, run ≠ [] → row (run ++ [a]) = put (row run) a) (first : ∀ a, starts [] a)
    (l : List α) (a : α) :
    (cut starts (l ++ [a])).map row =
      ((cut starts l).map row ++ if starts l a then [create a] else []).modifyLast (put · a) := by
  rw [cut_concat, place, flatten_cut first]
  split
  · rw [List.modifyLast_concat, List.map_append, List.map_singleton, single]
  · rename_i goes_on
    rcases List.eq_nil_or_concat (cut starts l) with none | ⟨closed, last, some⟩
    · have empty := flatten_cut first l
      rw [none] at empty
      exact absurd (empty ▸ first a) goes_on
    · have mem : last ∈ cut starts l := by
        rw [some, List.concat_eq_append]
        exact List.mem_append_right _ (List.mem_singleton_self _)
      have nonempty := ne_nil_of_mem_cut mem
      rw [some, List.concat_eq_append, List.modifyLast_concat, List.append_nil, List.map_append,
        List.map_append, List.map_singleton, List.map_singleton, List.modifyLast_concat,
        more last a nonempty]

end Sections
