import Mathlib.Data.List.Nodup
import Mathlib.Data.List.Range

/-!
# Numbering groups with one counter

A counter goes through groups: each member of a group takes the next number, and when its
members have theirs the group takes the one after them.  A group without members takes a number
that is not kept.  The numbers that are kept go up, so no two of them are the same; the number
that the counter starts from is kept just when the first group has members.
-/

namespace Numbering

/-- The numbers of the members of groups of these sizes. -/
def members (start : ℕ) : List ℕ → List ℕ
  | [] => []
  | size :: rest => List.range' start size ++ members (start + size + 1) rest

/-- The numbers of the groups that have members, and those of their members. -/
def kept (start : ℕ) : List ℕ → List ℕ
  | [] => []
  | size :: rest =>
      (if size = 0 then [] else List.range' start size ++ [start + size]) ++
        kept (start + size + 1) rest

variable {start number size : ℕ} {sizes rest : List ℕ}

/-- No number is kept that the counter has passed. -/
theorem le_of_mem_kept (mem : number ∈ kept start sizes) : start ≤ number := by
  induction sizes generalizing start with
  | nil => cases mem
  | cons size rest ih =>
      rcases List.mem_append.mp mem with first | later
      · split at first
        · cases first
        · rw [← List.range'_1_concat, List.mem_range'_1] at first
          exact first.1
      · have := ih later
        omega

/-- **The numbers go up.** -/
theorem pairwise_kept : (kept start sizes).Pairwise (· < ·) := by
  induction sizes generalizing start with
  | nil => exact List.Pairwise.nil
  | cons size rest ih =>
      refine List.pairwise_append.mpr ⟨?_, ih, fun first inFirst later inLater => ?_⟩
      · split
        · exact List.Pairwise.nil
        · rw [← List.range'_1_concat]
          exact List.pairwise_lt_range'
      · have := le_of_mem_kept inLater
        split at inFirst
        · cases inFirst
        · rw [← List.range'_1_concat, List.mem_range'_1] at inFirst
          omega

theorem nodup_kept : (kept start sizes).Nodup :=
  pairwise_kept.imp fun lt => lt.ne

/-- The numbers of members are among those that are kept. -/
theorem members_sublist_kept : (members start sizes).Sublist (kept start sizes) := by
  induction sizes generalizing start with
  | nil => exact List.Sublist.refl _
  | cons size rest ih =>
      refine List.Sublist.append ?_ ih
      split
      · rename_i empty
        rw [empty]
        exact List.Sublist.refl _
      · exact List.sublist_append_left _ _

/-- The first number is kept when the first group has members. -/
theorem start_mem_kept_cons : start ∈ kept start (size :: rest) ↔ size ≠ 0 := by
  have passed : start ∉ kept (start + size + 1) rest := fun mem => by
    have := le_of_mem_kept mem
    omega
  rw [kept, List.mem_append, or_iff_left passed]
  split
  · rename_i empty
    simp [empty]
  · rename_i some
    rw [← List.range'_1_concat, List.mem_range'_1]
    omega

end Numbering
