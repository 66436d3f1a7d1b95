import Mathlib.Algebra.GroupWithZero.Nat
import Mathlib.Order.Fin.Basic
import Mathlib.Order.Interval.Set.Basic

/-!
# Half-open arcs of a cycle

On a cycle of `n` points the arc from `a` to `b` holds the points that a walk forward
from `a` meets before it meets `b`.  The walk may pass the end of the linear order of
`Fin n`: an arc is an interval of that order when its ends stand in it, and the
complement of one when they do not.  An arc and the one back partition the cycle unless
their ends coincide, where both are empty.
-/

namespace Cyclic

variable {n : ℕ} {a b t : Fin n}

/-- The points met on the way from `a` to `b`, without `b`. -/
def arc (a b : Fin n) : Set (Fin n) := {t | t - a < b - a}

/-- How far a walk forward from `a` goes until it meets `t`. -/
theorem val_sub_eq (t a : Fin n) :
    (t - a).val = if a ≤ t then t.val - a.val else n + t.val - a.val := by
  split
  · next le => exact Fin.coe_sub_iff_le.mpr le
  · next lt => exact Fin.coe_sub_iff_lt.mpr (not_le.mp lt)

theorem mem_arc : t ∈ arc a b ↔ t - a < b - a := Iff.rfl

/-- An arc whose ends stand in order is an interval. -/
theorem arc_of_le (le : a ≤ b) : arc a b = Set.Ico a b := by
  ext t
  have := t.isLt
  rw [mem_arc, Set.mem_Ico, Fin.lt_def, val_sub_eq, val_sub_eq, if_pos le]
  rw [Fin.le_def] at le
  split_ifs with after <;> simp only [Fin.le_def, Fin.lt_def] at * <;> omega

/-- An arc that passes the end is what the interval between its ends leaves. -/
theorem arc_of_lt (lt : b < a) : arc a b = (Set.Ico b a)ᶜ := by
  ext t
  have := t.isLt
  rw [mem_arc, Set.mem_compl_iff, Set.mem_Ico, Fin.lt_def, val_sub_eq, val_sub_eq,
    if_neg (not_le.mpr lt)]
  rw [Fin.lt_def] at lt
  split_ifs with after <;> simp only [Fin.le_def, Fin.lt_def] at * <;> omega

@[simp] theorem arc_self (a : Fin n) : arc a a = ∅ := by
  rw [arc_of_le le_rfl, Set.Ico_self]

/-- An arc and the one back partition the cycle. -/
theorem compl_arc (ne : a ≠ b) : (arc a b)ᶜ = arc b a := by
  rcases lt_or_gt_of_ne ne with lt | gt
  · rw [arc_of_le lt.le, arc_of_lt lt]
  · rw [arc_of_lt gt, arc_of_le gt.le, compl_compl]

/-- Of two arcs between different points a point lies on exactly one. -/
theorem xor_mem_arc (ne : a ≠ b) (t : Fin n) : Xor (t ∈ arc a b) (t ∈ arc b a) := by
  rw [← compl_arc ne, Set.mem_compl_iff]
  exact xor_not_right.mpr Iff.rfl

section Origin

variable [NeZero n]

/-- From the origin to `b`: everything before `b`. -/
theorem arc_zero_left (b : Fin n) : arc 0 b = Set.Iio b := by
  rw [arc_of_le (Fin.zero_le b)]
  ext t
  simp

/-- From `a` to the origin: everything from `a` on, unless `a` is the origin. -/
theorem arc_zero_right (ne : a ≠ 0) : arc a 0 = Set.Ici a := by
  rw [arc_of_lt (Fin.pos_iff_ne_zero.mpr ne)]
  ext t
  simp

end Origin

end Cyclic
