import Mathlib.Data.Rat.Floor
import Mathlib.Algebra.Order.BigOperators.Group.List

/-!
# Truncation, rounding and whole steps on exact decimals

Decimals are exact rationals.  `truncate` drops the fractional part towards zero
and `roundHalfUp` goes to the nearest integer, ties away from zero.  The last
section counts whole steps of a positive size in an amount.
-/

namespace Rounding

/-! ## Truncation towards zero -/

/-- The integer part of a decimal, towards zero. -/
def truncate (x : ℚ) : ℤ := if 0 ≤ x then ⌊x⌋ else ⌈x⌉

/-- What truncation drops; it has the sign of the decimal. -/
def remainder (x : ℚ) : ℚ := x - truncate x

variable {x y : ℚ}

theorem truncate_of_nonneg (h : 0 ≤ x) : truncate x = ⌊x⌋ := if_pos h

theorem truncate_add_remainder (x : ℚ) : (truncate x : ℚ) + remainder x = x := by
  rw [remainder]
  ring

@[simp] theorem truncate_intCast (n : ℤ) : truncate n = n := by
  unfold truncate
  split
  · exact Int.floor_intCast n
  · exact Int.ceil_intCast n

@[simp] theorem truncate_zero : truncate 0 = 0 := by simp [truncate]

@[simp] theorem remainder_zero : remainder 0 = 0 := by simp [remainder]

/-- A positive integer part needs a decimal of at least one. -/
theorem one_le_of_truncate_pos (h : 0 < truncate x) : 1 ≤ x := by
  unfold truncate at h
  split at h
  · exact le_trans (by exact_mod_cast h) (Int.floor_le x)
  · rename_i negative
    have : ⌈x⌉ ≤ 0 := Int.ceil_le.mpr (by push_cast; linarith)
    omega

/-- A positive integer part is the floor. -/
theorem truncate_eq_floor_of_pos (h : 0 < truncate x) : truncate x = ⌊x⌋ :=
  truncate_of_nonneg (by linarith [one_le_of_truncate_pos h])

/-! ## Rounding to the nearest integer -/

/-- The nearest integer, ties away from zero. -/
def roundHalfUp (x : ℚ) : ℤ := if 0 ≤ x then ⌊x + 1 / 2⌋ else ⌈x - 1 / 2⌉

theorem roundHalfUp_mono {x y : ℚ} (le : x ≤ y) : roundHalfUp x ≤ roundHalfUp y := by
  unfold roundHalfUp
  by_cases hx : 0 ≤ x
  · rw [if_pos hx, if_pos (hx.trans le)]
    exact Int.floor_mono (by linarith)
  · rw [if_neg hx]
    by_cases hy : 0 ≤ y
    · rw [if_pos hy]
      have below : ⌈x - 1 / 2⌉ ≤ 0 := Int.ceil_le.mpr (by push_cast; linarith)
      have above : 0 ≤ ⌊y + 1 / 2⌋ := Int.floor_nonneg.mpr (by linarith)
      exact below.trans above
    · rw [if_neg hy]
      exact Int.ceil_mono (by linarith)

/-- Rounding moves a decimal by at most one half. -/
theorem abs_roundHalfUp_sub_le (x : ℚ) : |(roundHalfUp x : ℚ) - x| ≤ 1 / 2 := by
  unfold roundHalfUp
  rw [abs_le]
  split
  · constructor
    · linarith [Int.lt_floor_add_one (x + 1 / 2)]
    · linarith [Int.floor_le (x + 1 / 2)]
  · constructor
    · linarith [Int.le_ceil (x - 1 / 2)]
    · linarith [Int.ceil_lt_add_one (x - 1 / 2)]

/-! ## Whole steps -/

/-- The whole steps in an amount do not exceed it. -/
theorem floor_div_mul_le {size : ℚ} (pos : 0 < size) (x : ℚ) :
    (⌊x / size⌋ : ℚ) * size ≤ x := by
  have := Int.floor_le (x / size)
  calc (⌊x / size⌋ : ℚ) * size ≤ x / size * size := by gcongr
    _ = x := div_mul_cancel₀ x pos.ne'

/-- Counted from a whole number of steps, each further step counts once. -/
theorem truncate_sub_floor_mul_div {size : ℚ} (pos : 0 < size) {x y : ℚ} (le : x ≤ y) :
    truncate ((y - ⌊x / size⌋ * size) / size) = ⌊y / size⌋ - ⌊x / size⌋ := by
  have steps : (y - ⌊x / size⌋ * size) / size = y / size - ⌊x / size⌋ := by
    rw [sub_div, mul_div_cancel_right₀ _ pos.ne']
  have ahead : (⌊x / size⌋ : ℚ) ≤ y / size :=
    (Int.floor_le (x / size)).trans (div_le_div_of_nonneg_right le pos.le)
  rw [steps, truncate_of_nonneg (sub_nonneg.mpr ahead), Int.floor_sub_intCast]

/-- Counting the steps of a difference may count a step twice: the steps from `a` to `c`
added to `a` stay within the whole steps of `c` exactly when `a` is a whole number of
steps, or `c` is less far into its step than `a`. -/
theorem add_floor_div_mul_le_iff {size : ℚ} (pos : 0 < size) (a c : ℚ) :
    a + (⌊(c - a) / size⌋ : ℚ) * size ≤ (⌊c / size⌋ : ℚ) * size ↔
      Int.fract (a / size) = 0 ∨ Int.fract (c / size) < Int.fract (a / size) := by
  have start : a = (⌊a / size⌋ + Int.fract (a / size)) * size := by
    rw [Int.floor_add_fract, div_mul_cancel₀ a pos.ne']
  have steps : ⌊(c - a) / size⌋ =
      ⌊c / size⌋ - ⌊a / size⌋ + ⌊Int.fract (c / size) - Int.fract (a / size)⌋ := by
    rw [← Int.floor_intCast_add, sub_div, Int.cast_sub]
    congr 1
    rw [Int.fract, Int.fract]
    ring
  have nonneg := Int.fract_nonneg (a / size)
  have below := Int.fract_lt_one (a / size)
  have nonneg' := Int.fract_nonneg (c / size)
  have below' := Int.fract_lt_one (c / size)
  have split : a + (⌊(c - a) / size⌋ : ℚ) * size ≤ (⌊c / size⌋ : ℚ) * size ↔
      Int.fract (a / size) + ⌊Int.fract (c / size) - Int.fract (a / size)⌋ ≤ 0 := by
    rw [steps]
    nth_rewrite 1 [start]
    push_cast
    rw [← add_mul, mul_le_mul_iff_left₀ pos]
    constructor <;> intro h <;> linarith
  rw [split]
  rcases lt_or_ge (Int.fract (c / size)) (Int.fract (a / size)) with carried | kept
  · have : ⌊Int.fract (c / size) - Int.fract (a / size)⌋ = -1 := by
      rw [Int.floor_eq_iff]
      push_cast
      constructor <;> linarith
    rw [this]
    push_cast
    constructor
    · intro _
      exact Or.inr carried
    · intro _
      linarith
  · have : ⌊Int.fract (c / size) - Int.fract (a / size)⌋ = 0 := by
      rw [Int.floor_eq_iff]
      push_cast
      constructor <;> linarith
    rw [this]
    push_cast
    constructor
    · intro h
      exact Or.inl (by linarith)
    · rintro (whole | carried)
      · linarith
      · exact absurd carried (not_lt.mpr kept)

end Rounding
