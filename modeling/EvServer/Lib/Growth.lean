import Mathlib.Data.List.Basic
import Mathlib.Data.List.Count

/-!
# What the steps of a run add

A run goes through a list, and a measure of its state may grow with each step.  `Growth.total`
is by how much it grows in the steps that count.  Where what a step adds depends on the step
alone, the total is a number of steps.  Where a step adds something only as long as it is not
known, and it gets known when such a step completes (`Growth.Learns`), nothing is added to what
is known, and at most one thing is added to what is not just when the first step that adds it
completes, or is the only one that does.
-/

universe u v

namespace Growth

variable {σ : Type u} {α : Type v} {step : σ → α → σ} {measure : σ → ℕ} {counts : α → Bool}

/-- By how much the measure grows in the steps that count. -/
def total (step : σ → α → σ) (measure : σ → ℕ) (counts : α → Bool) : List α → σ → ℕ
  | [], _ => 0
  | a :: as, s =>
      (if counts a then measure (step s a) - measure s else 0) +
        total step measure counts as (step s a)

/-- Steps that add one thing or nothing, whatever the state is. -/
theorem total_eq_countP {I : σ → Prop} {adds : α → Bool}
    (keeps : ∀ s a, I s → I (step s a))
    (grows : ∀ s a, I s → counts a = true →
      measure (step s a) = measure s + if adds a then 1 else 0)
    (as : List α) {s : σ} (h : I s) :
    total step measure counts as s = as.countP fun a => counts a && adds a := by
  induction as generalizing s with
  | nil => rfl
  | cons a as ih =>
      rw [total, ih (keeps s a h), List.countP_cons, Nat.add_comm]
      congr 1
      cases counted : counts a with
      | false => simp
      | true =>
          rw [if_pos rfl, grows s a h counted, Bool.true_and]
          omega

/-- The steps that count add a thing that is not known yet, if they store it; it is known from
the first of them on that completes. -/
structure Learns (step : σ → α → σ) (measure : σ → ℕ) (counts : α → Bool) (I known : σ → Prop)
    (stores completes : α → Bool) : Prop where
  keeps : ∀ s a, I s → I (step s a)
  others : ∀ s a, I s → counts a = false → (known (step s a) ↔ known s)
  of_known : ∀ s a, I s → counts a = true → known s →
    measure (step s a) = measure s ∧ known (step s a)
  of_unknown : ∀ s a, I s → counts a = true → ¬ known s →
    (measure (step s a) = measure s + if stores a then 1 else 0) ∧
      (known (step s a) ↔ stores a = true ∧ completes a = true)

namespace Learns

variable {I known : σ → Prop} {stores completes : α → Bool}

/-- Nothing is added to what is known. -/
theorem total_of_known (learns : Learns step measure counts I known stores completes)
    (as : List α) {s : σ} (h : I s) (found : known s) :
    total step measure counts as s = 0 := by
  induction as generalizing s with
  | nil => rfl
  | cons a as ih =>
      rw [total]
      cases counted : counts a with
      | false =>
          rw [ih (learns.keeps s a h) ((learns.others s a h counted).mpr found)]
          rfl
      | true =>
          obtain ⟨same, still⟩ := learns.of_known s a h counted found
          rw [ih (learns.keeps s a h) still, same, if_pos rfl, Nat.sub_self]

/-- The total as long as the thing is not known: its steps one after the other. -/
theorem total_of_unknown (learns : Learns step measure counts I known stores completes)
    {a : α} (as : List α) {s : σ} (h : I s) (unknown : ¬ known s) :
    total step measure counts (a :: as) s =
      if counts a && stores a then
        1 + if completes a then 0 else total step measure counts as (step s a)
      else total step measure counts as (step s a) := by
  rw [total]
  cases counted : counts a with
  | false => simp
  | true =>
      obtain ⟨grows, learned⟩ := learns.of_unknown s a h counted unknown
      rw [if_pos rfl, grows]
      cases stored : stores a with
      | false => simp
      | true =>
          cases completed : completes a with
          | false => simp
          | true =>
              rw [learns.total_of_known as (learns.keeps s a h)
                (learned.mpr ⟨stored, completed⟩)]
              simp

/-- Steps that do not store the thing leave it unknown. -/
theorem not_known_step (learns : Learns step measure counts I known stores completes) {a : α}
    {s : σ} (h : I s) (unknown : ¬ known s)
    (incomplete : ¬ (counts a = true ∧ stores a = true ∧ completes a = true)) :
    ¬ known (step s a) := by
  cases counted : counts a with
  | false => rwa [learns.others s a h counted]
  | true =>
      rw [(learns.of_unknown s a h counted unknown).2]
      exact fun completed => incomplete ⟨counted, completed⟩

theorem total_eq_zero_iff (learns : Learns step measure counts I known stores completes)
    (as : List α) {s : σ} (h : I s) (unknown : ¬ known s) :
    total step measure counts as s = 0 ↔ (as.filter fun a => counts a && stores a) = [] := by
  induction as generalizing s with
  | nil => simp [total]
  | cons a as ih =>
      rw [learns.total_of_unknown as h unknown]
      by_cases stored : (counts a && stores a) = true
      · rw [if_pos stored, List.filter_cons_of_pos (by exact stored)]
        exact iff_of_false (by omega) (List.cons_ne_nil _ _)
      · rw [if_neg stored, List.filter_cons_of_neg (by exact stored)]
        refine ih (learns.keeps s a h) (learns.not_known_step h unknown ?_)
        rintro ⟨counted, stores, -⟩
        exact stored (by rw [counted, stores]; rfl)

/-- **What is not known is added once** just when the first step that stores it completes, or
no other step stores it. -/
theorem total_le_one_iff (learns : Learns step measure counts I known stores completes)
    (as : List α) {s : σ} (h : I s) (unknown : ¬ known s) :
    total step measure counts as s ≤ 1 ↔
      ∀ first others, (as.filter fun a => counts a && stores a) = first :: others →
        others = [] ∨ completes first = true := by
  induction as generalizing s with
  | nil => simp [total]
  | cons a as ih =>
      rw [learns.total_of_unknown as h unknown]
      by_cases stored : (counts a && stores a) = true
      · rw [if_pos stored, List.filter_cons_of_pos (by exact stored)]
        cases completed : completes a with
        | true =>
            refine iff_of_true Nat.le.refl fun first others split => Or.inr ?_
            rw [← (List.cons.inj split).1, completed]
        | false =>
            have still : ¬ known (step s a) := learns.not_known_step h unknown fun learned =>
              Bool.false_ne_true (completed.symm.trans learned.2.2)
            have none := learns.total_eq_zero_iff as (learns.keeps s a h) still
            constructor
            · rintro once first others split
              obtain ⟨rfl, rfl⟩ := List.cons.inj split
              refine Or.inl (none.mp ?_)
              simp only [Bool.false_eq_true, if_false] at once
              omega
            · intro only
              rcases only a _ rfl with nothing | completes
              · simp [none.mpr nothing]
              · exact absurd (completed.symm.trans completes) Bool.false_ne_true
      · rw [if_neg stored, List.filter_cons_of_neg (by exact stored)]
        refine ih (learns.keeps s a h) (learns.not_known_step h unknown ?_)
        rintro ⟨counted, stores, -⟩
        exact stored (by rw [counted, stores]; rfl)

end Learns

end Growth
