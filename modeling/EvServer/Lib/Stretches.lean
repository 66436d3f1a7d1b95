import Mathlib.Data.List.SplitBy

/-!
# Where the runs of a list begin and end

`List.splitBy r` cuts a list into its maximal runs of related neighbours.  A run stands
between an element that does not go on into it and one that it does not go on to, and every
element that is not followed by a related one ends a run.
-/

namespace List

variable {α : Type*} {r : α → α → Bool} {l run before after : List α} {y : α}

/-- What ends before a run, and what comes after it, is not related to it. -/
theorem exists_append_of_mem_splitBy (h : run ∈ l.splitBy r) :
    ∃ before after, l = before ++ run ++ after ∧
      (∀ x ∈ before.getLast?, ∀ y ∈ run.head?, r x y = false) ∧
      ∀ y ∈ run.getLast?, ∀ z ∈ after.head?, r y z = false := by
  obtain ⟨runs, runs', hruns⟩ := List.append_of_mem h
  have chain := isChain_getLast_head_splitBy r l
  have nonempty : ∀ run' ∈ runs ++ run :: runs', run' ≠ [] := fun run' mem =>
    ne_nil_of_mem_splitBy (hruns ▸ mem)
  have flat : l = runs.flatten ++ run ++ runs'.flatten := by
    rw [← flatten_splitBy r l, hruns, flatten_append, flatten_cons, append_assoc]
  rw [hruns] at chain
  refine ⟨runs.flatten, runs'.flatten, flat, ?_, ?_⟩
  · intro x hx y hy
    rcases eq_nil_or_concat' runs with rfl | ⟨init, run', rfl⟩
    · simp at hx
    · have ne : run' ≠ [] := nonempty run' (by simp)
      rw [flatten_concat, getLast?_append_of_ne_nil _ ne] at hx
      rw [append_assoc, isChain_append] at chain
      obtain ⟨ha, hb, unrelated⟩ := (isChain_cons_cons.mp chain.2.1).1
      rw [getLast?_eq_some_getLast ha, Option.mem_some_iff] at hx
      rw [head?_eq_some_head hb, Option.mem_some_iff] at hy
      rwa [hx, hy] at unrelated
  · intro y hy z hz
    cases runs' with
    | nil => simp at hz
    | cons run' rest =>
        have ne : run' ≠ [] := nonempty run' (by simp)
        rw [flatten_cons, head?_append_of_ne_nil _ ne] at hz
        rw [isChain_append] at chain
        obtain ⟨ha, hb, unrelated⟩ := (isChain_cons_cons.mp chain.2.1).1
        rw [getLast?_eq_some_getLast ha, Option.mem_some_iff] at hy
        rw [head?_eq_some_head hb, Option.mem_some_iff] at hz
        rwa [hy, hz] at unrelated

/-- An element that is not followed by a related one ends a run. -/
theorem exists_mem_splitBy_getLast? (h : ∀ z ∈ after.head?, r y z = false) :
    ∃ run ∈ (before ++ y :: after).splitBy r, run.getLast? = some y := by
  have cut : (before ++ y :: after).splitBy r =
      (before ++ [y]).splitBy r ++ after.splitBy r := by
    rw [← splitBy_append (by simpa using h), append_assoc, singleton_append]
  have ne : before ++ [y] ≠ [] := by simp
  have last := getLast_getLast_splitBy r ne
  rw [getLast_append_singleton] at last
  refine ⟨_, ?_, (getLast?_eq_some_getLast (ne_nil_of_mem_splitBy (getLast_mem _))).trans
    (congrArg some last)⟩
  rw [cut]
  exact mem_append_left _ (getLast_mem _)

end List
