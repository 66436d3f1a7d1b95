import Mathlib.Algebra.BigOperators.Group.List.Basic
import Mathlib.Algebra.Order.Group.Defs
import Mathlib.Tactic.Abel

/-!
# Periods that follow one another

A period has a start and a finish.  Periods `Follow` one another between two points in time
when each starts where the one before has finished, or later.  Such periods have no time in
common, and together they are no longer than what lies between the two points.

Periods that are `Chained` leave no time out: each starts where the one before has finished.
Periods that `Cover` the time between two points begin and end with it as well.
-/

namespace Periods

universe u

variable {T : Type u}

section Cover

variable {start finish finish' : T} {periods : List (T × T)}

/-- The periods cover the time from a point up to another, none of it twice. -/
inductive Covers : T → List (T × T) → T → Prop
  | nil {start : T} : Covers start [] start
  | cons {start between finish : T} {rest : List (T × T)} :
      Covers between rest finish → Covers start ((start, between) :: rest) finish

/-- Where the periods end is known from them. -/
theorem Covers.finish_eq (h : Covers start periods finish) (h' : Covers start periods finish') :
    finish = finish' := by
  induction h with
  | nil =>
      cases h'
      rfl
  | cons _ ih =>
      cases h' with
      | cons rest => exact ih rest

end Cover

section Order

variable [LinearOrder T] {start finish finish' : T} {period : T × T} {periods periods' : List (T × T)}

/-- The periods follow one another, from a point in time up to another. -/
inductive Follow : T → List (T × T) → T → Prop
  | nil {start finish : T} : start ≤ finish → Follow start [] finish
  | cons {start finish : T} {period : T × T} {rest : List (T × T)} :
      start ≤ period.1 → period.1 ≤ period.2 → Follow period.2 rest finish →
      Follow start (period :: rest) finish

namespace Follow

/-- There is nothing before the start and nothing after the finish. -/
theorem le (h : Follow start periods finish) : start ≤ finish := by
  induction h with
  | nil le => exact le
  | cons le le' _ ih => exact le.trans (le'.trans ih)

theorem mono (h : Follow start periods finish) {start' : T} (earlier : start' ≤ start)
    (later : finish ≤ finish') : Follow start' periods finish' := by
  induction h generalizing start' with
  | nil le => exact .nil (earlier.trans (le.trans later))
  | cons le le' _ ih => exact .cons (earlier.trans le) le' (ih le_rfl later)

theorem append (first : Follow start periods finish) (second : Follow finish periods' finish') :
    Follow start (periods ++ periods') finish' := by
  induction first with
  | nil le => exact second.mono le le_rfl
  | cons le le' _ ih => exact .cons le le' (ih second)

/-- One more period. -/
theorem snoc (h : Follow start periods finish) (le : finish ≤ period.1)
    (le' : period.1 ≤ period.2) : Follow start (periods ++ [period]) period.2 :=
  h.append (.cons le le' (.nil le_rfl))

theorem of_append (h : Follow start (periods ++ periods') finish) :
    ∃ between, Follow start periods between ∧ Follow between periods' finish := by
  induction periods generalizing start with
  | nil => exact ⟨start, .nil le_rfl, h⟩
  | cons period rest ih =>
      cases h with
      | cons le le' h =>
          obtain ⟨between, first, second⟩ := ih h
          exact ⟨between, .cons le le' first, second⟩

/-- Periods may be left out. -/
theorem sublist (h : Follow start periods finish) (sub : periods'.Sublist periods) :
    Follow start periods' finish := by
  induction h generalizing periods' with
  | nil le =>
      obtain rfl := List.sublist_nil.mp sub
      exact .nil le
  | @cons _ _ period rest le le' _ ih =>
      cases sub with
      | cons _ sub => exact (ih sub).mono (le.trans le') le_rfl
      | cons_cons _ sub => exact .cons le le' (ih sub)

theorem start_le_of_mem (h : Follow start periods finish) (mem : period ∈ periods) :
    start ≤ period.1 := by
  induction h with
  | nil => cases mem
  | cons le le' _ ih =>
      rcases List.mem_cons.mp mem with rfl | later
      · exact le
      · exact le.trans (le'.trans (ih later))

/-- **No time in common.** -/
theorem pairwise (h : Follow start periods finish) :
    periods.Pairwise fun period period' => period.2 ≤ period'.1 := by
  induction h with
  | nil => exact .nil
  | cons _ _ rest ih => exact .cons (fun period mem => rest.start_le_of_mem mem) ih

/-- The periods start one after the other. -/
theorem pairwise_start (h : Follow start periods finish) :
    periods.Pairwise fun period period' => period.1 ≤ period'.1 := by
  induction h with
  | nil => exact .nil
  | cons _ le' rest ih =>
      exact .cons (fun period mem => le'.trans (rest.start_le_of_mem mem)) ih

/-- Periods between two points in time, each of which starts where those before it have finished
or later, follow one another. -/
theorem of_pairwise (le : start ≤ finish)
    (within : ∀ period ∈ periods, start ≤ period.1 ∧ period.1 ≤ period.2 ∧ period.2 ≤ finish)
    (apart : periods.Pairwise fun period period' => period.2 ≤ period'.1) :
    Follow start periods finish := by
  induction periods generalizing start with
  | nil => exact .nil le
  | cons period rest ih =>
      rw [List.forall_mem_cons] at within
      rw [List.pairwise_cons] at apart
      refine .cons within.1.1 within.1.2.1 (ih within.1.2.2 ?_ apart.2)
      exact fun later mem => ⟨apart.1 later mem, (within.2 later mem).2⟩

end Follow

/-- Each period starts where the one before has finished; the last one finishes at `last`. -/
inductive Chained : List (T × T) → Option T → Prop
  | nil : Chained [] none
  | snoc {periods : List (T × T)} {last : Option T} {period : T × T} :
      Chained periods last → (∀ finish ∈ last, period.1 = finish) → period.1 < period.2 →
      Chained (periods ++ [period]) (some period.2)

namespace Chained

variable {last : Option T}

theorem eq_nil (h : Chained periods none) : periods = [] := by
  cases h
  rfl

/-- Nothing finishes after the last period. -/
theorem finish_le (h : Chained periods last) (mem : finish ∈ last) :
    ∀ period ∈ periods, period.2 ≤ finish := by
  induction h generalizing finish with
  | nil => exact nofun
  | @snoc periods last period h meets lt ih =>
      obtain rfl := Option.mem_some_iff.mp mem
      intro other isMember
      rcases List.mem_append.mp isMember with old | new
      · cases last with
        | none => cases (eq_nil h ▸ old)
        | some before =>
            calc other.2 ≤ before := ih rfl other old
              _ = period.1 := (meets before rfl).symm
              _ ≤ period.2 := lt.le
      · rw [List.mem_singleton.mp new]

theorem exists_finish (h : Chained periods last) (mem : finish ∈ last) :
    ∃ period ∈ periods, period.2 = finish := by
  cases h with
  | nil => cases mem
  | snoc => exact ⟨_, List.mem_append_right _ (List.mem_singleton_self _), Option.some.inj mem⟩

/-- What came before a period that is added has finished where it starts. -/
theorem finish_le_start (h : Chained periods last) (meets : ∀ finish ∈ last, period.1 = finish) :
    ∀ other ∈ periods, other.2 ≤ period.1 := by
  intro other mem
  cases last with
  | none => cases (eq_nil h ▸ mem)
  | some before => exact (h.finish_le rfl other mem).trans (meets before rfl).ge

/-- **No time in common.** -/
theorem pairwise (h : Chained periods last) :
    periods.Pairwise fun period period' => period.2 ≤ period'.1 := by
  induction h with
  | nil => exact .nil
  | snoc h meets _ ih =>
      refine List.pairwise_append.mpr ⟨ih, List.pairwise_singleton _ _, ?_⟩
      intro other mem period new
      rw [List.mem_singleton.mp new]
      exact h.finish_le_start meets other mem

theorem start_lt_finish (h : Chained periods last) : ∀ period ∈ periods, period.1 < period.2 := by
  induction h with
  | nil => exact nofun
  | snoc _ _ lt ih =>
      intro other mem
      rcases List.mem_append.mp mem with old | new
      · exact ih other old
      · rw [List.mem_singleton.mp new]
        exact lt

/-- **No time left out.**  A period starts where another one has finished, or is the first. -/
theorem exists_previous (h : Chained periods last) : ∀ period ∈ periods,
    (∃ previous ∈ periods, previous.2 = period.1) ∨ ∀ other ∈ periods, period.1 ≤ other.1 := by
  induction h with
  | nil => exact nofun
  | @snoc periods last period h meets lt ih =>
      intro other mem
      rcases List.mem_append.mp mem with old | new
      · refine (ih other old).imp ?_ ?_
        · rintro ⟨previous, mem, same⟩
          exact ⟨previous, List.mem_append_left _ mem, same⟩
        · intro first third isMember
          rcases List.mem_append.mp isMember with mem | new
          · exact first third mem
          · rw [List.mem_singleton.mp new]
            exact (h.start_lt_finish other old).le.trans (h.finish_le_start meets other old)
      · rw [List.mem_singleton.mp new]
        cases last with
        | none =>
            refine .inr fun third isMember => ?_
            rw [eq_nil h, List.nil_append] at isMember
            rw [List.mem_singleton.mp isMember]
        | some before =>
            obtain ⟨previous, mem, same⟩ := h.exists_finish rfl
            exact .inl ⟨previous, List.mem_append_left _ mem, same.trans (meets before rfl).symm⟩

end Chained

end Order

/-- **The length of the periods** is at most what lies between the two points in time. -/
theorem Follow.sum_length_le [AddCommGroup T] [LinearOrder T] [IsOrderedAddMonoid T]
    {start finish : T} {periods : List (T × T)} (h : Follow start periods finish) :
    (periods.map fun period => period.2 - period.1).sum ≤ finish - start := by
  induction h with
  | nil le => exact sub_nonneg.mpr le
  | @cons start finish period rest le le' _ ih =>
      rw [List.map_cons, List.sum_cons]
      calc period.2 - period.1 + (rest.map fun period => period.2 - period.1).sum
          ≤ period.2 - period.1 + (finish - period.2) := add_le_add_right ih _
        _ = finish - period.1 := by abel
        _ ≤ finish - start := sub_le_sub_left le finish

end Periods
