import EvServer.Lib.Runs
import Mathlib.Data.Set.Insert

/-!
# Records that are written back as a whole

A client reads a record, and later writes it back as a whole, although it has changed one
cell of it only.  What another client has written in between is lost then, unless it was the
same cell.  Here every copy that is written back is one of whose record no other cell has been
written since it was read.

The cells written since are a part of the copy for the proofs: a copy agrees with its record
in all other cells, and so a write changes the cell that it is about, and no other one.
-/

namespace Copies

universe u v w x

variable {P : Type u} {K : Type v} {C : Type w} {V : Type x}

/-- A copy of a record, and the cells of the record that have been written since it was
read. -/
@[ext]
structure Copy (K : Type v) (C : Type w) (V : Type x) where
  key : K
  cells : C → V
  written : Set C

/-- The records, and the copies of the clients. -/
structure State (P : Type u) (K : Type v) (C : Type w) (V : Type x) where
  cells : K → C → V
  copy : P → Option (Copy K C V)

variable [DecidableEq P] [DecidableEq K]

/-- The copy after a write to a cell. -/
def Copy.note (key : K) (cell : C) (copy : Copy K C V) : Copy K C V :=
  if copy.key = key then { copy with written := insert cell copy.written } else copy

/-- A step, and the cell that it writes. -/
inductive Step : State P K C V → Option (K × C) → State P K C V → Prop
  /-- A client reads a record. -/
  | read (s : State P K C V) (p : P) (key : K) :
      Step s none { s with copy := Function.update s.copy p (some ⟨key, s.cells key, ∅⟩) }
  /-- A client forgets its copy. -/
  | drop (s : State P K C V) (p : P) : Step s none { s with copy := Function.update s.copy p none }
  /-- Something that is not about the records happens. -/
  | skip (s : State P K C V) : Step s none s
  /-- A client writes its record back.  Where the copy is up to date, the record stays as it
  is, the cell apart. -/
  | write (s : State P K C V) {p : P} {copy : Copy K C V} {cell : C} (record : C → V) :
      s.copy p = some copy → copy.written ⊆ {cell} →
      (∀ other, other ≠ cell → copy.cells other = s.cells copy.key other →
        record other = s.cells copy.key other) →
      Step s (some (copy.key, cell))
        { cells := Function.update s.cells copy.key record
          copy := fun q => if q = p then none else (s.copy q).map (Copy.note copy.key cell) }

/-- The copy agrees with its record in the cells that have not been written since. -/
def Copy.UpToDate (s : State P K C V) (copy : Copy K C V) : Prop :=
  ∀ cell, cell ∉ copy.written → copy.cells cell = s.cells copy.key cell

/-- All copies are up to date. -/
def UpToDate (s : State P K C V) : Prop := ∀ p copy, s.copy p = some copy → copy.UpToDate s

variable {s s' : State P K C V} {label : Option (K × C)} {key : K} {cell : C}

omit [DecidableEq P] [DecidableEq K] in
/-- No client has a copy. -/
theorem UpToDate.of_idle (idle : ∀ p, s.copy p = none) : UpToDate s := by
  intro p copy has
  rw [idle p] at has
  cases has

omit [DecidableEq P] [DecidableEq K] in
/-- The record that is written back is the stored one, the cell apart. -/
theorem UpToDate.record_eq (upToDate : UpToDate s) {p : P} {copy : Copy K C V} {record : C → V}
    (has : s.copy p = some copy) (written : copy.written ⊆ {cell})
    (keeps : ∀ other, other ≠ cell → copy.cells other = s.cells copy.key other →
      record other = s.cells copy.key other) {other : C} (ne : other ≠ cell) :
    record other = s.cells copy.key other :=
  keeps other ne (upToDate p copy has other fun mem => ne (written mem))

/-- **A step changes the cell that it writes**, and no other one. -/
theorem UpToDate.cells_step (upToDate : UpToDate s) (step : Step s label s')
    (ne : label ≠ some (key, cell)) : s'.cells key cell = s.cells key cell := by
  cases step with
  | read | drop | skip => rfl
  | @write p copy written record has inTime keeps =>
      change Function.update s.cells copy.key record key cell = s.cells key cell
      by_cases same : key = copy.key
      · subst same
        rw [Function.update_self]
        refine upToDate.record_eq has inTime keeps ?_
        rintro rfl
        exact ne rfl
      · rw [Function.update_of_ne same]

omit [DecidableEq P] in
/-- A copy that another client has read stays up to date when a record is written. -/
theorem Copy.UpToDate.note {copy : Copy K C V} (upToDate : copy.UpToDate s)
    (frame : ∀ other, (key, cell) ≠ (copy.key, other) →
      s'.cells copy.key other = s.cells copy.key other) :
    (copy.note key cell).UpToDate s' := by
  unfold Copy.note
  split
  · rename_i same
    intro other unwritten
    refine (upToDate other fun mem => unwritten (.inr mem)).trans (frame other ?_).symm
    intro equal
    exact unwritten (.inl (Prod.mk.inj equal).2.symm)
  · rename_i ne
    intro other unwritten
    refine (upToDate other unwritten).trans (frame other ?_).symm
    intro equal
    exact ne (Prod.mk.inj equal).1.symm

/-- **The step lemma.** -/
theorem UpToDate.step (upToDate : UpToDate s) (step : Step s label s') : UpToDate s' := by
  have frame {key cell} := @UpToDate.cells_step P K C V _ _ s s' label key cell upToDate step
  intro q copy' has'
  cases step with
  | read p key =>
      change Function.update s.copy p _ q = some copy' at has'
      rcases eq_or_ne q p with rfl | other
      · rw [Function.update_self, Option.some.injEq] at has'
        rw [← has']
        exact fun _ _ => rfl
      · rw [Function.update_of_ne other] at has'
        exact upToDate q copy' has'
  | drop p =>
      change Function.update s.copy p _ q = some copy' at has'
      rcases eq_or_ne q p with rfl | other
      · rw [Function.update_self] at has'
        cases has'
      · rw [Function.update_of_ne other] at has'
        exact upToDate q copy' has'
  | skip => exact upToDate q copy' has'
  | write record has inTime keeps =>
      dsimp only at has'
      split at has'
      · cases has'
      · obtain ⟨before, hbefore, rfl⟩ := Option.map_eq_some_iff.mp has'
        refine Copy.UpToDate.note (upToDate q before hbefore) fun other ne => frame ?_
        exact fun equal => ne (Option.some.inj equal)

/-- **No update is lost.**  A cell that no step of a run writes is what it was. -/
theorem UpToDate.cells_run {labels : List (Option (K × C))} (upToDate : UpToDate s)
    (run : Transition.Run (Transition.guarded (fun _ label => label ≠ some (key, cell)) Step) s
      labels s') : s'.cells key cell = s.cells key cell := by
  have invariant : UpToDate s' ∧ s'.cells key cell = s.cells key cell := by
    refine run.invariant (I := fun t => UpToDate t ∧ t.cells key cell = s.cells key cell)
      ⟨upToDate, rfl⟩ ?_
    rintro t label r ⟨upToDate, same⟩ ⟨ne, step⟩
    exact ⟨upToDate.step step, (upToDate.cells_step step ne).trans same⟩
  exact invariant.2

end Copies
