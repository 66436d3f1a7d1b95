import Mathlib.Order.Basic

/-!
# Finite runs of a labelled step relation

A system is given by a relation `Step s a t`: from the state `s` the action `a`
leads to `t`.  `Run Step s as t` is a finite run from `s` to `t` whose actions are
`as`, extended at its end.  Every state met on the way is the end of a shorter
run, so a fact about all runs is a fact about all states reached.

`guarded Guard Step` keeps the steps whose action is admitted in the state it is
taken in.  A condition on the schedule of a system is stated as such a guard.
-/

namespace Transition

universe u v w

variable {S : Type u} {A : Type v} {B : Type w}
variable {Step Step' : S → A → S → Prop} {Guard : S → A → Prop}
variable {s t r : S} {as bs : List A} {a : A}

/-- A finite run of a labelled step relation. -/
inductive Run (Step : S → A → S → Prop) (s : S) : List A → S → Prop
  /-- The run that takes no step. -/
  | refl : Run Step s [] s
  /-- A run followed by one more step. -/
  | snoc {as : List A} {t r : S} {a : A} :
      Run Step s as t → Step t a r → Run Step s (as ++ [a]) r

/-- The steps of `Step` whose action the guard admits. -/
def guarded (Guard : S → A → Prop) (Step : S → A → S → Prop) : S → A → S → Prop :=
  fun s a t => Guard s a ∧ Step s a t

namespace Run

/-- A single step is a run. -/
theorem single (step : Step s a t) : Run Step s [a] t :=
  snoc refl step

/-- **The invariant rule.**  What holds at the start and is preserved by every
step holds at the end of every run. -/
theorem invariant {I : S → Prop} (init : I s)
    (preserved : ∀ t a r, I t → Step t a r → I r) (run : Run Step s as t) : I t := by
  induction run with
  | refl => exact init
  | snoc _ step ih => exact preserved _ _ _ ih step

/-- Runs compose. -/
theorem append (first : Run Step s as t) (second : Run Step t bs r) :
    Run Step s (as ++ bs) r := by
  induction second with
  | refl => simpa using first
  | snoc _ step ih =>
      rw [← List.append_assoc]
      exact snoc ih step

/-- A run of a smaller step relation is a run of the larger one. -/
theorem mono (sub : ∀ t a r, Step t a r → Step' t a r) (run : Run Step s as t) :
    Run Step' s as t := by
  induction run with
  | refl => exact refl
  | snoc _ step ih => exact snoc ih (sub _ _ _ step)

/-- **The simulation rule.**  The runs of a system whose steps are steps of another one, seen
through a function, are runs of that one. -/
theorem simulate {S' : Type v} {Step' : S' → B → S' → Prop} (f : S → S')
    (sim : ∀ t a r, Step t a r → ∃ b, Step' (f t) b (f r)) (run : Run Step s as t) :
    ∃ bs, Run Step' (f s) bs (f t) := by
  induction run with
  | refl => exact ⟨[], refl⟩
  | snoc _ step ih =>
      obtain ⟨bs, before⟩ := ih
      obtain ⟨b, step⟩ := sim _ _ _ step
      exact ⟨bs ++ [b], snoc before step⟩

/-- A guarded run is a run. -/
theorem of_guarded (run : Run (guarded Guard Step) s as t) : Run Step s as t :=
  run.mono fun _ _ _ step => step.2

end Run

/-! ## What happens once -/

/-- No run from the state takes two steps of a kind. -/
def AtMostOnce (Step : S → A → S → Prop) (Kind : S → S → Prop) (s : S) : Prop :=
  ∀ as t a t' bs r b r', Run Step s as t → Step t a t' → Kind t t' →
    Run Step t' bs r → Step r b r' → ¬ Kind r r'

/-- **The rule of the flag.**  A step of the kind sets a flag that every step keeps, and no step
is of the kind where the flag is set. -/
theorem AtMostOnce.of_flag {Kind : S → S → Prop} {Flag : S → Prop}
    (sets : ∀ t a r, Step t a r → Kind t r → Flag r)
    (keeps : ∀ t a r, Flag t → Step t a r → Flag r)
    (excludes : ∀ t a r, Flag t → Step t a r → ¬ Kind t r) : AtMostOnce Step Kind s := by
  intro as t a t' bs r b r' _ first kind later second
  have set : Flag r := later.invariant (sets t a t' first kind) keeps
  exact excludes r b r' set second

/-! ## Systems that compute their steps -/

/-- The state after a list of actions of a system that computes its steps; `none` when an
action cannot be taken or its step is not admitted. -/
def follow (next : S → A → Option S) (admits : S → A → S → Prop)
    [∀ s a t, Decidable (admits s a t)] : S → List A → Option S
  | s, [] => some s
  | s, a :: as =>
      ((next s a).filter fun t => admits s a t).bind fun t => follow next admits t as

/-- Following a list of actions is a run. -/
theorem Run.of_follow {next : S → A → Option S} {admits : S → A → S → Prop}
    [∀ s a t, Decidable (admits s a t)]
    (step : ∀ s a t, next s a = some t → admits s a t → Step s a t)
    (h : follow next admits s as = some t) : Run Step s as t := by
  induction as generalizing s with
  | nil =>
      rw [follow, Option.some.injEq] at h
      exact h ▸ refl
  | cons a as ih =>
      obtain ⟨between, taken, h⟩ := Option.bind_eq_some_iff.mp h
      obtain ⟨computed, admitted⟩ := Option.filter_eq_some_iff.mp taken
      exact (single (step s a between computed (of_decide_eq_true admitted))).append (ih h)

end Transition
