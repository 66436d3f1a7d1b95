import Mathlib.Data.List.Basic

/-!
# Computations that may throw

A computation that may throw is a value of `Except ε α`.  The lemmas take a successful
one apart: each of its steps has succeeded, with the results the next step was given.
-/

namespace Outcome

universe u v

variable {ε : Type u} {α β : Type v} {σ : Type v} {ι : Type u}

theorem bind_eq_ok {x : Except ε α} {f : α → Except ε β} {b : β} :
    (x >>= f) = .ok b ↔ ∃ a, x = .ok a ∧ f a = .ok b := by
  cases x <;> simp [bind, Except.bind]

theorem map_eq_ok {x : Except ε α} {f : α → β} {b : β} :
    x.map f = .ok b ↔ ∃ a, x = .ok a ∧ f a = b := by
  cases x <;> simp [Except.map]

@[simp] theorem ok_bind {a : α} {f : α → Except ε β} : ((.ok a : Except ε α) >>= f) = f a := rfl

@[simp] theorem pure_eq_ok_iff {a b : α} : (pure a : Except ε α) = .ok b ↔ a = b := by
  simp [pure, Except.pure]

/-- What is returned after a check that has passed. -/
theorem eq_of_bind_pure {x : Except ε α} {f : α → β} {a : α} {b : β} (passed : x = .ok a)
    (h : (x >>= fun a => pure (f a)) = .ok b) : f a = b := by
  rwa [passed, ok_bind, pure_eq_ok_iff] at h

/-- A check: it throws when the condition holds. -/
def refuse (condition : Prop) [Decidable condition] (error : ε) : Except ε PUnit.{v + 1} :=
  if condition then .error error else .ok ⟨⟩

theorem refuse_of_not {condition : Prop} [Decidable condition] (h : ¬ condition) {error : ε} :
    refuse condition error = .ok ⟨⟩ := if_neg h

theorem refuse_eq_ok {condition : Prop} [Decidable condition] {error : ε} {u : PUnit} :
    refuse condition error = .ok u ↔ ¬ condition := by
  by_cases h : condition <;> simp [refuse, h]

/-- What is computed after a check has passed it. -/
@[simp] theorem refuse_bind_eq_ok {condition : Prop} [Decidable condition] {error : ε}
    {f : PUnit → Except ε β} {b : β} :
    (refuse condition error >>= f) = .ok b ↔ ¬ condition ∧ f ⟨⟩ = .ok b := by
  by_cases h : condition <;> simp [refuse, h, bind, Except.bind]

/-- A loop that got to its end has made its first turn and then the others. -/
theorem foldlM_cons_eq_ok {step : σ → ι → Except ε σ} {s t : σ} {a : ι} {as : List ι} :
    (a :: as).foldlM step s = .ok t ↔
      ∃ between, step s a = .ok between ∧ as.foldlM step between = .ok t := by
  rw [List.foldlM_cons, bind_eq_ok]

/-- **The loop invariant rule.**  What holds before a loop and is kept by each of its
turns holds when it gets to its end. -/
theorem foldlM_invariant {step : σ → ι → Except ε σ} {I : σ → Prop}
    (keeps : ∀ s a t, I s → step s a = .ok t → I t) {as : List ι} {s t : σ} (init : I s)
    (h : as.foldlM step s = .ok t) : I t := by
  induction as generalizing s with
  | nil =>
      rw [List.foldlM_nil, pure_eq_ok_iff] at h
      exact h ▸ init
  | cons a rest ih =>
      obtain ⟨between, first, others⟩ := foldlM_cons_eq_ok.mp h
      exact ih (keeps s a between init first) others

/-- A loop gets to its end when each of its turns does, wherever the turns before have led. -/
theorem exists_foldlM_eq_ok_iff {step : σ → ι → Except ε σ} {P : ι → Prop} {as : List ι}
    (turn : ∀ a ∈ as, ∀ s, (∃ t, step s a = .ok t) ↔ P a) (s : σ) :
    (∃ t, as.foldlM step s = .ok t) ↔ ∀ a ∈ as, P a := by
  induction as generalizing s with
  | nil => simp
  | cons a rest ih =>
      obtain ⟨ofFirst, ofRest⟩ := List.forall_mem_cons.mp turn
      rw [List.forall_mem_cons, ← ofFirst s]
      constructor
      · rintro ⟨t, h⟩
        obtain ⟨between, first, others⟩ := foldlM_cons_eq_ok.mp h
        exact ⟨⟨between, first⟩, (ih ofRest between).mp ⟨t, others⟩⟩
      · rintro ⟨⟨between, first⟩, others⟩
        obtain ⟨t, h⟩ := (ih ofRest between).mpr others
        exact ⟨t, foldlM_cons_eq_ok.mpr ⟨between, first, h⟩⟩

theorem mapM_cons_eq_ok {f : ι → Except ε σ} {a : ι} {as : List ι} {bs : List σ} :
    (a :: as).mapM f = .ok bs ↔ ∃ b bs', f a = .ok b ∧ as.mapM f = .ok bs' ∧ b :: bs' = bs := by
  rw [List.mapM_cons]
  simp only [bind_eq_ok, pure_eq_ok_iff]
  constructor
  · rintro ⟨b, hb, bs', hbs, same⟩
    exact ⟨b, bs', hb, hbs, same⟩
  · rintro ⟨b, bs', hb, hbs, same⟩
    exact ⟨b, hb, bs', hbs, same⟩

/-- A list can be mapped when each of its elements can. -/
theorem exists_mapM_eq_ok_iff {f : ι → Except ε σ} {as : List ι} :
    (∃ bs, as.mapM f = .ok bs) ↔ ∀ a ∈ as, ∃ b, f a = .ok b := by
  induction as with
  | nil => exact iff_of_true ⟨[], rfl⟩ fun _ mem => by cases mem
  | cons a as ih =>
      rw [List.forall_mem_cons, ← ih]
      constructor
      · rintro ⟨bs, h⟩
        obtain ⟨b, rest, hb, hrest, rfl⟩ := mapM_cons_eq_ok.mp h
        exact ⟨⟨b, hb⟩, rest, hrest⟩
      · rintro ⟨⟨b, hb⟩, rest, hrest⟩
        exact ⟨b :: rest, mapM_cons_eq_ok.mpr ⟨b, rest, hb, hrest, rfl⟩⟩

theorem mapM_eq_ok_nil {f : ι → Except ε σ} {as : List ι} : as.mapM f = .ok [] ↔ as = [] := by
  cases as with
  | nil => exact iff_of_true rfl rfl
  | cons a rest =>
      refine iff_of_false (fun h => ?_) (List.cons_ne_nil _ _)
      obtain ⟨_, _, _, _, built⟩ := mapM_cons_eq_ok.mp h
      cases built

theorem mapM_append_eq_ok {f : ι → Except ε σ} {as as' : List ι} {bs : List σ} :
    (as ++ as').mapM f = .ok bs ↔
      ∃ first, as.mapM f = .ok first ∧ ∃ rest, as'.mapM f = .ok rest ∧ first ++ rest = bs := by
  rw [List.mapM_append]
  simp only [bind_eq_ok, pure_eq_ok_iff]

/-- The order of a list does not decide whether it can be mapped, nor to what elements. -/
theorem mapM_perm {f : ι → Except ε σ} {as as' : List ι} {bs : List σ} (perm : as.Perm as')
    (mapped : as.mapM f = .ok bs) : ∃ bs', as'.mapM f = .ok bs' ∧ bs.Perm bs' := by
  induction perm generalizing bs with
  | nil => exact ⟨bs, mapped, .refl _⟩
  | cons a _ ih =>
      obtain ⟨b, rest, hb, hrest, rfl⟩ := mapM_cons_eq_ok.mp mapped
      obtain ⟨rest', hrest', perm⟩ := ih hrest
      exact ⟨b :: rest', mapM_cons_eq_ok.mpr ⟨b, rest', hb, hrest', rfl⟩, perm.cons b⟩
  | swap a a' as =>
      obtain ⟨b', others, hb', hothers, rfl⟩ := mapM_cons_eq_ok.mp mapped
      obtain ⟨b, rest, hb, hrest, rfl⟩ := mapM_cons_eq_ok.mp hothers
      exact ⟨b :: b' :: rest, mapM_cons_eq_ok.mpr
        ⟨b, b' :: rest, hb, mapM_cons_eq_ok.mpr ⟨b', rest, hb', hrest, rfl⟩, rfl⟩, .swap _ _ _⟩
  | trans _ _ ih ih' =>
      obtain ⟨bs', mapped', perm⟩ := ih mapped
      obtain ⟨bs'', mapped'', perm'⟩ := ih' mapped'
      exact ⟨bs'', mapped'', perm.trans perm'⟩

/-- To change what is mapped changes what it is mapped to. -/
theorem mapM_map_eq {f : ι → Except ε σ} {w : ι → ι} {h : σ → σ} (same : ∀ a, f (w a) = (f a).map h)
    (as : List ι) : (as.map w).mapM f = (as.mapM f).map (List.map h) := by
  induction as with
  | nil => rfl
  | cons a rest ih =>
      rw [List.map_cons, List.mapM_cons, List.mapM_cons, same, ih]
      rcases f a with _ | b
      · rfl
      · rcases rest.mapM f with _ | bs <;> rfl

/-- Turns of a loop that do nothing can be left out. -/
theorem foldlM_filter_eq {step : σ → ι → Except ε σ} {p : ι → Bool} {as : List ι}
    (idle : ∀ a ∈ as, p a = false → ∀ s, step s a = .ok s) (s : σ) :
    (as.filter p).foldlM step s = as.foldlM step s := by
  induction as generalizing s with
  | nil => rfl
  | cons a rest ih =>
      have others := fun s => ih (fun b mem => idle b (List.mem_cons_of_mem _ mem)) s
      cases kept : p a with
      | true =>
          rw [List.filter_cons_of_pos kept, List.foldlM_cons, List.foldlM_cons]
          exact congrArg _ (funext others)
      | false =>
          rw [List.filter_cons_of_neg (by simp [kept]), List.foldlM_cons,
            idle a List.mem_cons_self kept]
          exact others s

/-- What a list is mapped to. -/
theorem mem_mapM {f : ι → Except ε σ} {as : List ι} {bs : List σ} (h : as.mapM f = .ok bs) {b : σ} :
    b ∈ bs ↔ ∃ a ∈ as, f a = .ok b := by
  induction as generalizing bs with
  | nil =>
      cases h
      simp
  | cons a as ih =>
      obtain ⟨first, rest, hfirst, hrest, rfl⟩ := mapM_cons_eq_ok.mp h
      simp only [List.mem_cons, ih hrest, exists_eq_or_imp, hfirst, Except.ok.injEq]
      exact or_congr_left eq_comm

/-- A figure that each element keeps is kept by the list. -/
theorem map_mapM_eq {τ : Type*} {f : ι → Except ε σ} {g : ι → τ} {h : σ → τ} {as : List ι}
    {bs : List σ} (mapped : as.mapM f = .ok bs) (same : ∀ a ∈ as, ∀ b, f a = .ok b → h b = g a) :
    bs.map h = as.map g := by
  induction as generalizing bs with
  | nil =>
      cases mapped
      rfl
  | cons a rest ih =>
      obtain ⟨first, others, hfirst, hothers, rfl⟩ := mapM_cons_eq_ok.mp mapped
      rw [List.forall_mem_cons] at same
      rw [List.map_cons, List.map_cons, same.1 first hfirst, ih hothers same.2]

theorem isOk_iff {x : Except ε α} : x.isOk ↔ ∃ a, x = .ok a := by
  cases x <;> simp [Except.isOk, Except.toBool]

theorem toOption_eq_some {x : Except ε α} {a : α} : x.toOption = some a ↔ x = .ok a := by
  cases x <;> simp [Except.toOption]

/-- A computation whose result has been observed has succeeded with it. -/
theorem exists_ok_of_toOption_map {x : Except ε α} {f : α → β} {b : β}
    (h : x.toOption.map f = some b) : ∃ a, x = .ok a ∧ f a = b := by
  cases x with
  | error _ => simp [Except.toOption] at h
  | ok a => exact ⟨a, rfl, by simpa [Except.toOption] using h⟩

/-! ## Computations that may have no value -/

/-- A list of computations without an error has given the figures `h` exactly when each of
them has. -/
theorem exists_mapM_eq_some_map_eq_iff {A B C : Type*} {f : A → Option B} {g : B → C}
    {h : A → C} (as : List A) :
    (∃ bs, as.mapM f = some bs ∧ bs.map g = as.map h) ↔
      ∀ a ∈ as, ∃ b, f a = some b ∧ g b = h a := by
  induction as with
  | nil => simp
  | cons a rest ih =>
      rw [List.forall_mem_cons, ← ih, List.mapM_cons]
      constructor
      · rintro ⟨bs, mapped, same⟩
        obtain ⟨b, first, mapped⟩ := Option.bind_eq_some_iff.mp mapped
        obtain ⟨bs', others, built⟩ := Option.bind_eq_some_iff.mp mapped
        obtain rfl : b :: bs' = bs := Option.some.inj built
        rw [List.map_cons, List.map_cons, List.cons.injEq] at same
        exact ⟨⟨b, first, same.1⟩, bs', others, same.2⟩
      · rintro ⟨⟨b, first, same⟩, bs', others, same'⟩
        refine ⟨b :: bs', ?_, ?_⟩
        · rw [first, others]
          rfl
        · rw [List.map_cons, List.map_cons, same, same']

end Outcome
