import Mathlib.Data.List.Basic

/-!
# Computations that write to a store and may throw

A `Handler` is given the store and returns what it leaves there, also when it throws:
nothing that has been written is taken back.  `Respects R` says that two stores related
by `R` are not told apart; it is shown step by step.
-/

universe u

/-- A computation on a store; what it has written by the time it throws stays. -/
def Handler (σ ε α : Type u) : Type u := σ → Except ε α × σ

namespace Handler

variable {σ ε α β ι : Type u}

instance : Monad (Handler σ ε) where
  pure a := fun s => (.ok a, s)
  bind x f := fun s =>
    match x s with
    | (.ok a, t) => f a t
    | (.error e, t) => (.error e, t)

instance : LawfulMonad (Handler σ ε) := by
  refine LawfulMonad.mk' _ ?_ ?_ ?_
  · intro α x
    funext s
    change (match x s with | (.ok a, t) => (.ok a, t) | (.error e, t) => (.error e, t)) = x s
    rcases x s with ⟨_ | a, t⟩ <;> rfl
  · intro α β a f
    rfl
  · intro α β γ x f g
    funext s
    change (match (match x s with | (.ok a, t) => f a t | (.error e, t) => (.error e, t)) with
      | (.ok b, t) => g b t
      | (.error e, t) => (.error e, t)) =
      match x s with
      | (.ok a, t) =>
          (match f a t with | (.ok b, t) => g b t | (.error e, t) => (.error e, t))
      | (.error e, t) => (.error e, t)
    rcases x s with ⟨_ | a, t⟩ <;> rfl

/-- A computation that leaves the store alone. -/
def ofExcept (x : Except ε α) : Handler σ ε α := fun s => (x, s)

/-- Read from the store. -/
def read (f : σ → Except ε α) : Handler σ ε α := fun s => (f s, s)

/-- Write to the store; a write that fails changes nothing. -/
def write (outcome : Except ε PUnit) (f : σ → σ) : Handler σ ε PUnit := fun s =>
  match outcome with
  | .ok _ => (.ok ⟨⟩, f s)
  | .error e => (.error e, s)

/-- The same computation, with other exceptions. -/
def mapError {ε' : Type u} (f : ε → ε') (x : Handler σ ε α) : Handler σ ε' α := fun s =>
  match x s with
  | (.ok a, t) => (.ok a, t)
  | (.error e, t) => (.error (f e), t)

/-- Answer an exception. -/
def handle (x : Handler σ ε α) (onError : ε → α) : σ → α × σ := fun s =>
  match x s with
  | (.ok a, t) => (a, t)
  | (.error e, t) => (onError e, t)

theorem pure_apply (a : α) (s : σ) : (pure a : Handler σ ε α) s = (.ok a, s) := rfl

theorem bind_apply_ok {x : Handler σ ε α} {f : α → Handler σ ε β} {s t : σ} {a : α}
    (h : x s = (.ok a, t)) : (x >>= f) s = f a t := by
  change (match x s with | (.ok a, t) => f a t | (.error e, t) => (.error e, t)) = f a t
  rw [h]

theorem bind_apply_error {x : Handler σ ε α} {f : α → Handler σ ε β} {s t : σ} {e : ε}
    (h : x s = (.error e, t)) : (x >>= f) s = (.error e, t) := by
  change (match x s with | (.ok a, t) => f a t | (.error e, t) => (.error e, t)) = _
  rw [h]

/-- A computation that has got to its end has got to the end of each of its steps. -/
theorem bind_apply_eq_ok {x : Handler σ ε α} {f : α → Handler σ ε β} {s t : σ} {b : β} :
    (x >>= f) s = (.ok b, t) ↔ ∃ a r, x s = (.ok a, r) ∧ f a r = (.ok b, t) := by
  constructor
  · intro h
    rcases hx : x s with ⟨_ | a, r⟩
    · rw [bind_apply_error hx] at h
      cases h
    · rw [bind_apply_ok hx] at h
      exact ⟨a, r, rfl, h⟩
  · rintro ⟨a, r, hx, hf⟩
    rw [bind_apply_ok hx, hf]

/-- A computation that has thrown has done so in one of its steps. -/
theorem bind_apply_eq_error {x : Handler σ ε α} {f : α → Handler σ ε β} {s t : σ} {e : ε} :
    (x >>= f) s = (.error e, t) ↔
      x s = (.error e, t) ∨ ∃ a r, x s = (.ok a, r) ∧ f a r = (.error e, t) := by
  rcases hx : x s with ⟨_ | a, r⟩
  · rw [bind_apply_error hx]
    simp
  · rw [bind_apply_ok hx]
    simp

theorem ofExcept_apply (x : Except ε α) (s : σ) : ofExcept x s = (x, s) := rfl

theorem ofExcept_bind (x : Except ε α) (f : α → Except ε β) :
    (ofExcept (x >>= f) : Handler σ ε β) = ofExcept x >>= fun a => ofExcept (f a) := by
  funext s
  cases x <;> rfl

theorem ofExcept_pure (a : α) : (ofExcept (pure a) : Handler σ ε α) = pure a := rfl

theorem read_apply (f : σ → Except ε α) (s : σ) : read f s = (f s, s) := rfl

theorem read_eq_ok {f : σ → Except ε α} {s t : σ} {a : α} :
    read f s = (.ok a, t) ↔ f s = .ok a ∧ s = t := by
  rw [read_apply, Prod.mk.injEq]

theorem ofExcept_eq_ok {x : Except ε α} {s t : σ} {a : α} :
    ofExcept x s = (.ok a, t) ↔ x = .ok a ∧ s = t := by
  rw [ofExcept_apply, Prod.mk.injEq]

theorem write_eq_ok {outcome : Except ε PUnit} {f : σ → σ} {s t : σ} {u : PUnit} :
    write outcome f s = (.ok u, t) ↔ outcome = .ok u ∧ f s = t := by
  cases outcome <;> simp [write]

theorem write_eq_error {outcome : Except ε PUnit} {f : σ → σ} {s t : σ} {e : ε} :
    write outcome f s = (.error e, t) ↔ outcome = .error e ∧ s = t := by
  cases outcome <;> simp [write]

theorem ofExcept_bind_eq_error {x : Except ε α} {f : α → Handler σ ε β} {s t : σ} {e : ε} :
    (ofExcept x >>= f) s = (.error e, t) ↔
      (x = .error e ∧ s = t) ∨ ∃ a, x = .ok a ∧ f a s = (.error e, t) := by
  rw [bind_apply_eq_error, ofExcept_apply, Prod.mk.injEq]
  refine or_congr_right ⟨?_, ?_⟩
  · rintro ⟨a, r, computed, h⟩
    rw [Prod.mk.injEq] at computed
    obtain ⟨computed, rfl⟩ := computed
    exact ⟨a, computed, h⟩
  · rintro ⟨a, computed, h⟩
    exact ⟨a, s, Prod.ext computed rfl, h⟩

/-- What is computed after a step that leaves the store alone. -/
theorem ofExcept_bind_eq_ok {x : Except ε α} {f : α → Handler σ ε β} {s t : σ} {b : β} :
    (ofExcept x >>= f) s = (.ok b, t) ↔ ∃ a, x = .ok a ∧ f a s = (.ok b, t) := by
  simp only [bind_apply_eq_ok, ofExcept_eq_ok]
  constructor
  · rintro ⟨a, _, ⟨computed, rfl⟩, h⟩
    exact ⟨a, computed, h⟩
  · rintro ⟨a, computed, h⟩
    exact ⟨a, s, ⟨computed, rfl⟩, h⟩

theorem read_bind_eq_ok {g : σ → Except ε α} {f : α → Handler σ ε β} {s t : σ} {b : β} :
    (read g >>= f) s = (.ok b, t) ↔ ∃ a, g s = .ok a ∧ f a s = (.ok b, t) :=
  ofExcept_bind_eq_ok

/-- A step that may throw, followed by steps that do not. -/
theorem bind_isOk_iff {x : Handler σ ε α} {f : α → Handler σ ε β} {s : σ}
    (returns : ∀ a t, (f a t).1.isOk = true) : ((x >>= f) s).1.isOk = true ↔ (x s).1.isOk = true := by
  rcases h : x s with ⟨e | a, t⟩
  · rw [bind_apply_error h]
    rfl
  · rw [bind_apply_ok h]
    exact iff_of_true (returns a t) rfl

theorem mapError_isOk {ε' : Type u} (f : ε → ε') (x : Handler σ ε α) (s : σ) :
    (mapError f x s).1.isOk = (x s).1.isOk := by
  rw [mapError]
  rcases x s with ⟨_ | _, _⟩ <;> rfl

section Steps

variable {f : α → Handler σ ε β} {a : α} {e : ε} {s : σ}

theorem ofExcept_ok_bind : (ofExcept (.ok a) >>= f) s = f a s := rfl

theorem ofExcept_error_bind : (ofExcept (.error e) >>= f) s = (.error e, s) := rfl

theorem read_ok_bind {g : σ → Except ε α} (h : g s = .ok a) : (read g >>= f) s = f a s :=
  bind_apply_ok (by rw [read_apply, h])

theorem read_bind_apply {g : σ → α} : (read (fun s => .ok (g s)) >>= f) s = f (g s) s := rfl

theorem write_ok_bind {u : PUnit} {g : PUnit → Handler σ ε β} {w : σ → σ} :
    (write (.ok u) w >>= g) s = g u (w s) := rfl

theorem write_error_bind {g : PUnit → Handler σ ε β} {w : σ → σ} :
    (write (.error e) w >>= g) s = (.error e, s) := rfl

end Steps

theorem handle_ok {x : Handler σ ε α} {onError : ε → α} {s t : σ} {a : α}
    (h : x s = (.ok a, t)) : handle x onError s = (a, t) := by
  rw [handle, h]

theorem handle_error {x : Handler σ ε α} {onError : ε → α} {s t : σ} {e : ε}
    (h : x s = (.error e, t)) : handle x onError s = (onError e, t) := by
  rw [handle, h]

/-- What is written stays, whatever is answered. -/
theorem handle_snd (x : Handler σ ε α) (onError : ε → α) (s : σ) :
    (handle x onError s).2 = (x s).2 := by
  rcases hx : x s with ⟨_ | a, t⟩
  · rw [handle_error hx]
  · rw [handle_ok hx]

/-- An answer that is not that to an exception. -/
theorem eq_ok_of_handle {x : Handler σ ε α} {onError : ε → α} {s t : σ} {a : α}
    (h : handle x onError s = (a, t)) (answer : ∀ e, onError e ≠ a) : x s = (.ok a, t) := by
  rcases hx : x s with ⟨e | a', r⟩
  · rw [handle_error hx, Prod.mk.injEq] at h
    exact absurd h.1 (answer e)
  · rw [handle_ok hx, Prod.mk.injEq] at h
    rw [h.1, h.2]

/-! ## Stores that are not told apart -/

/-- On two related stores the computation does the same, and leaves related stores. -/
def Respects (R : σ → σ → Prop) (x : Handler σ ε α) : Prop :=
  ∀ s t, R s t → (x s).1 = (x t).1 ∧ R (x s).2 (x t).2

variable {R : σ → σ → Prop}

theorem respects_pure (a : α) : Respects R (pure a : Handler σ ε α) :=
  fun _ _ related => ⟨rfl, related⟩

theorem respects_ofExcept (x : Except ε α) : Respects R (ofExcept x : Handler σ ε α) :=
  fun _ _ related => ⟨rfl, related⟩

theorem respects_read {f : σ → Except ε α} (same : ∀ s t, R s t → f s = f t) :
    Respects R (read f) :=
  fun s t related => ⟨same s t related, related⟩

theorem respects_write {outcome : Except ε PUnit} {f : σ → σ}
    (same : ∀ s t, R s t → R (f s) (f t)) : Respects R (write outcome f) := by
  intro s t related
  cases outcome with
  | ok _ => exact ⟨rfl, same s t related⟩
  | error _ => exact ⟨rfl, related⟩

/-- **The rule for two steps.** -/
theorem Respects.bind {x : Handler σ ε α} {f : α → Handler σ ε β} (first : Respects R x)
    (second : ∀ a, Respects R (f a)) : Respects R (x >>= f) := by
  intro s t related
  obtain ⟨same, after⟩ := first s t related
  rcases hs : x s with ⟨_ | a, s'⟩ <;> rcases ht : x t with ⟨_ | a', t'⟩ <;>
    rw [hs, ht] at same after <;> cases same
  · rw [bind_apply_error hs, bind_apply_error ht]
    exact ⟨rfl, after⟩
  · rw [bind_apply_ok hs, bind_apply_ok ht]
    exact second a s' t' after

theorem Respects.handle {x : Handler σ ε α} (h : Respects R x) (onError : ε → α) {s t : σ}
    (related : R s t) : (x.handle onError s).1 = (x.handle onError t).1 ∧
      R (x.handle onError s).2 (x.handle onError t).2 := by
  obtain ⟨same, after⟩ := h s t related
  rcases hs : x s with ⟨_ | a, s'⟩ <;> rcases ht : x t with ⟨_ | a', t'⟩ <;>
    rw [hs, ht] at same after <;> cases same
  · rw [handle_error hs, handle_error ht]
    exact ⟨rfl, after⟩
  · rw [handle_ok hs, handle_ok ht]
    exact ⟨rfl, after⟩

/-! ## What a computation changes -/

/-- The computation takes every store to a related one, also when it throws. -/
def Changes (R : σ → σ → Prop) (x : Handler σ ε α) : Prop := ∀ s, R s (x s).2

theorem changes_ofExcept (refl : ∀ s, R s s) (x : Except ε α) :
    Changes R (ofExcept x : Handler σ ε α) := fun s => refl s

theorem changes_pure (refl : ∀ s, R s s) (a : α) : Changes R (pure a : Handler σ ε α) :=
  fun s => refl s

theorem changes_read (refl : ∀ s, R s s) (f : σ → Except ε α) : Changes R (read f) :=
  fun s => refl s

theorem changes_write (refl : ∀ s, R s s) {outcome : Except ε PUnit} {f : σ → σ}
    (changed : ∀ s, R s (f s)) : Changes R (write outcome f) := by
  intro s
  cases outcome with
  | ok _ => exact changed s
  | error _ => exact refl s

theorem Changes.of_eq {x : Handler σ ε α} {result : Except ε α} {s t : σ} (changes : Changes R x)
    (h : x s = (result, t)) : R s t := by
  have changed := changes s
  rwa [h] at changed

/-- The rule for two steps; the second one starts from what the first has returned. -/
theorem Changes.bind {x : Handler σ ε α} {f : α → Handler σ ε β}
    (trans : ∀ {s t r}, R s t → R t r → R s r) (first : Changes R x)
    (second : ∀ a s t, x s = (.ok a, t) → Changes R (f a)) : Changes R (x >>= f) := by
  intro s
  have changed := first s
  rcases hx : x s with ⟨e | a, t⟩ <;> rw [hx] at changed
  · rw [bind_apply_error hx]
    exact changed
  · rw [bind_apply_ok hx]
    exact trans changed (second a s t hx t)

end Handler
