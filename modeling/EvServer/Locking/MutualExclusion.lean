import EvServer.Locking.LockingManager
import Mathlib.Data.Fintype.Basic

/-!
# Mutual exclusion

A process that holds the lock has its document in the collection, and there is one
document for a lock, so two processes cannot both hold it: this is the invariant, as long
as nobody else removes the document.  A holder is done before its lock expires, and only
expired locks are to be removed.  But an expired lock is found by one step and deleted by
another, by its `_id`: in between somebody else may have removed it and inserted a fresh
one, which is then deleted in its place.
-/

namespace EvServer

namespace LockingManager

variable {P : Type} {p : P} {now : Timestamp} {stored stored' : Option (StoredLock P)}
variable {pc pc' : Pc} {action : Action}

/-- The lock that the process holds, if any. -/
def Pc.held : Pc → Option Lock
  | .holding lock => some lock
  | _ => none

@[simp] theorem held_fail (attempt : Attempt) : (fail attempt).held = none := by
  unfold fail
  split <;> rfl

/-- What a step of a process does to the collection and to the lock it holds. -/
inductive Effect (p : P) : Option (StoredLock P) → Pc → Action → Option (StoredLock P) → Pc → Prop
  /-- The lock is inserted and held. -/
  | inserts {pc : Pc} {action : Action} {pc' : Pc} {lock : Lock} :
      pc'.held = some lock → Effect p none pc action (some ⟨p, lock⟩) pc'
  /-- What is stored is deleted, as an expired lock. -/
  | deletes {stored : Option (StoredLock P)} {pc pc' : Pc} :
      pc'.held = none → Effect p stored pc .delete none pc'
  /-- What is stored is deleted, as the lock of the process. -/
  | releases {stored : Option (StoredLock P)} {pc pc' : Pc} {action : Action} {lock : Lock} :
      pc.held = some lock → pc'.held = none → Effect p stored pc action none pc'
  /-- The collection stays, and the process does not get the lock. -/
  | passes {stored : Option (StoredLock P)} {pc pc' : Pc} {action : Action} :
      pc'.held = none → Effect p stored pc action stored pc'

/-- Every step of a process is one of these. -/
theorem effect_of_act (h : act p now stored pc action = some (pc', stored')) :
    Effect p stored pc action stored' pc' := by
  unfold act at h
  split at h
  case h_1 | h_2 | h_6 | h_11 =>
    cases h
    exact .passes rfl
  case h_3 =>
    -- `insertLock`: nothing stored, or a lock is in the way.
    split at h
    · cases h
      exact .inserts rfl
    · cases h
      exact .passes rfl
    · cases h
      exact .passes (held_fail _)
  case h_4 =>
    split at h
    · cases h
      exact .passes rfl
    · cases h
      exact .passes (held_fail _)
  case h_5 | h_7 =>
    cases h
    exact .passes (by split <;> rfl)
  case h_8 =>
    cases h
    exact .deletes rfl
  case h_9 lock =>
    cases h
    exact .releases rfl rfl
  case h_10 | h_12 => cases h

end LockingManager

open LockingManager

namespace LockingState

variable {P : Type}

/-- The premise: whoever holds the lock is done with it before it expires. -/
def Timely (s : LockingState P) : Prop :=
  ∀ p, ∀ lock ∈ (s.pc p).held, ∀ date ∈ lock.expirationDate, s.now ≤ date

instance [Fintype P] : DecidablePred (Timely (P := P)) := fun s =>
  inferInstanceAs (Decidable (∀ p, ∀ lock ∈ (s.pc p).held, ∀ date ∈ lock.expirationDate, _))

/-- A process holds the lock. -/
def Holds (s : LockingState P) (p : P) : Prop := (s.pc p).held.isSome

/-- No two processes hold the lock. -/
def Exclusive (s : LockingState P) : Prop := ∀ p q, s.Holds p → s.Holds q → p = q

/-- The condition: a lock that is deleted as an expired one has expired. -/
def DeletesExpired (s : LockingState P) (event : LockingEvent P) : Prop :=
  ∀ p, event = .process p .delete → ∀ found ∈ s.stored, isExpired s.now found.lock.expirationDate

/-- The invariant: the lock that a process holds is the one stored, as its own. -/
def StoresHeld (s : LockingState P) : Prop :=
  ∀ p, ∀ lock ∈ (s.pc p).held, s.stored = some ⟨p, lock⟩

theorem StoresHeld.exclusive {s : LockingState P} (inv : s.StoresHeld) : s.Exclusive := by
  intro p q hp hq
  obtain ⟨lock, hlock⟩ := Option.isSome_iff_exists.mp hp
  obtain ⟨lock', hlock'⟩ := Option.isSome_iff_exists.mp hq
  have same := (inv p lock hlock).symm.trans (inv q lock' hlock')
  exact congrArg StoredLock.owner (Option.some.inj same)

/-- A lock that is held does not expire. -/
theorem not_isExpired_of_timely {s : LockingState P} (timely : s.Timely) {p : P} {lock : Lock}
    (held : lock ∈ (s.pc p).held) : ¬ isExpired s.now lock.expirationDate := by
  intro expired
  obtain ⟨date, hdate, past⟩ := (Option.any_eq_true _ _).mp expired
  exact absurd (of_decide_eq_true past) (not_lt.mpr (timely p lock held date hdate))

theorem storesHeld_start (now : Timestamp) : (start now : LockingState P).StoresHeld := by
  intro p lock held
  cases held

theorem timely_start (now : Timestamp) : (start now : LockingState P).Timely := by
  intro p lock held
  cases held

variable [DecidableEq P] {s s' : LockingState P} {event : LockingEvent P}

/-- A step to a state in which the premise holds. -/
def TimelyStep (s : LockingState P) (event : LockingEvent P) (s' : LockingState P) : Prop :=
  s.next event = some s' ∧ s'.Timely

/-- The process that stores and holds after a step is the only one, if nobody else held
the lock before it. -/
theorem StoresHeld.update {p : P} {pc' : Pc} {stored' : Option (StoredLock P)}
    (mine : ∀ lock ∈ pc'.held, stored' = some ⟨p, lock⟩)
    (others : ∀ q, q ≠ p → ∀ lock ∈ (s.pc q).held, stored' = some ⟨q, lock⟩) :
    StoresHeld { s with stored := stored', pc := Function.update s.pc p pc' } := by
  intro q lock held
  change lock ∈ (Function.update s.pc p pc' q).held at held
  rcases eq_or_ne q p with rfl | other
  · rw [Function.update_self] at held
    exact mine lock held
  · rw [Function.update_of_ne other] at held
    exact others q other lock held

/-- **A step keeps the invariant**, if it deletes no lock that has not expired. -/
theorem StoresHeld.step (inv : s.StoresHeld) (timely : s.Timely)
    (deletes : s.DeletesExpired event) (step : s.next event = some s') : s'.StoresHeld := by
  cases event with
  | tick later =>
      simp only [next, Option.ite_none_right_eq_some, Option.some.injEq] at step
      obtain ⟨-, rfl⟩ := step
      exact inv
  | process p action =>
      obtain ⟨⟨pc', stored'⟩, hact, rfl⟩ := Option.map_eq_some_iff.mp step
      have effect := effect_of_act hact
      generalize hstored : s.stored = stored at effect
      generalize hpc : s.pc p = pc at effect
      cases effect with
      | inserts held =>
          refine .update ?_ ?_
          · intro lock hlock
            rw [Option.mem_unique hlock held]
          · -- Nothing was stored, so nobody held the lock.
            intro q _ lock hlock
            rw [inv q lock hlock] at hstored
            cases hstored
      | deletes notHeld =>
          refine .update (fun lock hlock => ?_) ?_
          · rw [notHeld] at hlock
            cases hlock
          · -- What was stored has expired, so nobody held it.
            intro q _ lock hlock
            have expired := deletes p rfl _ (inv q lock hlock)
            exact absurd expired (not_isExpired_of_timely timely hlock)
      | releases held notHeld =>
          refine .update (fun lock hlock => ?_) ?_
          · rw [notHeld] at hlock
            cases hlock
          · -- The process itself held the lock.
            intro q other lock hlock
            rw [← hpc] at held
            have same := (inv q lock hlock).symm.trans (inv p _ held)
            exact absurd (congrArg StoredLock.owner (Option.some.inj same)) other
      | passes notHeld =>
          refine .update (fun lock hlock => ?_) ?_
          · rw [notHeld] at hlock
            cases hlock
          · intro q _ lock hlock
            rw [← hstored]
            exact inv q lock hlock

/-- **Mutual exclusion.**  In every run, of any number of processes, in which the holders
are done before their locks expire and only expired locks are deleted as such, no two
processes hold the lock. -/
theorem exclusive_of_run {now : Timestamp} {events : List (LockingEvent P)}
    (run : Transition.Run (Transition.guarded DeletesExpired TimelyStep) (start now) events s) :
    s.Exclusive := by
  have inv : s.StoresHeld ∧ s.Timely :=
    run.invariant (I := fun s => s.StoresHeld ∧ s.Timely)
      ⟨storesHeld_start now, timely_start now⟩
      fun _ _ _ inv step => ⟨inv.1.step inv.2 step.1 step.2.1, step.2.2⟩
  exact inv.1.exclusive

/-- Process `0` takes the lock for 600 seconds and crashes; `1` and `2` come later and
find it in their way. -/
def exampleContention : List (LockingEvent (Fin 3)) :=
  [.process 0 (.acquire 600 0), .process 0 .enter, .process 0 .insert, .process 0 .crash,
    .tick 700000,
    .process 1 (.acquire 600 0), .process 1 .enter, .process 1 .insert,
    .process 2 (.acquire 600 0), .process 2 .enter, .process 2 .insert]

/-- Process `1` finds the lock expired, deletes it and takes it. -/
def exampleTakeover : List (LockingEvent (Fin 3)) :=
  [.process 1 .count, .process 1 .read, .process 1 .check, .process 1 .delete,
    .process 1 .enter, .process 1 .insert]

instance : ∀ (s : LockingState (Fin 3)) (event : LockingEvent (Fin 3)),
    Decidable (s.DeletesExpired event) := fun s event =>
  inferInstanceAs (Decidable (∀ p, event = .process p .delete → ∀ found ∈ s.stored, _))

/-- The takeover alone keeps to the condition. -/
theorem exclusive_of_run_takeover :
    ∃ s : LockingState (Fin 3),
      Transition.Run (Transition.guarded DeletesExpired TimelyStep) (start 0)
        (exampleContention ++ exampleTakeover) s ∧
      s.pc 1 = .holding (createLock 700000 600) ∧ s.Exclusive := by
  have reached : (Transition.follow next (fun s event s' => s.DeletesExpired event ∧ s'.Timely)
      (start 0) (exampleContention ++ exampleTakeover)).map (fun s => s.pc 1) =
        some (.holding (createLock 700000 600)) := by
    decide +kernel
  obtain ⟨s, hs, holds⟩ := Option.map_eq_some_iff.mp reached
  have run : Transition.Run (Transition.guarded DeletesExpired TimelyStep) (start 0)
      (exampleContention ++ exampleTakeover) s :=
    .of_follow (fun _ _ _ computed admitted => ⟨admitted.1, computed, admitted.2⟩) hs
  exact ⟨s, run, holds, exclusive_of_run run⟩

/-- Process `2` has found the lock expired before the takeover.  It then deletes the
fresh lock of process `1`, and both hold the lock. -/
theorem not_exclusive_after_stale_delete :
    ∃ s : LockingState (Fin 3),
      Transition.Run TimelyStep (start 0)
        (exampleContention ++
          [.process 2 .count, .process 2 .read, .process 2 .check] ++ exampleTakeover ++
          [.process 2 .delete, .process 2 .enter, .process 2 .insert]) s ∧
      ¬ s.Exclusive := by
  have reached : (Transition.follow next (fun _ _ s' => s'.Timely) (start 0)
      (exampleContention ++
        [.process 2 .count, .process 2 .read, .process 2 .check] ++ exampleTakeover ++
        [.process 2 .delete, .process 2 .enter, .process 2 .insert])).map
          (fun s => ((s.pc 1).held.isSome, (s.pc 2).held.isSome)) = some (true, true) := by
    decide +kernel
  obtain ⟨s, hs, holds⟩ := Option.map_eq_some_iff.mp reached
  rw [Prod.mk.injEq] at holds
  refine ⟨s, .of_follow (fun _ _ _ computed admitted => ⟨computed, admitted⟩) hs, ?_⟩
  intro exclusive
  exact absurd (exclusive 1 2 holds.1 holds.2) (by decide)

end LockingState

end EvServer
