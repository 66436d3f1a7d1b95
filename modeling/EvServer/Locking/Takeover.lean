import EvServer.Locking.MutualExclusion

/-!
# Releasing a lock that has been taken over

A lock is deleted by its `_id`, which says what is locked and not who has locked it.  A
process that overruns the validity of its lock may find another one there when it releases
its own: the expired lock has been deleted in the meantime, and somebody else has inserted
a new one.  Such a takeover is written down in the state, for the proofs; no step reads it.
-/

namespace EvServer

open LockingManager

/-- The processes and the collection, with the holders whose document has been deleted. -/
structure TakeoverState (P : Type) where
  locking : LockingState P
  takenOver : P → Bool

namespace TakeoverState

variable {P : Type}

/-- No lock, and nobody who wants one. -/
def start (now : Timestamp) : TakeoverState P := ⟨.start now, fun _ => false⟩

/-- The invariant: a holder has its document in the collection, unless it has been
deleted, and then there is none of its own. -/
structure Tracks (s : TakeoverState P) : Prop where
  stored : ∀ p lock, (s.locking.pc p).held = some lock → s.takenOver p = false →
    s.locking.stored = some ⟨p, lock⟩
  foreign : ∀ p, s.takenOver p = true → ∀ found ∈ s.locking.stored, found.owner ≠ p
  holds : ∀ p, s.takenOver p = true → s.locking.Holds p

theorem tracks_start (now : Timestamp) : (start now : TakeoverState P).Tracks where
  stored := by
    intro p lock held
    cases held
  foreign := by
    intro p takenOver
    cases takenOver
  holds := by
    intro p takenOver
    cases takenOver

/-- A holder is one no more after its next step. -/
theorem not_held_of_act {p : P} {now : Timestamp} {stored stored' : Option (StoredLock P)}
    {pc pc' : Pc} {action : Action} {lock : Lock} (held : pc.held = some lock)
    (h : act p now stored pc action = some (pc', stored')) : pc'.held = none := by
  cases pc <;> first | cases held
  cases action <;> cases h <;> rfl

variable [DecidableEq P]

/-- The document of the process is there in the first state, and no more in the second. -/
def loses (s s' : LockingState P) (p : P) : Bool :=
  s.stored.any (fun found => found.owner = p) && s'.stored.isNone

/-- The holders whose document has been deleted, after a step. -/
def takenOverAfter (s : TakeoverState P) (locking : LockingState P) (p : P) : Bool :=
  (locking.pc p).held.isSome && (s.takenOver p || loses s.locking locking p)

/-- The state after an event. -/
def next (s : TakeoverState P) (event : LockingEvent P) : Option (TakeoverState P) :=
  (s.locking.next event).map fun locking => ⟨locking, s.takenOverAfter locking⟩

def Step (s : TakeoverState P) (event : LockingEvent P) (s' : TakeoverState P) : Prop :=
  s.next event = some s'

/-- Whatever the process removes when it releases its lock is its own document. -/
def RemovesOwn (s s' : LockingState P) (p : P) : Prop :=
  ∀ found ∈ s.stored, found ∉ s'.stored → found.owner = p

variable {s s' : TakeoverState P} {event : LockingEvent P}

/-- What an event does to the collection and to the holders. -/
inductive Change (s s' : LockingState P) : Prop
  /-- A process that does not hold the lock inserts its own. -/
  | inserts (q : P) (lock : Lock) : s.stored = none → s'.stored = some ⟨q, lock⟩ →
      ¬ s.Holds q → (s'.pc q).held = some lock →
      (∀ p, p ≠ q → (s'.pc p).held = (s.pc p).held) → Change s s'
  /-- What is stored is deleted, and nobody gets the lock. -/
  | removes : s'.stored = none →
      (∀ p lock, (s'.pc p).held = some lock → (s.pc p).held = some lock) → Change s s'
  | keeps : s'.stored = s.stored →
      (∀ p lock, (s'.pc p).held = some lock → (s.pc p).held = some lock) → Change s s'

theorem change_of_next {s s' : LockingState P} (hnext : s.next event = some s') :
    Change s s' := by
  cases event with
  | tick later =>
      simp only [LockingState.next, Option.ite_none_right_eq_some, Option.some.injEq] at hnext
      obtain ⟨-, rfl⟩ := hnext
      exact .keeps rfl fun _ _ held => held
  | process q action =>
      obtain ⟨⟨pc', stored'⟩, hact, rfl⟩ := Option.map_eq_some_iff.mp hnext
      have others : ∀ p, p ≠ q → (Function.update s.pc q pc' p).held = (s.pc p).held := by
        intro p other
        rw [Function.update_of_ne other]
      have stays (lost : pc'.held = none) : ∀ p lock,
          (Function.update s.pc q pc' p).held = some lock → (s.pc p).held = some lock := by
        intro p lock held
        rcases eq_or_ne p q with rfl | other
        · rw [Function.update_self, lost] at held
          cases held
        · rw [← others p other, held]
      have effect := effect_of_act hact
      generalize hstored : s.stored = stored at effect
      generalize hpc : s.pc q = pc at effect
      cases effect with
      | inserts held =>
          refine .inserts q _ hstored rfl ?_ ?_ others
          · intro holds
            obtain ⟨lock, hlock⟩ := Option.isSome_iff_exists.mp holds
            cases held.symm.trans (not_held_of_act hlock hact)
          · exact (congrArg Pc.held (Function.update_self ..)).trans held
      | deletes lost | releases _ lost => exact .removes rfl (stays lost)
      | passes lost => exact .keeps hstored.symm (stays lost)

/-- Nobody loses a document that stays. -/
theorem loses_of_stored_eq {s s' : LockingState P} (same : s'.stored = s.stored) (p : P) :
    loses s s' p = false := by
  unfold loses
  rw [same]
  cases s.stored <;> simp

theorem loses_of_none {s : LockingState P} (s' : LockingState P) (none : s.stored = none) (p : P) :
    loses s s' p = false := by
  unfold loses
  rw [none]
  rfl

theorem takenOverAfter_iff {locking : LockingState P} {p : P} :
    s.takenOverAfter locking p = true ↔
      locking.Holds p ∧ (s.takenOver p = true ∨ loses s.locking locking p = true) := by
  rw [takenOverAfter, Bool.and_eq_true, Bool.or_eq_true]
  exact Iff.rfl

/-- **A step keeps the invariant.** -/
theorem Tracks.step (inv : s.Tracks) (step : Step s event s') : s'.Tracks := by
  obtain ⟨locking, hnext, rfl⟩ := Option.map_eq_some_iff.mp step
  have holds : ∀ p, s.takenOverAfter locking p = true → locking.Holds p :=
    fun p takenOver => (takenOverAfter_iff.mp takenOver).1
  cases change_of_next hnext with
  | inserts q lock none stored notHeld held others =>
      refine ⟨?_, ?_, holds⟩
      · -- Nothing was stored, so whoever held the lock before has lost its document.
        intro p lock' held' notTaken
        rcases eq_or_ne p q with rfl | other
        · obtain rfl := Option.some.inj (held.symm.trans held')
          exact stored
        · have before := (others p other).symm.trans held'
          refine absurd ?_ (ne_true_of_eq_false notTaken)
          refine takenOverAfter_iff.mpr ⟨Option.isSome_of_eq_some held', .inl ?_⟩
          by_contra notBefore
          cases none.symm.trans (inv.stored p lock' before (eq_false_of_ne_true notBefore))
      · intro p takenOver found hfound
        obtain ⟨-, before | lost⟩ := takenOverAfter_iff.mp takenOver
        · obtain rfl := Option.mem_unique hfound stored
          rintro rfl
          exact notHeld (inv.holds q before)
        · rw [loses_of_none locking none] at lost
          cases lost
  | removes stored before =>
      refine ⟨?_, ?_, holds⟩
      · intro p lock held notTaken
        refine absurd ?_ (ne_true_of_eq_false notTaken)
        refine takenOverAfter_iff.mpr ⟨Option.isSome_of_eq_some held, ?_⟩
        cases taken : s.takenOver p with
        | true => exact .inl rfl
        | false =>
            have mine := inv.stored p lock (before p lock held) taken
            exact .inr (by simp [loses, mine, stored])
      · intro p _ found hfound
        cases hfound.symm.trans stored
  | keeps stored before =>
      refine ⟨?_, ?_, holds⟩
      · intro p lock held notTaken
        rw [stored]
        refine inv.stored p lock (before p lock held) ?_
        by_contra taken
        refine absurd ?_ (ne_true_of_eq_false notTaken)
        exact takenOverAfter_iff.mpr
          ⟨Option.isSome_of_eq_some held, .inl (eq_true_of_ne_false taken)⟩
      · intro p takenOver found hfound
        obtain ⟨-, taken | lost⟩ := takenOverAfter_iff.mp takenOver
        · exact inv.foreign p taken found (stored ▸ hfound)
        · rw [loses_of_stored_eq stored] at lost
          cases lost

/-- `release` deletes what is there. -/
theorem stored_of_release {s s' : LockingState P} {p : P}
    (release : s.next (.process p .release) = some s') : s.Holds p ∧ s'.stored = none := by
  obtain ⟨⟨pc', stored'⟩, hact, rfl⟩ := Option.map_eq_some_iff.mp release
  unfold LockingState.Holds
  cases hpc : s.pc p with
  | holding lock =>
      rw [hpc] at hact
      cases hact
      exact ⟨rfl, rfl⟩
  | _ =>
      rw [hpc] at hact
      cases hact

/-- **What a release removes.**  In every run of any number of processes, with holders that
overrun the validity of their lock, a process that releases its lock removes nobody else's
if and only if its own has not been taken over, or nobody has the lock now. -/
theorem removesOwn_iff_of_run {now : Timestamp} {events : List (LockingEvent P)}
    (run : Transition.Run Step (start now) events s) {p : P}
    (release : Step s (.process p .release) s') :
    RemovesOwn s.locking s'.locking p ↔ s.takenOver p = false ∨ s.locking.stored = none := by
  have inv : s.Tracks := run.invariant (tracks_start now) fun _ _ _ inv step => inv.step step
  obtain ⟨locking, hnext, rfl⟩ := Option.map_eq_some_iff.mp release
  obtain ⟨holds, removed⟩ := stored_of_release hnext
  constructor
  · intro own
    refine or_iff_not_imp_left.mpr fun taken => ?_
    rw [Option.eq_none_iff_forall_not_mem]
    intro found hfound
    refine inv.foreign p (eq_true_of_ne_false taken) found hfound (own found hfound ?_)
    rw [removed]
    exact Option.not_mem_none found
  · rintro (notTaken | none) found hfound -
    · obtain ⟨lock, held⟩ := Option.isSome_iff_exists.mp holds
      rw [Option.mem_unique hfound (inv.stored p lock held notTaken)]
    · cases hfound.symm.trans none

/-- Process `p` has a lock for five seconds and needs ten; `q` finds it expired and takes
it over. -/
def exampleTakenOver (p q : Fin 2) : List (LockingEvent (Fin 2)) :=
  [.process p (.acquire 5 0), .process p .enter, .process p .insert, .tick 6000,
    .process q (.acquire 5 0), .process q .enter, .process q .insert,
    .process q .count, .process q .read, .process q .check, .process q .delete,
    .process q .enter, .process q .insert, .tick 10000]

/-- A holder that overruns the validity of its lock, with nobody else around. -/
theorem removesOwn_iff_of_run_alone :
    ∃ s s' : TakeoverState (Fin 2), s.takenOver 0 = false ∧
      (RemovesOwn s.locking s'.locking 0 ↔ s.takenOver 0 = false ∨ s.locking.stored = none) := by
  have reached : ((Transition.follow next (fun _ _ _ => True) (start 0)
      ((exampleTakenOver 0 1).take 4)).bind fun s =>
        (s.next (.process 0 .release)).map fun _ => s.takenOver 0) = some false := by
    decide +kernel
  obtain ⟨s, hs, after⟩ := Option.bind_eq_some_iff.mp reached
  obtain ⟨s', release, notTaken⟩ := Option.map_eq_some_iff.mp after
  exact ⟨s, s', notTaken, removesOwn_iff_of_run
    (.of_follow (fun _ _ _ computed _ => computed) hs) release⟩

/-- Process `0` removes the lock of process `1`. -/
theorem removes_foreign :
    ∃ s s' : TakeoverState (Fin 2),
      Transition.Run Step (start 0) (exampleTakenOver 0 1) s ∧
      Step s (.process 0 .release) s' ∧ s'.locking.Holds 1 ∧
      ¬ RemovesOwn s.locking s'.locking 0 := by
  have reached : ((Transition.follow next (fun _ _ _ => True) (start 0) (exampleTakenOver 0 1)).bind
      fun s => (s.next (.process 0 .release)).map fun s' =>
        (s.locking.stored, s'.locking.stored, (s'.locking.pc 1).held)) =
          some (some ⟨1, createLock 6000 5⟩, none, some (createLock 6000 5)) := by
    decide +kernel
  obtain ⟨s, hs, after⟩ := Option.bind_eq_some_iff.mp reached
  obtain ⟨s', release, holds⟩ := Option.map_eq_some_iff.mp after
  simp only [Prod.mk.injEq] at holds
  obtain ⟨stored, removed, held⟩ := holds
  refine ⟨s, s', .of_follow (fun _ _ _ computed _ => computed) hs, release,
    Option.isSome_of_eq_some held, ?_⟩
  intro own
  refine absurd (own _ stored ?_) (by decide)
  rw [removed]
  exact Option.not_mem_none _

end TakeoverState

end EvServer
