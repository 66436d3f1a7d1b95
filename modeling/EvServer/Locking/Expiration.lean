import EvServer.Locking.MutualExclusion

/-!
# The expiration date of a lock that has been acquired

The lock is created, with its dates, before `acquire` is called with it, and `acquire` may
wait for as long as its timeout.  The lock that it inserts in the end is the one it was
called with: it belongs to the caller, but its validity has been running while the caller
was waiting.
-/

namespace EvServer

namespace LockingManager

/-- What a process has asked for: the validity, and the date of the request. -/
structure Request where
  lockValiditySecs : ℤ
  date : Timestamp
  deriving DecidableEq, Repr

/-- The lock created for the request. -/
def Request.lock (request : Request) : Lock := createLock request.date request.lockValiditySecs

/-- The lock expires as one that is created now with the requested validity. -/
def ExpiresAsRequested (lock : Lock) (now : Timestamp) (lockValiditySecs : ℤ) : Prop :=
  lock.expirationDate = (createLock now lockValiditySecs).expirationDate

instance (lock : Lock) (now : Timestamp) (lockValiditySecs : ℤ) :
    Decidable (ExpiresAsRequested lock now lockValiditySecs) :=
  inferInstanceAs (Decidable (_ = _))

/-- A lock without a validity never expires; the date of another one is counted from its
creation. -/
theorem Request.expiresAsRequested_iff (request : Request) (now : Timestamp) :
    ExpiresAsRequested request.lock now request.lockValiditySecs ↔
      request.lockValiditySecs ≤ 0 ∨ request.date = now := by
  unfold ExpiresAsRequested Request.lock createLock
  dsimp only
  split
  · rename_i positive
    rw [Option.some.injEq, add_left_inj]
    refine ⟨Or.inr, fun h => h.resolve_left ?_⟩
    exact not_le.mpr positive
  · rename_i notPositive
    exact iff_of_true rfl (Or.inl (not_lt.mp notPositive))

/-- The lock that a process wants or has. -/
def Pc.lock : Pc → Option Lock
  | .idle => none
  | .entering attempt => some attempt.lock
  | .inserting attempt _ => some attempt.lock
  | .sleeping attempt _ => some attempt.lock
  | .counting attempt => some attempt.lock
  | .reading attempt => some attempt.lock
  | .checking attempt _ => some attempt.lock
  | .deleting attempt => some attempt.lock
  | .holding lock => some lock
  | .crashed => none

theorem Pc.lock_of_held {pc : Pc} {lock : Lock} (held : pc.held = some lock) :
    pc.lock = some lock := by
  cases pc <;> first | exact held | cases held

theorem lock_fail {attempt : Attempt} {lock : Lock} (h : (fail attempt).lock = some lock) :
    lock = attempt.lock := by
  unfold fail at h
  split at h
  · exact (Option.some.inj h).symm
  · cases h

variable {P : Type} {p : P} {now : Timestamp} {stored stored' : Option (StoredLock P)}
variable {pc pc' : Pc} {action : Action}

/-- A process wants the lock it has created when it has called `acquire`, until it has
released it. -/
theorem lock_of_act (h : act p now stored pc action = some (pc', stored')) {lock : Lock}
    (wanted : pc'.lock = some lock) :
    pc.lock = some lock ∧ (∀ lockValiditySecs timeoutSecs,
        action ≠ .acquire lockValiditySecs timeoutSecs) ∨
      ∃ lockValiditySecs timeoutSecs, action = .acquire lockValiditySecs timeoutSecs ∧
        lock = createLock now lockValiditySecs := by
  unfold act at h
  split at h
  case h_1 lockValiditySecs timeoutSecs =>
    cases h
    exact .inr ⟨lockValiditySecs, timeoutSecs, rfl, (Option.some.inj wanted).symm⟩
  case h_2 | h_6 =>
    cases h
    exact .inl ⟨wanted, by simp⟩
  case h_3 =>
    split at h
    · cases h
      exact .inl ⟨wanted, by simp⟩
    · cases h
      exact .inl ⟨wanted, by simp⟩
    · cases h
      exact .inl ⟨congrArg some (lock_fail wanted).symm, by simp⟩
  case h_4 =>
    split at h
    · cases h
      exact .inl ⟨wanted, by simp⟩
    · cases h
      exact .inl ⟨congrArg some (lock_fail wanted).symm, by simp⟩
  case h_5 | h_7 =>
    cases h
    refine .inl ⟨?_, by simp⟩
    split at wanted
    · exact wanted
    · cases wanted
  case h_8 =>
    cases h
    exact .inl ⟨wanted, by simp⟩
  case h_9 | h_11 =>
    cases h
    cases wanted
  case h_10 | h_12 => cases h

end LockingManager

open LockingManager

/-- The processes and the collection, with the last request of each process. -/
structure RequestState (P : Type) where
  locking : LockingState P
  request : P → Option Request

namespace RequestState

variable {P : Type}

/-- No lock, and no request. -/
def start (now : Timestamp) : RequestState P := ⟨.start now, fun _ => none⟩

/-- The invariant: the lock that a process wants or has is the one of its last request. -/
def WantsRequested (s : RequestState P) : Prop :=
  ∀ p lock, (s.locking.pc p).lock = some lock →
    ∃ request, s.request p = some request ∧ lock = request.lock

theorem wantsRequested_start (now : Timestamp) : (start now : RequestState P).WantsRequested := by
  intro p lock wanted
  cases wanted

variable [DecidableEq P]

/-- The requests after an event. -/
def requests (s : RequestState P) : LockingEvent P → P → Option Request
  | .process p (.acquire lockValiditySecs _) =>
      Function.update s.request p (some ⟨lockValiditySecs, s.locking.now⟩)
  | _ => s.request

/-- The state after an event. -/
def next (s : RequestState P) (event : LockingEvent P) : Option (RequestState P) :=
  (s.locking.next event).map fun locking => ⟨locking, s.requests event⟩

def Step (s : RequestState P) (event : LockingEvent P) (s' : RequestState P) : Prop :=
  s.next event = some s'

/-- In the step `acquire` returns `true` to the process `p`, which then has the lock. -/
def Acquires (s s' : RequestState P) (p : P) (lock : Lock) : Prop :=
  ¬ s.locking.Holds p ∧ (s'.locking.pc p).held = some lock

variable {s s' : RequestState P} {event : LockingEvent P}

/-- The requests of the others stay, and so does that of a process that does not call
`acquire`. -/
theorem requests_process {p q : P} {action : Action}
    (other : q = p → ∀ lockValiditySecs timeoutSecs,
      action ≠ .acquire lockValiditySecs timeoutSecs) :
    s.requests (.process p action) q = s.request q := by
  cases action with
  | acquire lockValiditySecs timeoutSecs =>
      exact Function.update_of_ne (fun h => other h lockValiditySecs timeoutSecs rfl) _ _
  | _ => rfl

/-- **A step keeps the invariant.** -/
theorem WantsRequested.step (inv : s.WantsRequested) (step : Step s event s') :
    s'.WantsRequested := by
  obtain ⟨locking, hnext, rfl⟩ := Option.map_eq_some_iff.mp step
  intro q lock wanted
  change (locking.pc q).lock = some lock at wanted
  change ∃ request, s.requests event q = some request ∧ lock = request.lock
  cases event with
  | tick later =>
      simp only [LockingState.next, Option.ite_none_right_eq_some, Option.some.injEq] at hnext
      obtain ⟨-, rfl⟩ := hnext
      exact inv q lock wanted
  | process p action =>
      obtain ⟨⟨pc', stored'⟩, hact, rfl⟩ := Option.map_eq_some_iff.mp hnext
      change (Function.update s.locking.pc p pc' q).lock = some lock at wanted
      rcases eq_or_ne q p with rfl | other
      · rw [Function.update_self] at wanted
        rcases lock_of_act hact wanted with ⟨before, noAcquire⟩ |
          ⟨lockValiditySecs, timeoutSecs, rfl, rfl⟩
        · rw [requests_process fun _ => noAcquire]
          exact inv q lock before
        · exact ⟨⟨lockValiditySecs, s.locking.now⟩, Function.update_self _ _ _, rfl⟩
      · rw [Function.update_of_ne other] at wanted
        rw [requests_process fun h => absurd h other]
        exact inv q lock wanted

/-- What is acquired is inserted in that step: the time stands still, and the document is
that of the process. -/
theorem Acquires.stored {p : P} {lock : Lock} (acquires : s.Acquires s' p lock)
    (step : Step s event s') :
    s'.locking.stored = some ⟨p, lock⟩ ∧ s'.locking.now = s.locking.now := by
  obtain ⟨locking, hnext, rfl⟩ := Option.map_eq_some_iff.mp step
  obtain ⟨notHeld, held⟩ := acquires
  change (locking.pc p).held = some lock at held
  cases event with
  | tick later =>
      simp only [LockingState.next, Option.ite_none_right_eq_some, Option.some.injEq] at hnext
      obtain ⟨-, rfl⟩ := hnext
      exact absurd (Option.isSome_of_eq_some held) notHeld
  | process q action =>
      obtain ⟨⟨pc', stored'⟩, hact, rfl⟩ := Option.map_eq_some_iff.mp hnext
      change (Function.update s.locking.pc q pc' p).held = some lock at held
      rcases eq_or_ne p q with rfl | other
      · rw [Function.update_self] at held
        refine ⟨?_, rfl⟩
        change stored' = some ⟨p, lock⟩
        have effect := effect_of_act hact
        generalize s.locking.stored = stored at effect
        generalize s.locking.pc p = pc at effect
        cases effect with
        | inserts inserted =>
            rw [Option.some.inj (held.symm.trans inserted)]
        | deletes lost | releases _ lost | passes lost => cases held.symm.trans lost
      · rw [Function.update_of_ne other] at held
        exact absurd (Option.isSome_of_eq_some held) notHeld

/-- **The validity of an acquired lock.**  In every run of any number of processes, when
`acquire` returns `true` the document stored is the caller's, and it expires after the
requested validity if and only if the lock has been created at that very moment, or has no
validity. -/
theorem expiresAsRequested_iff_of_run {now : Timestamp} {events : List (LockingEvent P)}
    (run : Transition.Run Step (start now) events s) (step : Step s event s') {p : P}
    {lock : Lock} (acquires : s.Acquires s' p lock) :
    ∃ request, s'.request p = some request ∧ s'.locking.stored = some ⟨p, lock⟩ ∧
      (ExpiresAsRequested lock s'.locking.now request.lockValiditySecs ↔
        request.lockValiditySecs ≤ 0 ∨ request.date = s'.locking.now) := by
  have inv : s'.WantsRequested :=
    (run.invariant (wantsRequested_start now) fun _ _ _ inv step => inv.step step).step step
  obtain ⟨request, hrequest, rfl⟩ := inv p lock (Pc.lock_of_held acquires.2)
  refine ⟨request, hrequest, (acquires.stored step).1, ?_⟩
  exact request.expiresAsRequested_iff s'.locking.now

/-- The calls of `acquireChargingStationLock` on one station: the lock is valid for five
seconds, and the caller waits for it up to ten.  Process `q` has created its lock when `p`
comes first, and it gets the lock four seconds later, when `p` is done in time. -/
def exampleWait (p q : Fin 2) : List (LockingEvent (Fin 2)) :=
  [.process q (.acquire 5 10), .tick 3000,
    .process p (.acquire 5 10), .process p .enter, .process p .insert,
    .process q .enter, .process q .insert, .tick 7000, .process p .release,
    .process q .wake]

/-- A lock that is there for the taking. -/
theorem expiresAsRequested_iff_of_run_fresh :
    ∃ s : RequestState (Fin 2), ∃ request, s.request 0 = some request ∧
      s.locking.stored = some ⟨0, createLock 3000 5⟩ ∧
      (ExpiresAsRequested (createLock 3000 5) s.locking.now request.lockValiditySecs ↔
        request.lockValiditySecs ≤ 0 ∨ request.date = s.locking.now) := by
  have reached : ((Transition.follow next (fun _ _ _ => True) (start 0)
      ((exampleWait 0 1).take 4)).bind fun s => (s.next (.process 0 .insert)).map fun s' =>
        ((s.locking.pc 0).held, (s'.locking.pc 0).held)) =
          some (none, some (createLock 3000 5)) := by
    decide +kernel
  obtain ⟨s, hs, after⟩ := Option.bind_eq_some_iff.mp reached
  obtain ⟨s', step, holds⟩ := Option.map_eq_some_iff.mp after
  obtain ⟨notHeld, held⟩ := Prod.mk.inj holds
  refine ⟨s', expiresAsRequested_iff_of_run
    (.of_follow (fun _ _ _ computed _ => computed) hs) step ⟨?_, held⟩⟩
  intro holder
  rw [LockingState.Holds, notHeld] at holder
  cases holder

/-- Process `1` gets a lock that has expired two seconds ago. -/
theorem acquires_expired :
    ∃ s s' : RequestState (Fin 2), ∃ lock,
      Transition.Run Step (start 0) (exampleWait 0 1) s ∧
      Step s (.process 1 .insert) s' ∧ s.Acquires s' 1 lock ∧
      s'.request 1 = some ⟨5, 0⟩ ∧ s'.locking.now = 7000 ∧
      isExpired s'.locking.now lock.expirationDate ∧
      ¬ ExpiresAsRequested lock s'.locking.now 5 := by
  have reached : ((Transition.follow next (fun _ _ _ => True) (start 0) (exampleWait 0 1)).bind
      fun s => (s.next (.process 1 .insert)).map fun s' =>
        ((s.locking.pc 1).held, (s'.locking.pc 1).held, s'.request 1, s'.locking.now)) =
          some (none, some (createLock 0 5), some ⟨5, 0⟩, 7000) := by
    decide +kernel
  obtain ⟨s, hs, after⟩ := Option.bind_eq_some_iff.mp reached
  obtain ⟨s', step, holds⟩ := Option.map_eq_some_iff.mp after
  simp only [Prod.mk.injEq] at holds
  obtain ⟨notHeld, held, request, now⟩ := holds
  refine ⟨s, s', createLock 0 5, .of_follow (fun _ _ _ computed _ => computed) hs, step,
    ⟨?_, held⟩, request, now, ?_, ?_⟩
  · intro holder
    rw [LockingState.Holds, notHeld] at holder
    cases holder
  · rw [now]
    decide
  · rw [now]
    decide

end RequestState

end EvServer
