import EvServer.Lib.Runs
import EvServer.Utils

/-!
# Exclusive locks in the database (`LockingManager`, `LockingStorage`)

A lock is a document whose `_id` is a hash of what is locked, so it can be inserted only
when it is not there.  A process that cannot insert it looks whether the lock that is
there has expired.  If it has, the process deletes the lock and tries once more.

The state is that of one `_id`: the stored document, the time, and where each process is
in its call of `acquire`.  The steps of a process are its accesses to the collection,
each atomic, and what it does in between.  `getLock` is two accesses, one that counts and
one that reads.  The owner of a stored lock is written down for the proofs; no step reads
it.
-/

namespace EvServer

/-- The dates of a `Lock`; the lock has no expiration date when its validity is not
positive. -/
structure Lock where
  timestamp : Timestamp
  expirationDate : Option Timestamp
  deriving DecidableEq, Repr

namespace LockingManager

/-- `createLock` at a time. -/
def createLock (now : Timestamp) (lockValiditySecs : ℤ) : Lock :=
  { timestamp := now
    expirationDate := if 0 < lockValiditySecs then some (now + lockValiditySecs * 1000) else none }

/-- The arguments of a call of `acquire`. -/
structure Attempt where
  lock : Lock
  timeoutSecs : ℤ
  retry : Bool
  deriving DecidableEq, Repr

/-- Where a process is. -/
inductive Pc
  /-- Outside of `acquire`, without the lock. -/
  | idle
  /-- At the start of `acquireExclusiveLock`. -/
  | entering (attempt : Attempt)
  /-- Before `insertLock`; with a date, in the loop that waits until then. -/
  | inserting (attempt : Attempt) (timeoutDateMs : Option Timestamp)
  /-- In the loop, asleep after `insertLock` has failed. -/
  | sleeping (attempt : Attempt) (timeoutDateMs : Timestamp)
  /-- In `checkAndReleaseExpiredLock`, before the count of `getLock`. -/
  | counting (attempt : Attempt)
  /-- Before the read of `getLock`. -/
  | reading (attempt : Attempt)
  /-- With the expiration date that was read. -/
  | checking (attempt : Attempt) (expirationDate : Option Timestamp)
  /-- Before `deleteLock` of the lock found to be expired. -/
  | deleting (attempt : Attempt)
  /-- `acquire` has returned `true`. -/
  | holding (lock : Lock)
  | crashed
  deriving DecidableEq, Repr

/-- A step of a process. -/
inductive Action
  /-- Create a lock and call `acquire` with it. -/
  | acquire (lockValiditySecs timeoutSecs : ℤ)
  | enter
  | insert
  | wake
  | count
  | read
  | check
  | delete
  /-- `release` of the lock the process holds. -/
  | release
  | crash
  deriving DecidableEq, Repr

/-- A document of the collection. -/
structure StoredLock (P : Type) where
  owner : P
  lock : Lock
  deriving DecidableEq, Repr

/-- `acquireExclusiveLock` has thrown: look for an expired lock, once. -/
def fail (attempt : Attempt) : Pc := if attempt.retry then .counting attempt else .idle

/-- The test of `checkAndReleaseExpiredLock`. -/
def isExpired (now : Timestamp) (expirationDate : Option Timestamp) : Bool :=
  expirationDate.any fun date => date < now

variable {P : Type}

/-- A step of the process `p` from where it is; `none` when it cannot take it. -/
def act (p : P) (now : Timestamp) (stored : Option (StoredLock P)) :
    Pc → Action → Option (Pc × Option (StoredLock P))
  | .idle, .acquire lockValiditySecs timeoutSecs =>
      some (.entering ⟨createLock now lockValiditySecs, timeoutSecs, true⟩, stored)
  | .entering attempt, .enter =>
      some (.inserting attempt
        (if 0 < attempt.timeoutSecs then some (now + attempt.timeoutSecs * 1000) else none), stored)
  | .inserting attempt timeoutDateMs, .insert =>
      match stored, timeoutDateMs with
      | none, _ => some (.holding attempt.lock, some ⟨p, attempt.lock⟩)
      | some _, some timeoutDateMs => some (.sleeping attempt timeoutDateMs, stored)
      | some _, none => some (fail attempt, stored)
  | .sleeping attempt timeoutDateMs, .wake =>
      if now < timeoutDateMs then some (.inserting attempt (some timeoutDateMs), stored)
      else some (fail attempt, stored)
  | .counting attempt, .count =>
      some (if stored.isSome then .reading attempt else .idle, stored)
  | .reading attempt, .read =>
      some (.checking attempt (stored.bind fun found => found.lock.expirationDate), stored)
  | .checking attempt expirationDate, .check =>
      some (if isExpired now expirationDate then .deleting attempt else .idle, stored)
  -- The lock is deleted by its `_id`, whatever is there now.
  | .deleting attempt, .delete => some (.entering { attempt with retry := false }, none)
  | .holding _, .release => some (.idle, none)
  | .crashed, _ => none
  | _, .crash => some (.crashed, stored)
  | _, _ => none

end LockingManager

open LockingManager

/-- The processes and the collection. -/
structure LockingState (P : Type) where
  now : Timestamp
  stored : Option (StoredLock P)
  pc : P → Pc

/-- A process takes a step, or time passes. -/
inductive LockingEvent (P : Type)
  | process (p : P) (action : Action)
  | tick (later : Timestamp)
  deriving DecidableEq, Repr

namespace LockingState

variable {P : Type}

/-- No lock, and nobody who wants one. -/
def start (now : Timestamp) : LockingState P := ⟨now, none, fun _ => .idle⟩

variable [DecidableEq P]

/-- The state after an event. -/
def next (s : LockingState P) : LockingEvent P → Option (LockingState P)
  | .process p action =>
      (act p s.now s.stored (s.pc p) action).map fun (pc, stored) =>
        { s with stored := stored, pc := Function.update s.pc p pc }
  | .tick later => if s.now ≤ later then some { s with now := later } else none

end LockingState

end EvServer
