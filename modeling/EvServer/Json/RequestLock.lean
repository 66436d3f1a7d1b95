import EvServer.Lib.Runs
import Mathlib.Data.Fintype.Basic

/-!
# One request at a time (`JsonCentralSystemServer`)

The messages of the WebSockets of one URL are handled concurrently.  A request, and the
opening of a WebSocket, first waits until the running-lock of the URL is not set, then
sets it, and deletes it when it is done.  Seeing the lock free and setting it are two
steps, and after ten trials a handler no longer waits: it proceeds with the lock set by
somebody else, and whoever is done first deletes it.

In the runs in which each handler finds the lock free when it sets it, one request is
processed at a time, and a handler deletes the lock that it has set itself.
-/

namespace EvServer

/-- `OCPPMessageType`. -/
inductive OCPPMessageType
  | callMessage
  | callResultMessage
  | callErrorMessage
  deriving DecidableEq, Repr

namespace JsonCentralSystemServer

/-- `maxNumberOfTrials` of `waitForWSLockToRelease`. -/
def maxNumberOfTrials : ℕ := 10

/-- Only lock requests, not responses; `none` is the opening of a WebSocket. -/
def locks : Option OCPPMessageType → Bool
  | none => true
  | some ocppMessageType => ocppMessageType = .callMessage

/-- Where a handler stands in `onMessage`, or in `onOpen`, with its message. -/
inductive HandlerPc
  | idle
  /-- `aquireLockForWSRequest` is called. -/
  | acquiring (ocppMessageType : Option OCPPMessageType)
  /-- The lock was taken: the handler sleeps in `waitForWSLockToRelease`. -/
  | waiting (ocppMessageType : Option OCPPMessageType) (numberOfTrials : ℕ)
  /-- `waitForWSLockToRelease` comes back, perhaps after it has written to the log. -/
  | admitted (ocppMessageType : Option OCPPMessageType)
  /-- The message is processed, up to `releaseLockForWSMessageRequest`. -/
  | processing (ocppMessageType : Option OCPPMessageType)
  deriving DecidableEq, Repr

/-- A step of a handler. -/
inductive HandlerAction
  | receive (ocppMessageType : Option OCPPMessageType)
  /-- The first look at the lock. -/
  | look
  /-- The next look, after having slept. -/
  | wake
  | lock
  | release
  deriving DecidableEq, Repr

/-- The handlers of one URL.  `takenBy` is who has set the lock last; the code does not
know it. -/
structure UrlState (P : Type) where
  runningWSRequestsMessages : Bool := false
  takenBy : Option P := none
  pc : P → HandlerPc := fun _ => .idle

namespace UrlState

variable {P : Type}

/-- The handler has set the lock, and is going to delete it. -/
def HoldsLock (s : UrlState P) (p : P) : Prop :=
  ∃ ocppMessageType, s.pc p = .processing ocppMessageType ∧ locks ocppMessageType

/-- The handler processes a request. -/
def ProcessesCall (s : UrlState P) (p : P) : Prop :=
  s.pc p = .processing (some .callMessage)

theorem ProcessesCall.holdsLock {s : UrlState P} {p : P} (h : s.ProcessesCall p) :
    s.HoldsLock p := ⟨_, h, rfl⟩

variable [DecidableEq P]

/-- The handler goes on. -/
def move (s : UrlState P) (p : P) (pc : HandlerPc) : UrlState P :=
  { s with pc := Function.update s.pc p pc }

/-- The state after a step of the handler `p`; `none` when it cannot take it. -/
def next (s : UrlState P) : P × HandlerAction → Option (UrlState P)
  | (p, action) =>
      match s.pc p, action with
      | .idle, .receive ocppMessageType =>
          some (s.move p
            (if locks ocppMessageType then .acquiring ocppMessageType
            else .processing ocppMessageType))
      | .acquiring ocppMessageType, .look =>
          some (s.move p
            (if s.runningWSRequestsMessages then .waiting ocppMessageType 0
            else .admitted ocppMessageType))
      | .waiting ocppMessageType numberOfTrials, .wake =>
          some (s.move p
            (if s.runningWSRequestsMessages = false then .admitted ocppMessageType
            -- Lock is freed anyway
            else if maxNumberOfTrials ≤ numberOfTrials + 1 then .admitted ocppMessageType
            else .waiting ocppMessageType (numberOfTrials + 1)))
      | .admitted ocppMessageType, .lock =>
          some { s.move p (.processing ocppMessageType) with
            runningWSRequestsMessages := true
            takenBy := some p }
      | .processing ocppMessageType, .release =>
          some
            (if locks ocppMessageType then
              { s.move p .idle with runningWSRequestsMessages := false, takenBy := none }
            else s.move p .idle)
      | _, _ => none

/-- A step of a handler. -/
def Step (s : UrlState P) (event : P × HandlerAction) (s' : UrlState P) : Prop :=
  s.next event = some s'

/-- The condition: the lock is not set when a handler sets it. -/
def FindsFree (s : UrlState P) (event : P × HandlerAction) : Prop :=
  event.2 = .lock → s.runningWSRequestsMessages = false

instance (s : UrlState P) : DecidablePred s.FindsFree := fun event =>
  inferInstanceAs (Decidable (event.2 = .lock → _))

/-! ## The invariant -/

/-- The invariant: the lock is set for whoever holds it, and he is the one who has set it
last. -/
def OwnsLock (s : UrlState P) : Prop :=
  ∀ p, s.HoldsLock p → s.runningWSRequestsMessages = true ∧ s.takenBy = some p

variable {s s' : UrlState P} {p q : P} {pc : HandlerPc} {event : P × HandlerAction}

omit [DecidableEq P] in
/-- The lock has been set by one handler. -/
theorem OwnsLock.eq (inv : s.OwnsLock) (hp : s.HoldsLock p) (hq : s.HoldsLock q) : p = q :=
  Option.some.inj ((inv p hp).2.symm.trans (inv q hq).2)

omit [DecidableEq P] in
/-- A lock that is free is held by nobody. -/
theorem OwnsLock.not_holdsLock (inv : s.OwnsLock) (free : s.runningWSRequestsMessages = false) :
    ¬ s.HoldsLock p := by
  intro holds
  rw [(inv p holds).1] at free
  cases free

theorem pc_move_self : (s.move p pc).pc p = pc := Function.update_self ..

theorem pc_move_of_ne (other : q ≠ p) : (s.move p pc).pc q = s.pc q :=
  Function.update_of_ne other ..

/-- The other handlers hold the lock as before. -/
theorem holdsLock_move_of_ne (other : q ≠ p) : (s.move p pc).HoldsLock q ↔ s.HoldsLock q := by
  unfold HoldsLock
  rw [pc_move_of_ne other]

theorem holdsLock_move_self :
    (s.move p pc).HoldsLock p ↔ ∃ message, pc = .processing message ∧ locks message := by
  unfold HoldsLock
  rw [pc_move_self]

/-- A handler goes on to where it does not hold the lock. -/
theorem OwnsLock.move (inv : s.OwnsLock)
    (holdsNot : ¬ ∃ message, pc = .processing message ∧ locks message) :
    (s.move p pc).OwnsLock := by
  intro q holds
  rcases eq_or_ne q p with rfl | other
  · exact absurd (holdsLock_move_self.mp holds) holdsNot
  · exact inv q ((holdsLock_move_of_ne other).mp holds)

/-- **A step keeps the invariant**, if a lock that is set is free. -/
theorem OwnsLock.step (inv : s.OwnsLock) (free : s.FindsFree event) (step : s.Step event s') :
    s'.OwnsLock := by
  obtain ⟨p, action⟩ := event
  dsimp only [Step, next] at step
  split at step
  · rename_i message hpc
    cases step
    refine inv.move ?_
    rintro ⟨message', at_pc, locked⟩
    split at at_pc
    · cases at_pc
    · cases at_pc
      contradiction
  · cases step
    refine inv.move ?_
    rintro ⟨message', at_pc, -⟩
    split at at_pc <;> cases at_pc
  · cases step
    refine inv.move ?_
    rintro ⟨message', at_pc, -⟩
    split at at_pc
    · cases at_pc
    · split at at_pc <;> cases at_pc
  · -- Nobody else holds the lock, for it is free.
    rename_i message hpc
    cases step
    intro q holds
    rcases eq_or_ne q p with rfl | other
    · exact ⟨rfl, rfl⟩
    · exact absurd ((holdsLock_move_of_ne other).mp holds) (inv.not_holdsLock (free rfl))
  · rename_i message hpc
    cases step
    split
    · -- The lock that is deleted is that of the handler.
      rename_i locked
      intro q holds
      rcases eq_or_ne q p with rfl | other
      · obtain ⟨message', at_pc, -⟩ := holdsLock_move_self.mp holds
        cases at_pc
      · exact absurd (inv.eq ((holdsLock_move_of_ne other).mp holds) ⟨message, hpc, locked⟩) other
    · refine inv.move ?_
      rintro ⟨message', at_pc, -⟩
      cases at_pc
  · cases step

/-- **One request at a time.**  In every run, of any number of handlers, in which each finds
the lock free when it sets it, no two handlers process a request; and a handler that is
to delete the lock has set it itself, last of all. -/
theorem one_request_of_run {events : List (P × HandlerAction)}
    (run : Transition.Run (Transition.guarded FindsFree Step) {} events s) :
    (∀ p q, s.ProcessesCall p → s.ProcessesCall q → p = q) ∧
      ∀ p, s.HoldsLock p → s.runningWSRequestsMessages = true ∧ s.takenBy = some p := by
  have inv : s.OwnsLock := by
    refine run.invariant ?_ fun _ _ _ inv step => inv.step step.1 step.2
    rintro p ⟨message, at_pc, -⟩
    cases at_pc
  exact ⟨fun p q hp hq => inv.eq hp.holdsLock hq.holdsLock, inv⟩

/-! ## Two requests -/

/-- Handler `p` processes a request, and handler `q` waits with another one. -/
def exampleRequests (p q : Fin 2) : List (Fin 2 × HandlerAction) :=
  [(p, .receive (some .callMessage)), (p, .look), (p, .lock),
    (q, .receive (some .callMessage)), (q, .look), (q, .wake)]

/-- The request that has waited is processed after the other one. -/
theorem one_request_of_run_waiting :
    ∃ s : UrlState (Fin 2),
      Transition.Run (Transition.guarded FindsFree Step) {}
        (exampleRequests 0 1 ++ [(0, .release), (1, .wake), (1, .lock)]) s ∧
      s.ProcessesCall 1 ∧ ∀ p, s.ProcessesCall p → p = 1 := by
  have reached : (Transition.follow next (fun s event _ => s.FindsFree event)
      ({} : UrlState (Fin 2)) (exampleRequests 0 1 ++ [(0, .release), (1, .wake), (1, .lock)])).map
        (fun s => s.pc 1) = some (.processing (some .callMessage)) := by
    decide +kernel
  obtain ⟨s, hs, processes⟩ := Option.map_eq_some_iff.mp reached
  have run : Transition.Run (Transition.guarded FindsFree Step) {}
      (exampleRequests 0 1 ++ [(0, .release), (1, .wake), (1, .lock)]) s :=
    .of_follow (fun _ _ _ computed admitted => ⟨admitted, computed⟩) hs
  exact ⟨s, run, processes, fun p hp => (one_request_of_run run).1 p 1 hp processes⟩

/-- Handler `1` gives up waiting: both process a request, and handler `0` deletes the lock
that handler `1` has set. -/
theorem not_one_request_after_giving_up :
    ∃ s : UrlState (Fin 2),
      Transition.Run Step {}
        (exampleRequests 0 1 ++ List.replicate 9 (1, .wake) ++ [(1, .lock)]) s ∧
      s.ProcessesCall 0 ∧ s.ProcessesCall 1 ∧ s.takenBy = some 1 := by
  have reached : (Transition.follow next (fun _ _ _ => True) ({} : UrlState (Fin 2))
      (exampleRequests 0 1 ++ List.replicate 9 (1, .wake) ++ [(1, .lock)])).map
        (fun s => (s.pc 0, s.pc 1, s.takenBy)) =
          some (.processing (some .callMessage), .processing (some .callMessage), some 1) := by
    decide +kernel
  obtain ⟨s, hs, holds⟩ := Option.map_eq_some_iff.mp reached
  rw [Prod.mk.injEq, Prod.mk.injEq] at holds
  exact ⟨s, .of_follow (fun _ _ _ computed _ => computed) hs, holds⟩

end UrlState

end JsonCentralSystemServer

end EvServer
