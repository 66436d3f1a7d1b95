import EvServer.Lib.Query
import EvServer.Locking.LockingManager

/-!
# Asynchronous tasks (`AsyncTaskManager`, `AsyncTaskStorage`)

A task waits in the database as `PENDING`.  Every server runs `handleAsyncTasks` when it
starts and whenever a task is saved as `PENDING`: the run reads the pending tasks and
processes its copies of them, some in parallel, each under the lock of the task.

The steps of a run are its accesses to the database and the start and the end of a task.
To find a lock in the way and to see whether it has expired is one step here.  What
happened to a task is written down for the proofs; no step reads it.  The turning of
running tasks back to pending ones, with which a server begins, is not among the steps.
-/

namespace EvServer

open LockingManager (StoredLock)

/-- `AsyncTaskStatus`. -/
inductive AsyncTaskStatus
  | pending
  | running
  | success
  | error
  deriving DecidableEq, Repr

/-- `AsyncTasks`, and the names that are none of them. -/
inductive AsyncTasks
  | billTransaction
  | tagsImport
  | usersImport
  | ocpiPushTokens
  | ocpiPullLocations
  | ocpiPullSessions
  | ocpiPullCdrs
  | ocpiCheckCdrs
  | ocpiCheckSessions
  | ocpiCheckLocations
  | ocpiPullTokens
  | ocpiPushEvseStatuses
  | synchronizeCarCatalogs
  | unknown (name : String)
  deriving DecidableEq, Repr

/-- `AsyncTask`. -/
structure AsyncTask where
  id : String
  name : AsyncTasks
  status : AsyncTaskStatus
  createdOn : Timestamp
  lastChangedOn : Option Timestamp := none
  execHost : Option String := none
  execTimestamp : Option Timestamp := none
  execDurationSecs : ℚ := 0
  message : Option String := none
  deriving DecidableEq, Repr

/-- The collection `asynctasks`. -/
abbrev AsyncTaskCollection := Collection AsyncTask.id

namespace AsyncTaskStorage

/-- `getAsyncTasks` with a status and without limit: the newest tasks come first. -/
def getAsyncTasks (asyncTasks : AsyncTaskCollection) (status : AsyncTaskStatus) : List AsyncTask :=
  asyncTasks.query (fun asyncTask => asyncTask.status = status) fun asyncTask => -asyncTask.createdOn

/-- `saveAsyncTask`; when it fails the collection stays. -/
def saveAsyncTask (asyncTask : AsyncTask) (failure : Option String)
    (asyncTasks : AsyncTaskCollection) : AsyncTaskCollection :=
  if failure.isSome then asyncTasks else asyncTasks.save asyncTask

end AsyncTaskStorage

namespace AsyncTaskManager

/-- Where a run is with one of its tasks. -/
inductive JobPc
  | waiting
  /-- `createTask` has returned a task. -/
  | created
  /-- The lock that is in the way has expired. -/
  | expired
  /-- The expired lock is deleted. -/
  | retrying
  /-- With the lock, before the task is saved as running. -/
  | locked
  /-- Before the `run` of the task. -/
  | saved
  /-- In the `run` of the task. -/
  | running
  /-- Before the task is saved as a success. -/
  | succeeded
  /-- In the `catch`, before the task is saved as an error. -/
  | failed (message : String)
  /-- In the `finally`. -/
  | releasing
  | done
  deriving DecidableEq, Repr

/-- A task as a run processes it. -/
structure Job where
  asyncTask : AsyncTask
  startAsyncTaskTime : Timestamp := 0
  pc : JobPc := .waiting
  deriving DecidableEq, Repr

/-- The id of the task. -/
def Job.id (job : Job) : String := job.asyncTask.id

/-- A step with a task.  What is saved or run may fail. -/
inductive JobAction
  | create
  | acquire
  | delete
  | save (failure : Option String)
  | start
  | finish (failure : Option String)
  | release
  deriving DecidableEq, Repr

/-- What happens to a task. -/
inductive TaskEvent
  | saved (status : AsyncTaskStatus)
  | started
  deriving DecidableEq, Repr

/-- What a step with a task leaves. -/
structure Turn (P : Type) where
  job : Job
  asyncTasks : AsyncTaskCollection
  lock : Option (StoredLock P)
  logged : List TaskEvent := []
  /-- The promise of the task is rejected. -/
  rejects : Bool := false

/-- Whether `createTask` knows the task. -/
def createTask : AsyncTasks → Bool
  | .unknown _ => false
  | _ => true

/-- Insert the lock of the task, or go where the one that is in the way leads.  The status of
the task is not read again. -/
def Turn.acquire {P : Type} (p : P) (now : Timestamp) (asyncTasks : AsyncTaskCollection)
    (lock : Option (StoredLock P)) (job : Job) (busy : StoredLock P → JobPc) : Turn P :=
  match lock with
  | none =>
      { job := { job with startAsyncTaskTime := now, pc := .locked }
        asyncTasks := asyncTasks
        lock := some ⟨p, LockingManager.createLock now (15 * 60)⟩ }
  | some found =>
      { job := { job with pc := busy found }, asyncTasks := asyncTasks, lock := lock }

/-- Save the task and go on, or go to where the failure leads. -/
def Turn.save {P : Type} (job : Job) (asyncTask : AsyncTask) (asyncTasks : AsyncTaskCollection)
    (lock : Option (StoredLock P)) (failure : Option String) (pc : JobPc)
    (catches : String → JobPc) : Turn P :=
  { job := { job with asyncTask := asyncTask, pc := failure.elim pc catches }
    asyncTasks := AsyncTaskStorage.saveAsyncTask asyncTask failure asyncTasks
    lock := lock
    logged := if failure.isSome then [] else [.saved asyncTask.status] }

/-- The seconds the task took, with two decimals. -/
def Job.execDurationSecs (job : Job) (now : Timestamp) : ℚ :=
  Utils.truncTo (Utils.durationSecs now job.startAsyncTaskTime) 2

/-- A step of the run `p` with one of its tasks; `none` when it cannot take it. -/
def Job.turn {P : Type} (p : P) (hostName : String) (now : Timestamp)
    (asyncTasks : AsyncTaskCollection) (lock : Option (StoredLock P)) (job : Job) :
    JobPc → JobAction → Option (Turn P)
  | .waiting, .create =>
      some
        { job := { job with pc := if createTask job.asyncTask.name then .created else .done }
          asyncTasks := asyncTasks
          lock := lock }
  | .created, .acquire =>
      some (.acquire p now asyncTasks lock job fun found =>
        if LockingManager.isExpired now found.lock.expirationDate then .expired else .done)
  -- The lock is deleted by its id, whatever is there now.
  | .expired, .delete =>
      some { job := { job with pc := .retrying }, asyncTasks := asyncTasks, lock := none }
  | .retrying, .acquire => some (.acquire p now asyncTasks lock job fun _ => .done)
  | .locked, .save failure =>
      some (.save job
        { job.asyncTask with
          execTimestamp := some now
          execHost := some hostName
          status := .running
          lastChangedOn := some now }
        asyncTasks lock failure .saved .failed)
  | .saved, .start =>
      some
        { job := { job with pc := .running }
          asyncTasks := asyncTasks
          lock := lock
          logged := [.started] }
  | .running, .finish failure =>
      some
        { job := { job with pc := failure.elim .succeeded .failed }
          asyncTasks := asyncTasks
          lock := lock }
  | .succeeded, .save failure =>
      some (.save job
        { job.asyncTask with
          status := .success
          execDurationSecs := job.execDurationSecs now
          lastChangedOn := some now }
        asyncTasks lock failure .releasing .failed)
  | .failed message, .save failure =>
      some
        { Turn.save job
            { job.asyncTask with
              status := .error
              message := some message
              execDurationSecs := job.execDurationSecs now
              lastChangedOn := some now }
            asyncTasks lock failure .releasing fun _ => .releasing with
          rejects := failure.isSome }
  | .releasing, .release =>
      some { job := { job with pc := .done }, asyncTasks := asyncTasks, lock := none }
  | _, _ => none

/-- The server of a run: its name and its configuration. -/
structure Server where
  hostName : String
  nbrTasksInParallel : ℤ

/-- The number of instances. -/
def Server.instances (server : Server) : ℕ :=
  if 0 < server.nbrTasksInParallel then server.nbrTasksInParallel.toNat else 1

/-- A run that has read the pending tasks. -/
structure HandleRun where
  jobs : Collection Job.id
  /-- A task has rejected: `Promise.map` begins no other. -/
  rejected : Bool

/-- The number of tasks that are being processed. -/
def HandleRun.active (run : HandleRun) : ℕ :=
  (run.jobs.docs.filter fun job => job.pc ≠ .waiting ∧ job.pc ≠ .done).length

/-- Whether `Promise.map` can begin with another task. -/
def HandleRun.canCreate (run : HandleRun) (server : Server) : Bool :=
  !run.rejected && run.active < server.instances

/-- A run that begins with the tasks it has read. -/
def HandleRun.ofList (asyncTasks : List AsyncTask) : HandleRun :=
  ⟨Collection.empty.saveAll (asyncTasks.map fun asyncTask => { asyncTask := asyncTask }), false⟩

end AsyncTaskManager

open AsyncTaskManager

/-- The database and the runs. -/
structure AsyncTasksState (P : Type) where
  now : Timestamp
  asyncTasks : AsyncTaskCollection
  /-- The lock of a task. -/
  locks : String → Option (StoredLock P)
  runs : P → Option HandleRun
  /-- What happened to a task, and in which run. -/
  log : String → List (P × TaskEvent)

/-- A step of a run, a new task, or time passes. -/
inductive AsyncTasksEvent (P : Type)
  | read (p : P)
  | job (p : P) (id : String) (action : JobAction)
  | create (asyncTask : AsyncTask)
  | tick (later : Timestamp)
  deriving DecidableEq, Repr

namespace AsyncTasksState

variable {P : Type}

/-- Before the runs; locks may have been left behind. -/
def start (now : Timestamp) (asyncTasks : AsyncTaskCollection)
    (locks : String → Option (StoredLock P)) : AsyncTasksState P :=
  ⟨now, asyncTasks, locks, fun _ => none, fun _ => []⟩

variable [DecidableEq P]

/-- The state after a step of a run with one of its tasks. -/
def after (s : AsyncTasksState P) (p : P) (run : HandleRun) (id : String) (turn : Turn P) :
    AsyncTasksState P :=
  { s with
    asyncTasks := turn.asyncTasks
    locks := Function.update s.locks id turn.lock
    runs := Function.update s.runs p
      (some ⟨run.jobs.save turn.job, run.rejected || turn.rejects⟩)
    log := Function.update s.log id (s.log id ++ turn.logged.map fun event => (p, event)) }

/-- The state after an event. -/
def next (servers : P → Server) (s : AsyncTasksState P) :
    AsyncTasksEvent P → Option (AsyncTasksState P)
  | .read p =>
      if (s.runs p).isSome then none
      else
        some { s with
          runs := Function.update s.runs p
            (some (.ofList (AsyncTaskStorage.getAsyncTasks s.asyncTasks .pending))) }
  | .job p id action =>
      (s.runs p).bind fun run =>
        if action = .create ∧ run.canCreate (servers p) = false then none
        else
          (run.jobs.find id).bind fun job =>
            (job.turn p (servers p).hostName s.now s.asyncTasks (s.locks id) job.pc action).map
              (s.after p run id)
  | .create asyncTask =>
      if (s.asyncTasks.find asyncTask.id).isSome then none
      else some { s with asyncTasks := s.asyncTasks.save { asyncTask with status := .pending } }
  | .tick later => if s.now ≤ later then some { s with now := later } else none

/-- The step relation. -/
def Step (servers : P → Server) (s : AsyncTasksState P) (event : AsyncTasksEvent P)
    (s' : AsyncTasksState P) : Prop :=
  s.next servers event = some s'

end AsyncTasksState

end EvServer
