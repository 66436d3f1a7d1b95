import EvServer.AsyncTask.AsyncTaskManager

/-!
# A task is executed once

What matters about a task is what is stored of it, its lock, where the runs are with it and
what has happened to it: its view.  A step with one task leaves the views of the others, and
a step that gets the lock while the task is still pending finds that nothing has happened to
it yet.
-/

namespace EvServer

open LockingManager (StoredLock)

namespace AsyncTaskManager

/-- The steps between the acquisition of the lock and its release. -/
def JobPc.HoldsLock : JobPc → Prop
  | .waiting | .created | .expired | .retrying | .done => False
  | _ => True

instance : DecidablePred JobPc.HoldsLock := fun pc =>
  match pc with
  | .waiting | .created | .expired | .retrying | .done => .isFalse not_false
  | .locked | .saved | .running | .succeeded | .failed _ | .releasing => .isTrue trivial

variable {P : Type}

/-- What a step of a run does to a task: what is stored, its lock, where the run is with it, and
what happens to it. -/
inductive Effect (p : P) (stored : Option AsyncTask) : Option (StoredLock P) → JobPc → JobAction →
    Option AsyncTask → Option (StoredLock P) → JobPc → List TaskEvent → Prop
  /-- A step without the lock. -/
  | passes {lock : Option (StoredLock P)} {pc : JobPc} {action : JobAction} {pc' : JobPc} :
      ¬ pc'.HoldsLock → Effect p stored lock pc action stored lock pc' []
  /-- The lock is obtained. -/
  | acquires {pc : JobPc} {held : Lock} :
      Effect p stored none pc .acquire stored (some ⟨p, held⟩) .locked []
  /-- The lock that is there is deleted as an expired one. -/
  | deletes {lock : Option (StoredLock P)} :
      Effect p stored lock .expired .delete stored none .retrying []
  /-- The task is saved, no longer as a pending one. -/
  | saves {lock : Option (StoredLock P)} {pc : JobPc} {action : JobAction} {asyncTask : AsyncTask}
      {pc' : JobPc} :
      pc.HoldsLock → asyncTask.status ≠ .pending → pc' ≠ .locked → (pc' = .saved → pc = .locked) →
        Effect p stored lock pc action (some asyncTask) lock pc' [.saved asyncTask.status]
  /-- The task is started. -/
  | starts {lock : Option (StoredLock P)} :
      Effect p stored lock .saved .start stored lock .running [.started]
  /-- A step under the lock that leaves what is stored. -/
  | continues {lock : Option (StoredLock P)} {pc : JobPc} {action : JobAction} {pc' : JobPc} :
      pc.HoldsLock → pc' ≠ .locked → pc' ≠ .saved →
        Effect p stored lock pc action stored lock pc' []
  /-- The lock is released. -/
  | releases {lock : Option (StoredLock P)} {pc : JobPc} {action : JobAction} {pc' : JobPc} :
      pc.HoldsLock → ¬ pc'.HoldsLock → Effect p stored lock pc action stored none pc' []

variable {p : P} {hostName : String} {now : Timestamp} {asyncTasks : AsyncTaskCollection}
variable {lock : Option (StoredLock P)} {job : Job} {action : JobAction} {turn : Turn P}

/-- The insertion of the lock. -/
theorem Turn.acquire_spec {busy : StoredLock P → JobPc} (free : ∀ found, ¬ (busy found).HoldsLock) :
    let turn : Turn P := .acquire p now asyncTasks lock job busy
    turn.job.id = job.id ∧
      (∀ id, id ≠ job.id → turn.asyncTasks.find id = asyncTasks.find id) ∧
      Effect p (asyncTasks.find job.id) lock job.pc .acquire (turn.asyncTasks.find job.id)
        turn.lock turn.job.pc turn.logged := by
  cases lock with
  | none => exact ⟨rfl, fun _ _ => rfl, .acquires⟩
  | some found => exact ⟨rfl, fun _ _ => rfl, .passes (free found)⟩

/-- Saving a task under the lock. -/
theorem Turn.save_spec {asyncTask : AsyncTask} {failure : Option String} {next : JobPc}
    {catches : String → JobPc} (same : asyncTask.id = job.asyncTask.id)
    (left : asyncTask.status ≠ .pending) (holds : job.pc.HoldsLock)
    (next_ne : next ≠ .locked) (next_saved : next = .saved → job.pc = .locked)
    (catches_ne : ∀ message, catches message ≠ .locked ∧ catches message ≠ .saved) :
    let turn : Turn P := .save job asyncTask asyncTasks lock failure next catches
    turn.job.id = job.id ∧
      (∀ id, id ≠ job.id → turn.asyncTasks.find id = asyncTasks.find id) ∧
      Effect p (asyncTasks.find job.id) lock job.pc action (turn.asyncTasks.find job.id)
        turn.lock turn.job.pc turn.logged := by
  cases failure with
  | none =>
      refine ⟨same, fun id other => Collection.find_save_of_ne (same ▸ other), ?_⟩
      have saved : (asyncTasks.save asyncTask).find job.id = some asyncTask := by
        rw [Job.id, ← same]
        exact Collection.find_save_self
      change Effect p _ lock job.pc action ((asyncTasks.save asyncTask).find job.id) lock next _
      rw [saved]
      exact .saves holds left next_ne next_saved
  | some message =>
      exact ⟨same, fun _ _ => rfl, .continues holds (catches_ne message).1 (catches_ne message).2⟩

/-- **What a step with a task does.** -/
theorem Job.turn_spec (h : job.turn p hostName now asyncTasks lock job.pc action = some turn) :
    turn.job.id = job.id ∧
      (∀ id, id ≠ job.id → turn.asyncTasks.find id = asyncTasks.find id) ∧
      Effect p (asyncTasks.find job.id) lock job.pc action (turn.asyncTasks.find job.id)
        turn.lock turn.job.pc turn.logged := by
  have ne : ∀ message, JobPc.failed message ≠ .locked ∧ JobPc.failed message ≠ .saved :=
    fun _ => ⟨nofun, nofun⟩
  generalize hpc : job.pc = pc at h
  revert h
  fun_cases Job.turn p hostName now asyncTasks lock job pc action <;> intro h
  case case1 =>
    cases h
    refine ⟨rfl, fun _ _ => rfl, .passes ?_⟩
    change ¬ (if createTask job.asyncTask.name then JobPc.created else .done).HoldsLock
    split <;> exact not_false
  case case2 =>
    cases h
    rw [← hpc]
    refine Turn.acquire_spec fun found => ?_
    split <;> exact not_false
  case case3 =>
    cases h
    exact ⟨rfl, fun _ _ => rfl, .deletes⟩
  case case4 =>
    cases h
    rw [← hpc]
    exact Turn.acquire_spec fun _ => not_false
  case case5 =>
    cases h
    rw [← hpc]
    exact Turn.save_spec rfl nofun (hpc ▸ trivial) nofun (fun _ => hpc) ne
  case case6 =>
    cases h
    exact ⟨rfl, fun _ _ => rfl, .starts⟩
  case case7 failure =>
    cases h
    refine ⟨rfl, fun _ _ => rfl, ?_⟩
    cases failure with
    | none => exact .continues trivial nofun nofun
    | some message => exact .continues trivial nofun nofun
  case case8 =>
    cases h
    rw [← hpc]
    exact Turn.save_spec rfl nofun (hpc ▸ trivial) nofun nofun ne
  case case9 =>
    cases h
    rw [← hpc]
    exact Turn.save_spec rfl nofun (hpc ▸ trivial) nofun nofun fun _ => ⟨nofun, nofun⟩
  case case10 =>
    cases h
    exact ⟨rfl, fun _ _ => rfl, .releases trivial not_false⟩
  case case11 => cases h

/-! ## The view of a task -/

/-- What is stored of a task, its lock, where the runs are with it, and what happened to it. -/
structure TaskView (P : Type) where
  stored : Option AsyncTask
  lock : Option (StoredLock P)
  pc : P → Option JobPc
  log : List (P × TaskEvent)

namespace TaskView

/-- A run is between the acquisition and the release of the lock. -/
def Processes (v : TaskView P) (p : P) : Prop := ∃ pc ∈ v.pc p, pc.HoldsLock

/-- The task is started once, in a run before which nobody else has changed its status. -/
def ExecutedOnce (log : List (P × TaskEvent)) : Prop :=
  (log.filter fun entry => entry.2 = .started).length ≤ 1 ∧
    ∀ before p after, log = before ++ (p, .started) :: after → ∀ entry ∈ before, entry.1 = p

/-- The invariant. -/
structure Sound (v : TaskView P) : Prop where
  /-- A task to which something has happened is not pending. -/
  left : v.log ≠ [] → ∃ asyncTask ∈ v.stored, asyncTask.status ≠ .pending
  /-- A run under the lock owns the lock that is stored. -/
  held : ∀ p, v.Processes p → ∃ found ∈ v.lock, found.owner = p
  /-- All that has happened has happened in the run under the lock. -/
  own : ∀ p, v.Processes p → ∀ entry ∈ v.log, entry.1 = p
  /-- A run that has not started the task finds that nobody has. -/
  fresh : ∀ p, ∀ pc ∈ v.pc p, pc = .locked ∨ pc = .saved → ∀ entry ∈ v.log, entry.2 ≠ .started
  /-- A run that is about to start the task has saved it. -/
  begun : ∀ p, .saved ∈ v.pc p → v.log ≠ []
  /-- All that has happened has happened in one run. -/
  single : ∀ entry ∈ v.log, ∀ entry' ∈ v.log, entry.1 = entry'.1
  once : (v.log.filter fun entry => entry.2 = .started).length ≤ 1

theorem Sound.executedOnce {v : TaskView P} (inv : v.Sound) : ExecutedOnce v.log := by
  refine ⟨inv.once, ?_⟩
  intro before p after split entry mem
  refine inv.single entry ?_ (p, .started) ?_ <;> rw [split]
  · exact List.mem_append_left _ mem
  · exact List.mem_append_right _ List.mem_cons_self

variable {v : TaskView P}

/-- There is one run under the lock. -/
theorem Sound.eq_of_processes (inv : v.Sound) {q : P} (hp : v.Processes p) (hq : v.Processes q) :
    q = p := by
  obtain ⟨found, mem, rfl⟩ := inv.held p hp
  obtain ⟨found', mem', rfl⟩ := inv.held q hq
  rw [Option.mem_unique mem mem']

/-- Where nobody gets under the lock the invariant stays. -/
theorem Sound.of_processes_imp (inv : v.Sound) {stored : Option AsyncTask} {pc : P → Option JobPc}
    (left : v.log ≠ [] → stored = v.stored)
    (old : ∀ p, ∀ pc' ∈ pc p, pc'.HoldsLock → pc' ∈ v.pc p) :
    (⟨stored, v.lock, pc, v.log⟩ : TaskView P).Sound where
  left := fun some => left some ▸ inv.left some
  held := fun p ⟨pc', mem, holds⟩ => inv.held p ⟨pc', old p pc' mem holds, holds⟩
  own := fun p ⟨pc', mem, holds⟩ => inv.own p ⟨pc', old p pc' mem holds, holds⟩
  fresh := by
    intro p pc' mem before
    refine inv.fresh p pc' (old p pc' mem ?_) before
    rcases before with rfl | rfl <;> trivial
  begun := fun p mem => inv.begun p (old p .saved mem trivial)
  single := inv.single
  once := inv.once

variable [DecidableEq P]

/-- The view after a step of the run `p`. -/
def after (v : TaskView P) (p : P) (stored : Option AsyncTask) (lock : Option (StoredLock P))
    (pc : JobPc) (logged : List TaskEvent) : TaskView P :=
  ⟨stored, lock, Function.update v.pc p (some pc), v.log ++ logged.map fun event => (p, event)⟩

theorem mem_pc_after {stored : Option AsyncTask} {pc pc' : JobPc} {logged : List TaskEvent} {q : P}
    (h : pc' ∈ (v.after p stored lock pc logged).pc q) :
    q = p ∧ pc' = pc ∨ q ≠ p ∧ pc' ∈ v.pc q := by
  change pc' ∈ Function.update v.pc p (some pc) q at h
  rcases eq_or_ne q p with rfl | other
  · rw [Function.update_self, Option.mem_some_iff] at h
    exact .inl ⟨rfl, h.symm⟩
  · rw [Function.update_of_ne other] at h
    exact .inr ⟨other, h⟩

/-- A step under the lock. -/
theorem Sound.under (inv : v.Sound) {stored : Option AsyncTask} {pc pc' : JobPc}
    {logged : List TaskEvent} (hpc : v.pc p = some pc) (holds : pc.HoldsLock)
    (left : v.log ++ logged.map (fun event => (p, event)) ≠ [] →
      ∃ asyncTask ∈ stored, asyncTask.status ≠ .pending)
    (fresh : pc' = .locked ∨ pc' = .saved →
      (pc = .locked ∨ pc = .saved) ∧ .started ∉ logged ∧ logged ≠ [])
    (once : .started ∈ logged → pc = .saved ∧ logged = [.started]) :
    (v.after p stored v.lock pc' logged).Sound := by
  have mine : v.Processes p := ⟨pc, hpc, holds⟩
  have own : ∀ entry ∈ v.log ++ logged.map (fun event => (p, event)), entry.1 = p := by
    intro entry mem
    rcases List.mem_append.mp mem with old | new
    · exact inv.own p mine entry old
    · obtain ⟨event, _, rfl⟩ := List.mem_map.mp new
      rfl
  have processes : ∀ q, (v.after p stored v.lock pc' logged).Processes q → q = p := by
    rintro q ⟨pc'', mem, holds'⟩
    rcases mem_pc_after mem with ⟨same, _⟩ | ⟨_, mem⟩
    · exact same
    · exact inv.eq_of_processes mine ⟨pc'', mem, holds'⟩
  refine ⟨left, ?_, ?_, ?_, ?_, ?_, ?_⟩
  · intro q hq
    rw [processes q hq]
    exact inv.held p mine
  · intro q hq
    rw [processes q hq]
    exact own
  · intro q pc'' mem before entry happened
    have holds' : pc''.HoldsLock := by rcases before with rfl | rfl <;> trivial
    obtain rfl := processes q ⟨pc'', mem, holds'⟩
    rcases mem_pc_after mem with ⟨_, rfl⟩ | ⟨other, _⟩
    · obtain ⟨was, notStarted, -⟩ := fresh before
      rcases List.mem_append.mp happened with old | new
      · exact inv.fresh q pc hpc was entry old
      · obtain ⟨event, mem, rfl⟩ := List.mem_map.mp new
        rintro rfl
        exact notStarted mem
    · exact absurd rfl other
  · intro q mem empty
    rcases mem_pc_after mem with ⟨rfl, rfl⟩ | ⟨other, mem⟩
    · have logged_nil := List.map_eq_nil_iff.mp (List.append_eq_nil_iff.mp empty).2
      exact (fresh (.inr rfl)).2.2 logged_nil
    · exact other (inv.eq_of_processes mine ⟨.saved, mem, trivial⟩)
  · intro entry mem entry' mem'
    rw [own entry mem, own entry' mem']
  · change ((v.log ++ _).filter _).length ≤ 1
    rw [List.filter_append, List.length_append]
    by_cases started : .started ∈ logged
    · obtain ⟨rfl, rfl⟩ := once started
      have none : (v.log.filter fun entry => entry.2 = .started) = [] := by
        refine List.filter_eq_nil_iff.mpr fun entry mem => ?_
        simpa using inv.fresh p .saved hpc (.inr rfl) entry mem
      rw [none]
      rfl
    · have none : ((logged.map fun event => (p, event)).filter fun entry => entry.2 = .started) =
          [] := by
        refine List.filter_eq_nil_iff.mpr fun entry new => ?_
        obtain ⟨event, mem, rfl⟩ := List.mem_map.mp new
        simp only [decide_eq_true_eq]
        rintro rfl
        exact started mem
      rw [none]
      exact inv.once

/-- The lock of a pending task is obtained. -/
theorem Sound.acquires (inv : v.Sound) {held : Lock}
    (pending : ∃ asyncTask ∈ v.stored, asyncTask.status = .pending)
    (free : ∀ q, ¬ v.Processes q) : (v.after p v.stored (some ⟨p, held⟩) .locked []).Sound := by
  have none : v.log = [] := by
    by_contra some
    obtain ⟨asyncTask, mem, isPending⟩ := pending
    obtain ⟨asyncTask', mem', left⟩ := inv.left some
    rw [Option.mem_unique mem' mem] at left
    exact left isPending
  have log : (v.after p v.stored (some ⟨p, held⟩) .locked []).log = [] := by
    change v.log ++ [] = []
    rw [none, List.append_nil]
  refine ⟨fun some => absurd log some, ?_, ?_, ?_, ?_, ?_, ?_⟩
  · rintro q ⟨pc, mem, holds⟩
    rcases mem_pc_after mem with ⟨rfl, _⟩ | ⟨_, mem⟩
    · exact ⟨_, rfl, rfl⟩
    · exact absurd ⟨pc, mem, holds⟩ (free q)
  · rw [log]
    exact fun _ _ => nofun
  · rw [log]
    exact fun _ _ _ _ => nofun
  · intro q mem
    rcases mem_pc_after mem with ⟨_, isSaved⟩ | ⟨_, mem⟩
    · cases isSaved
    · exact absurd ⟨.saved, mem, trivial⟩ (free q)
  · rw [log]
    exact nofun
  · rw [log]
    exact Nat.zero_le 1

/-- Where nobody is under the lock the invariant stays. -/
theorem Sound.of_idle (inv : v.Sound) {lock : Option (StoredLock P)} {pc : JobPc}
    (idle : ∀ q, ¬ (v.after p v.stored lock pc []).Processes q) :
    (v.after p v.stored lock pc []).Sound := by
  have log : (v.after p v.stored lock pc []).log = v.log := List.append_nil _
  refine ⟨?_, ?_, ?_, ?_, ?_, ?_, ?_⟩
  · rw [log]
    exact inv.left
  · exact fun q processes => absurd processes (idle q)
  · exact fun q processes => absurd processes (idle q)
  · rintro q pc' mem before
    refine absurd ⟨pc', mem, ?_⟩ (idle q)
    rcases before with rfl | rfl <;> trivial
  · exact fun q mem => absurd ⟨.saved, mem, trivial⟩ (idle q)
  · rw [log]
    exact inv.single
  · rw [log]
    exact inv.once

/-- **A step with a task keeps the invariant**, if a run that gets the lock finds the task pending
and a lock that is deleted as an expired one is not of a run at work on the task. -/
theorem Sound.effect (inv : v.Sound) {stored : Option AsyncTask} {lock : Option (StoredLock P)}
    {pc pc' : JobPc} {logged : List TaskEvent} (hpc : v.pc p = some pc)
    (effect : Effect p v.stored v.lock pc action stored lock pc' logged)
    (pending : action = .acquire → v.lock = none →
      ∃ asyncTask ∈ v.stored, asyncTask.status = .pending)
    (expired : action = .delete → ∀ found ∈ v.lock, ¬ v.Processes found.owner) :
    (v.after p stored lock pc' logged).Sound := by
  generalize hlock : v.lock = before at effect
  cases effect with
  | passes notHeld =>
      have log : v.log ++ ([] : List TaskEvent).map (fun event => (p, event)) = v.log :=
        List.append_nil _
      unfold after
      rw [log, ← hlock]
      refine inv.of_processes_imp (fun _ => rfl) fun q pc'' mem holds => ?_
      rcases @mem_pc_after _ _ v.lock v _ v.stored _ _ [] _ mem with ⟨_, rfl⟩ | ⟨_, mem⟩
      · exact absurd holds notHeld
      · exact mem
  | acquires =>
      refine inv.acquires (pending rfl hlock) fun q processes => ?_
      obtain ⟨found, mem, _⟩ := inv.held q processes
      rw [hlock] at mem
      cases mem
  | deletes =>
      refine inv.of_idle ?_
      rintro q ⟨pc, mem, holds⟩
      rcases mem_pc_after mem with ⟨_, rfl⟩ | ⟨_, mem⟩
      · exact holds
      · obtain ⟨found, isStored, rfl⟩ := inv.held q ⟨pc, mem, holds⟩
        exact expired rfl found isStored ⟨pc, mem, holds⟩
  | saves holds left notLocked saved =>
      rw [← hlock]
      refine inv.under hpc holds (fun _ => ⟨_, rfl, left⟩) ?_ ?_
      · rintro (rfl | isSaved)
        · exact absurd rfl notLocked
        · exact ⟨.inl (saved isSaved), by simp, by simp⟩
      · simp
  | starts =>
      rw [← hlock]
      refine inv.under hpc trivial ?_ (by simp) (by simp)
      exact fun _ => inv.left (inv.begun p hpc)
  | continues holds notLocked notSaved =>
      rw [← hlock]
      refine inv.under hpc holds ?_ ?_ (by simp)
      · intro some
        refine inv.left ?_
        simpa using some
      · rintro (rfl | rfl)
        · exact absurd rfl notLocked
        · exact absurd rfl notSaved
  | releases holds notHeld =>
      refine inv.of_idle ?_
      rintro q ⟨pc'', mem, holds'⟩
      rcases mem_pc_after mem with ⟨_, rfl⟩ | ⟨other, mem⟩
      · exact notHeld holds'
      · exact other (inv.eq_of_processes ⟨_, hpc, holds⟩ ⟨pc'', mem, holds'⟩)

end TaskView

/-- A run begins with tasks that wait. -/
theorem HandleRun.pc_of_ofList {tasks : List AsyncTask} {id : String} {job : Job}
    (found : (HandleRun.ofList tasks).jobs.find id = some job) : job.pc = .waiting := by
  rcases Collection.mem_saveAll (Collection.mem_of_find found) with mem | mem
  · obtain ⟨asyncTask, _, rfl⟩ := List.mem_map.mp mem
    rfl
  · cases mem

end AsyncTaskManager

open AsyncTaskManager

namespace AsyncTasksState

variable {P : Type} {servers : P → Server} {s s' : AsyncTasksState P}
variable {event : AsyncTasksEvent P}

/-- The view of a task. -/
def view (s : AsyncTasksState P) (id : String) : TaskView P :=
  ⟨s.asyncTasks.find id, s.locks id,
    fun p => (s.runs p).bind fun run => (run.jobs.find id).map Job.pc, s.log id⟩

/-- The condition.  A run that gets the lock of a task finds it still pending, and no lock of a
run that is still at work on the task is deleted as an expired one. -/
def Admits (s : AsyncTasksState P) : AsyncTasksEvent P → Prop
  | .job _ id .acquire =>
      s.locks id = none → ∃ asyncTask ∈ s.asyncTasks.find id, asyncTask.status = .pending
  | .job _ id .delete => ∀ found ∈ s.locks id, ¬ (s.view id).Processes found.owner
  | _ => True

/-- The invariant, of every task. -/
def Sound (s : AsyncTasksState P) : Prop := ∀ id, (s.view id).Sound

theorem sound_start (now : Timestamp) (asyncTasks : AsyncTaskCollection)
    (locks : String → Option (StoredLock P)) : (start now asyncTasks locks).Sound := by
  have idle : ∀ id p, ¬ ((start now asyncTasks locks).view id).Processes p := by
    rintro id p ⟨pc, ⟨⟩, -⟩
  refine fun id => ⟨fun some => absurd rfl some, ?_, ?_, ?_, ?_, nofun, Nat.zero_le 1⟩
  · exact fun p processes => absurd processes (idle id p)
  · exact fun p processes => absurd processes (idle id p)
  · exact fun _ _ => nofun
  · exact fun _ => nofun

variable [DecidableEq P]

/-- A step with one task leaves the views of the others. -/
theorem view_after_of_ne {p : P} {run : HandleRun} {id id' : String} {turn : Turn P}
    (hrun : s.runs p = some run) (same : turn.job.id = id)
    (frame : turn.asyncTasks.find id' = s.asyncTasks.find id') (other : id' ≠ id) :
    (s.after p run id turn).view id' = s.view id' := by
  subst same
  have pcs : (fun q => ((s.after p run turn.job.id turn).runs q).bind fun run =>
      (run.jobs.find id').map Job.pc) =
        fun q => (s.runs q).bind fun run => (run.jobs.find id').map Job.pc := by
    funext q
    rcases eq_or_ne q p with rfl | ne
    · have updated : (s.after q run turn.job.id turn).runs q =
          some ⟨run.jobs.save turn.job, run.rejected || turn.rejects⟩ := Function.update_self ..
      rw [updated, hrun]
      exact congrArg (Option.map Job.pc) (Collection.find_save_of_ne other)
    · have kept : (s.after p run turn.job.id turn).runs q = s.runs q :=
        Function.update_of_ne ne ..
      rw [kept]
  have lock : (s.after p run turn.job.id turn).locks id' = s.locks id' :=
    Function.update_of_ne other ..
  have log : (s.after p run turn.job.id turn).log id' = s.log id' := Function.update_of_ne other ..
  unfold view
  rw [pcs, lock, log]
  exact congrArg (fun stored => TaskView.mk stored _ _ _) frame

/-- The view of the task a step is with. -/
theorem view_after_self {p : P} {run : HandleRun} {id : String} {turn : Turn P}
    (same : turn.job.id = id) : (s.after p run id turn).view id =
      (s.view id).after p (turn.asyncTasks.find id) turn.lock turn.job.pc turn.logged := by
  subst same
  have pcs : (fun q => ((s.after p run turn.job.id turn).runs q).bind fun run =>
      (run.jobs.find turn.job.id).map Job.pc) =
        Function.update (s.view turn.job.id).pc p (some turn.job.pc) := by
    funext q
    rcases eq_or_ne q p with rfl | ne
    · have updated : (s.after q run turn.job.id turn).runs q =
          some ⟨run.jobs.save turn.job, run.rejected || turn.rejects⟩ := Function.update_self ..
      rw [updated, Function.update_self]
      exact congrArg (Option.map Job.pc) Collection.find_save_self
    · have kept : (s.after p run turn.job.id turn).runs q = s.runs q :=
        Function.update_of_ne ne ..
      rw [kept, Function.update_of_ne ne]
      rfl
  have lock : (s.after p run turn.job.id turn).locks turn.job.id = turn.lock :=
    Function.update_self ..
  have log : (s.after p run turn.job.id turn).log turn.job.id =
      s.log turn.job.id ++ turn.logged.map fun event => (p, event) := Function.update_self ..
  unfold view
  rw [pcs, lock, log]
  rfl

/-- **A step keeps the invariant.** -/
theorem Sound.step (inv : s.Sound) (admits : s.Admits event) (step : Step servers s event s') :
    s'.Sound := by
  intro id'
  change s.next servers event = some s' at step
  cases event with
  | read p =>
      rw [next] at step
      split at step
      · cases step
      · rename_i unread
        cases step
        refine (inv id').of_processes_imp (fun _ => rfl) fun q pc mem holds => ?_
        rcases eq_or_ne q p with rfl | other
        · change _ ∈ (Function.update s.runs q _ q).bind _ at mem
          rw [Function.update_self] at mem
          obtain ⟨job, found, rfl⟩ := Option.map_eq_some_iff.mp mem
          rw [HandleRun.pc_of_ofList found] at holds
          exact absurd holds not_false
        · change _ ∈ (Function.update s.runs p _ q).bind _ at mem
          rw [Function.update_of_ne other] at mem
          exact mem
  | job p id action =>
      obtain ⟨run, hrun, step⟩ := Option.bind_eq_some_iff.mp step
      split at step
      · cases step
      · obtain ⟨job, found, step⟩ := Option.bind_eq_some_iff.mp step
        obtain ⟨turn, hturn, rfl⟩ := Option.map_eq_some_iff.mp step
        obtain rfl : job.id = id := Collection.key_of_find found
        obtain ⟨same, frame, effect⟩ := Job.turn_spec hturn
        rcases eq_or_ne id' job.id with rfl | other
        · rw [view_after_self same]
          have hpc : (s.view job.id).pc p = some job.pc := by
            change (s.runs p).bind _ = _
            rw [hrun]
            exact congrArg (Option.map Job.pc) found
          refine (inv job.id).effect hpc effect ?_ ?_
          · rintro rfl
            exact admits
          · rintro rfl
            exact admits
        · rw [view_after_of_ne hrun same (frame id' other) other]
          exact inv id'
  | create asyncTask =>
      rw [next] at step
      split at step
      · cases step
      · rename_i new
        cases step
        refine (inv id').of_processes_imp (fun some => ?_) fun _ _ mem _ => mem
        refine Collection.find_save_of_ne ?_
        rintro rfl
        obtain ⟨stored, mem, _⟩ := (inv _).left some
        exact new (Option.isSome_iff_exists.mpr ⟨stored, mem⟩)
  | tick later =>
      rw [next] at step
      split at step
      · cases step
        exact inv id'
      · cases step

/-- **A task is executed once.**  In every run of any number of calls of `handleAsyncTasks` in
which whoever gets the lock of a task finds it still pending, and no lock of a run at work is
deleted as an expired one, a task is started at most once, and not in a run before which
another one has changed its status. -/
theorem executedOnce_of_run {now : Timestamp} {asyncTasks : AsyncTaskCollection}
    {locks : String → Option (StoredLock P)} {events : List (AsyncTasksEvent P)}
    (run : Transition.Run (Transition.guarded Admits (Step servers)) (start now asyncTasks locks)
      events s) (id : String) : TaskView.ExecutedOnce (s.log id) :=
  have inv : s.Sound := run.invariant (sound_start now asyncTasks locks)
    fun _ _ _ inv step => inv.step step.1 step.2
  (inv id).executedOnce

instance (v : TaskView P) : DecidablePred v.Processes := fun _ =>
  inferInstanceAs (Decidable (∃ pc ∈ _, JobPc.HoldsLock pc))

instance (s : AsyncTasksState P) : DecidablePred s.Admits := fun event =>
  match event with
  | .job _ id .acquire =>
      inferInstanceAs (Decidable (s.locks id = none →
        ∃ asyncTask ∈ s.asyncTasks.find id, asyncTask.status = .pending))
  | .job _ id .delete =>
      inferInstanceAs (Decidable (∀ found ∈ s.locks id, ¬ TaskView.Processes _ _))
  | .job _ _ .create | .job _ _ (.save _) | .job _ _ .start | .job _ _ (.finish _)
  | .job _ _ .release | .read _ | .create _ | .tick _ => .isTrue trivial

/-- Two servers that process one task at a time. -/
def exampleServers (_ : Fin 2) : Server := ⟨"server", 1⟩

/-- An import of users is pending. -/
def exampleStart : AsyncTasksState (Fin 2) :=
  start 0 (Collection.empty.save
    { id := "T1", name := .usersImport, status := .pending, createdOn := 0 }) fun _ => none

/-- The steps of a run with the task, from the acquisition of the lock. -/
def exampleJob (p : Fin 2) : List (AsyncTasksEvent (Fin 2)) :=
  [.job p "T1" .acquire, .job p "T1" (.save none), .job p "T1" .start, .job p "T1" (.finish none),
    .job p "T1" (.save none), .job p "T1" .release]

/-- The second run finds the task locked. -/
theorem executedOnce_of_run_locked :
    ∃ s : AsyncTasksState (Fin 2), s.log "T1" =
        [(0, .saved .running), (0, .started), (0, .saved .success)] ∧
      TaskView.ExecutedOnce (s.log "T1") := by
  have reached : (Transition.follow (next exampleServers) (fun s event _ => s.Admits event)
      exampleStart ([.read 0, .read 1, .job 0 "T1" .create, .job 0 "T1" .acquire,
        .job 1 "T1" .create, .job 1 "T1" .acquire] ++ (exampleJob 0).tail)).map
          (fun s => s.log "T1") =
        some [(0, .saved .running), (0, .started), (0, .saved .success)] := by
    decide +kernel
  obtain ⟨s, hs, log⟩ := Option.map_eq_some_iff.mp reached
  exact ⟨s, log, executedOnce_of_run
    (.of_follow (fun _ _ _ computed admits => ⟨admits, computed⟩) hs) "T1"⟩

/-- The second run has read the task before the first one has processed it, and gets the lock
afterwards. -/
theorem executed_twice :
    ∃ s : AsyncTasksState (Fin 2), Transition.Run (Step exampleServers) exampleStart
      ([.read 0, .read 1, .job 0 "T1" .create] ++ exampleJob 0 ++
        .job 1 "T1" .create :: exampleJob 1) s ∧ ¬ TaskView.ExecutedOnce (s.log "T1") := by
  have reached : (Transition.follow (next exampleServers) (fun _ _ _ => True) exampleStart
      ([.read 0, .read 1, .job 0 "T1" .create] ++ exampleJob 0 ++
        .job 1 "T1" .create :: exampleJob 1)).map (fun s =>
          ((s.log "T1").filter fun entry => entry.2 = .started).length) = some 2 := by
    decide +kernel
  obtain ⟨s, hs, twice⟩ := Option.map_eq_some_iff.mp reached
  refine ⟨s, .of_follow (fun _ _ _ computed _ => computed) hs, fun once => ?_⟩
  have atMost := once.1
  omega

end AsyncTasksState

end EvServer
