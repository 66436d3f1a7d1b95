import EvServer.Billing.Interleaving

/-!
# A transaction is billed once

The lock of the user keeps the tasks apart, and a task bills only what is `PENDING` when
it reads.  So a `BILLED` transaction could be billed again only after somebody has
overwritten its status.  The handlers can: they save the whole transaction as they read
it, under no lock that the tasks take.  As long as no result of the billing is stored
between the read of a handler and its save, the copy that it saves is `BILLED` just when
the stored transaction is, and `BILLED` stays.
-/

namespace EvServer

/-- The end of a transaction keeps what has been billed, with or without a billing. -/
theorem BillingState.sameBilled_withTasks {billingImpl : Option BillingIntegration}
    {createAndSaveAsyncTasks : Except String Unit} {copy : Transaction}
    {answer : Transaction × Bool} (active : copy.BilledIfActive)
    (h : OCPPUtils.processTransactionBilling (withTasks billingImpl createAndSaveAsyncTasks) copy
      .end = .ok answer) : SameBilled copy answer.1 := by
  cases billingImpl with
  | none =>
      simp only [withTasks, Option.map_none, OCPPUtils.processTransactionBilling, ite_self] at h
      cases h
      exact .of_billingData rfl
  | some billingImpl =>
      exact StripeBillingIntegration.sameBilled_processTransactionBilling rfl active h

namespace HandlerKind

variable {kind : HandlerKind} {copy : Transaction}

/-- What a handler does before the billing does not touch the billing data. -/
theorem sameBilled_prepare {notification : StatusNotification} {answer : Transaction × Bool}
    (h : kind.prepare notification copy = .ok (some answer)) : SameBilled copy answer.1 := by
  cases kind with
  | statusNotification =>
      simp only [prepare] at h
      split at h
      · obtain ⟨computed, hcomputed, h⟩ := Outcome.map_eq_ok.mp h
        cases h
        exact .of_billingData
          (OCPPService.billingData_checkAndComputeTransactionExtraInactivity hcomputed)
      · cases h
  | pendingTask =>
      simp only [prepare] at h
      split at h
      · cases h
        exact .of_billingData rfl
      · cases h

/-- The billing of a handler keeps what has been billed. -/
theorem sameBilled_bill {billingImpl : Option BillingIntegration}
    {createAndSaveAsyncTasks : Except String Unit} {answer : Transaction × Bool × Bool}
    (active : copy.BilledIfActive)
    (h : kind.bill (BillingState.withTasks billingImpl createAndSaveAsyncTasks) copy =
      .ok answer) : SameBilled copy answer.1 := by
  cases kind with
  | statusNotification =>
      simp only [bill, OCPPService.checkAndBillTransaction] at h
      split at h
      · obtain ⟨ended, hended, h⟩ := Outcome.bind_eq_ok.mp h
        cases h
        exact BillingState.sameBilled_withTasks active hended
      · cases h
        exact .of_billingData rfl
  | pendingTask =>
      obtain ⟨ended, hended, h⟩ := Outcome.map_eq_ok.mp h
      cases h
      exact BillingState.sameBilled_withTasks active hended

end HandlerKind

/-- What a task may bill is not `BILLED`, and billing was on when it started. -/
theorem BillTransactionAsyncTask.of_canBill {transaction : Transaction}
    (h : canBill transaction) :
    transaction.billingData.any TransactionBillingData.withBillingActive ∧
      ¬ transaction.isBilled := by
  obtain ⟨active, pending⟩ := Bool.and_eq_true_iff.mp h
  refine ⟨active, fun billed => ?_⟩
  obtain ⟨stop, hstop, hpending⟩ := (Option.any_eq_true _ _).mp pending
  obtain ⟨stop', hstop', hbilled⟩ := (Option.any_eq_true _ _).mp billed
  cases hstop.symm.trans hstop'
  have same := (of_decide_eq_true hpending).symm.trans (of_decide_eq_true hbilled)
  cases same

/-- The copy that a handler works on, and the number of results it had seen stored. -/
def HandlerPc.copy : HandlerPc → Option (Transaction × ℕ)
  | .idle => none
  | .loaded _ copy seen | .prepared _ copy _ seen | .billed copy _ seen => some (copy, seen)

/-- The copy that a task is about to bill or has billed. -/
def TaskPc.copy : TaskPc → Option Transaction
  | .loaded copy | .billed copy => some copy
  | _ => none

/-- The task has the lock. -/
def TaskPc.hasLock : TaskPc → Bool
  | .absent | .waiting => false
  | _ => true

namespace BillingState

variable {H T : Type}

/-- A copy read when `seen` results had been stored, of a transaction of which now
`results` have been. -/
structure IsCopy (stored : Transaction) (results : ℕ) (copy : Transaction) (seen : ℕ) : Prop where
  billedIfActive : copy.BilledIfActive
  seen_le : seen ≤ results
  /-- Only a result that has been stored since the read tells the copy from the store. -/
  fresh : seen = results → copy.isBilled = stored.isBilled

theorem IsCopy.of_sameBilled {stored copy copy' : Transaction} {results seen : ℕ}
    (copied : IsCopy stored results copy seen) (same : SameBilled copy copy') :
    IsCopy stored results copy' seen :=
  ⟨same.billedIfActive copied.billedIfActive, copied.seen_le,
    fun now => same.isBilled.trans (copied.fresh now)⟩

/-- The invariant. -/
structure Consistent (s : BillingState H T) : Prop where
  billedIfActive : s.stored.BilledIfActive
  /-- The copies of the handlers are copies. -/
  copies : ∀ h copy seen, (s.handler h).copy = some (copy, seen) →
    IsCopy s.stored s.results copy seen
  /-- One task at a time has the lock. -/
  exclusive : ∀ t, (s.task t).hasLock → s.lockedBy = some t
  /-- While a task bills, the transaction is not `BILLED`. -/
  working : ∀ t copy, (s.task t).copy = some copy →
    copy.billingData.any TransactionBillingData.withBillingActive ∧ ¬ s.stored.isBilled

/-- The condition: no result of the billing has been stored since the handler that saves
has read the transaction. -/
def SavesFresh (s : BillingState H T) (event : BillingEvent H T) : Prop :=
  match event with
  | .save h _ => ∀ read ∈ (s.handler h).copy, read.2 = s.results
  | _ => True

theorem consistent_start {transaction : Transaction} (notBilled : ¬ transaction.isBilled) :
    (start transaction : BillingState H T).Consistent where
  billedIfActive billed := absurd billed notBilled
  copies _ _ _ h := nomatch h
  exclusive _ h := nomatch h
  working _ _ h := nomatch h

variable {s s' : BillingState H T} {event : BillingEvent H T}
variable {billingImpl : Option BillingIntegration}

theorem Consistent.setHandler [DecidableEq H] (inv : s.Consistent) {h : H} {pc : HandlerPc}
    (copied : ∀ copy seen, pc.copy = some (copy, seen) → IsCopy s.stored s.results copy seen) :
    (s.setHandler h pc).Consistent where
  billedIfActive := inv.billedIfActive
  copies h' copy seen hcopy := by
    change (Function.update s.handler h pc h').copy = some (copy, seen) at hcopy
    rcases eq_or_ne h' h with rfl | other
    · rw [Function.update_self] at hcopy
      exact copied copy seen hcopy
    · rw [Function.update_of_ne other] at hcopy
      exact inv.copies h' copy seen hcopy
  exclusive := inv.exclusive
  working := inv.working

/-- A handler that works on goes on with a copy that the billing does not tell apart. -/
theorem Consistent.setHandler_sameBilled [DecidableEq H] (inv : s.Consistent) {h : H}
    {pc : HandlerPc} {copy copy' : Transaction} {seen : ℕ}
    (old : (s.handler h).copy = some (copy, seen)) (new : pc.copy = some (copy', seen))
    (same : copy.BilledIfActive → SameBilled copy copy') : (s.setHandler h pc).Consistent := by
  have copied := inv.copies h copy seen old
  refine inv.setHandler fun after seen' hafter => ?_
  cases new.symm.trans hafter
  exact copied.of_sameBilled (same copied.billedIfActive)

theorem Consistent.setHandler_idle [DecidableEq H] (inv : s.Consistent) {h : H} :
    (s.setHandler h .idle).Consistent :=
  inv.setHandler (by rintro _ _ ⟨⟩)

/-- A task moves, and may take or release the lock. -/
theorem Consistent.setTask [DecidableEq T] (inv : s.Consistent) {t : T} {pc : TaskPc}
    {lockedBy : Option T} {runs : ℕ} (mine : pc.hasLock → lockedBy = some t)
    (others : ∀ t', t' ≠ t → (s.task t').hasLock → lockedBy = some t')
    (working : ∀ copy, pc.copy = some copy →
      copy.billingData.any TransactionBillingData.withBillingActive ∧ ¬ s.stored.isBilled) :
    Consistent { s.setTask t pc with lockedBy := lockedBy, runs := runs } where
  billedIfActive := inv.billedIfActive
  copies := inv.copies
  exclusive t' hlock := by
    change (Function.update s.task t pc t').hasLock at hlock
    rcases eq_or_ne t' t with rfl | other
    · rw [Function.update_self] at hlock
      exact mine hlock
    · rw [Function.update_of_ne other] at hlock
      exact others t' other hlock
  working t' copy hcopy := by
    change (Function.update s.task t pc t').copy = some copy at hcopy
    rcases eq_or_ne t' t with rfl | other
    · rw [Function.update_self] at hcopy
      exact working copy hcopy
    · rw [Function.update_of_ne other] at hcopy
      exact inv.working t' copy hcopy

/-- Nobody else has the lock of a task. -/
theorem Consistent.unlocked_of_ne (inv : s.Consistent) {t t' : T} (other : t' ≠ t)
    (lock : (s.task t).hasLock) : ¬ (s.task t').hasLock := by
  intro lock'
  have same := (inv.exclusive t lock).symm.trans (inv.exclusive t' lock')
  exact other (Option.some.inj same).symm

theorem TaskPc.hasLock_of_copy {pc : TaskPc} {copy : Transaction} (h : pc.copy = some copy) :
    pc.hasLock := by
  cases pc with
  | loaded _ | billed _ => rfl
  | absent | waiting | locked | releasing | crashed => cases h

/-- The result of the task that has the lock is stored.  Every copy that a handler has is
outdated then. -/
theorem Consistent.store [DecidableEq T] (inv : s.Consistent) {t : T} {copy : Transaction}
    (hcopy : (s.task t).copy = some copy) :
    Consistent
      { s.setTask t .releasing with
        stored := TransactionStorage.saveTransactionBillingData s.stored copy.billingData
        results := s.results + 1 } where
  billedIfActive _ := (inv.working t copy hcopy).1
  copies h copy' seen hread := by
    have copied := inv.copies h copy' seen hread
    refine ⟨copied.billedIfActive, copied.seen_le.trans (Nat.le_succ _), ?_⟩
    intro now
    have later : seen = s.results + 1 := now
    have earlier := copied.seen_le
    omega
  exclusive t' hlock := by
    change (Function.update s.task t .releasing t').hasLock at hlock
    rcases eq_or_ne t' t with rfl | other
    · exact inv.exclusive t' (TaskPc.hasLock_of_copy hcopy)
    · rw [Function.update_of_ne other] at hlock
      exact inv.exclusive t' hlock
  working t' copy' hcopy' := by
    change (Function.update s.task t .releasing t').copy = some copy' at hcopy'
    rcases eq_or_ne t' t with rfl | other
    · rw [Function.update_self] at hcopy'
      cases hcopy'
    · rw [Function.update_of_ne other] at hcopy'
      exact absurd (TaskPc.hasLock_of_copy hcopy')
        (inv.unlocked_of_ne other (TaskPc.hasLock_of_copy hcopy))

/-- A handler saves a copy that is `BILLED` just when the stored transaction is. -/
theorem Consistent.save [DecidableEq H] (inv : s.Consistent) {h : H} {copy : Transaction}
    (hcopy : (s.handler h).copy = some (copy, s.results)) :
    Consistent { s.setHandler h .idle with stored := TransactionStorage.transactionMDB copy } := by
  have copied := inv.copies h copy s.results hcopy
  have same : SameBilled copy (TransactionStorage.transactionMDB copy) :=
    .of_billingData (TransactionStorage.billingData_transactionMDB copy)
  have kept : (TransactionStorage.transactionMDB copy).isBilled = s.stored.isBilled :=
    same.isBilled.trans (copied.fresh rfl)
  exact
    { billedIfActive := same.billedIfActive copied.billedIfActive
      copies := fun h' copy' seen hread => by
        have copied' := inv.setHandler_idle.copies h' copy' seen hread
        exact ⟨copied'.billedIfActive, copied'.seen_le,
          fun now => (copied'.fresh now).trans kept.symm⟩
      exclusive := inv.exclusive
      working := fun t copy' hwork => by
        have working := inv.working t copy' hwork
        exact ⟨working.1, by rw [kept]; exact working.2⟩ }

variable [DecidableEq H] [DecidableEq T]

/-- **A step keeps the invariant**, if it saves no outdated copy. -/
theorem Consistent.step (inv : s.Consistent) (fresh : s.SavesFresh event)
    (step : s.next billingImpl event = some s') : s'.Consistent := by
  cases event with
  | read h kind =>
      simp only [next] at step
      split at step
      · cases step
        refine inv.setHandler fun copy seen hcopy => ?_
        cases hcopy
        exact ⟨inv.billedIfActive, le_rfl, fun _ => rfl⟩
      · cases step
  | prepare h notification =>
      simp only [next] at step
      split at step
      · rename_i kind copy seen loaded
        split at step
        · rename_i copy' updated prepared
          cases step
          exact inv.setHandler_sameBilled (by rw [loaded]; rfl) rfl
            fun _ => HandlerKind.sameBilled_prepare prepared
        · cases step
          exact inv.setHandler_idle
      · cases step
  | bill h t createAndSaveAsyncTasks =>
      simp only [next] at step
      split at step
      · rename_i kind copy updated seen prepared absent
        split at step
        · rename_i copy' billingUpdated created billed
          cases step
          have handled : (s.setHandler h
              (.billed copy' (updated || billingUpdated) seen)).Consistent :=
            inv.setHandler_sameBilled (by rw [prepared]; rfl) rfl
              fun active => HandlerKind.sameBilled_bill active billed
          refine handled.setTask (fun lock => ?_) (fun t' _ => handled.exclusive t')
            fun copy hcopy => ?_
          · cases created <;> cases lock
          · cases created <;> cases hcopy
        · cases step
          exact inv.setHandler_idle
      · cases step
  | save h roamingUpdated =>
      simp only [next] at step
      split at step
      · rename_i copy updated seen billed
        cases step
        have read : (s.handler h).copy = some (copy, seen) := by
          rw [billed]
          rfl
        have now : seen = s.results := fresh (copy, seen) read
        split
        · exact inv.save (now ▸ read)
        · exact inv.setHandler_idle
      · cases step
  | abort h =>
      cases step
      exact inv.setHandler_idle
  | lock t =>
      simp only [next] at step
      split at step
      · rename_i unlocked
        cases step
        refine inv.setTask (fun _ => rfl) (fun t' _ lock => ?_) (by rintro _ ⟨⟩)
        have locked := inv.exclusive t' lock
        rw [unlocked] at locked
        cases locked
      · cases step
  | load t =>
      simp only [next] at step
      split at step
      · rename_i locked
        cases step
        have lock := inv.exclusive t (by rw [locked]; rfl)
        refine inv.setTask (fun _ => lock) (fun t' _ => inv.exclusive t') fun copy hcopy => ?_
        split at hcopy
        · rename_i canBill
          cases hcopy
          exact BillTransactionAsyncTask.of_canBill canBill
        · cases hcopy
      · cases step
  | billTransaction t check billInvoiceItem =>
      simp only [next] at step
      split at step
      · rename_i copy loaded
        have read : (s.task t).copy = some copy := by
          rw [loaded]
          rfl
        have lock := inv.exclusive t (TaskPc.hasLock_of_copy read)
        have working := inv.working t copy read
        split at step
        · cases step
          refine inv.setTask (fun _ => lock) (fun t' _ => inv.exclusive t') fun copy' hcopy' => ?_
          cases hcopy'
          refine ⟨?_, working.2⟩
          rw [OCPPUtils.setBillingStop, Option.any_map]
          exact working.1
        · cases step
          exact inv.setTask (fun _ => lock) (fun t' _ => inv.exclusive t') (by rintro _ ⟨⟩)
      · cases step
  | store t =>
      simp only [next] at step
      split at step
      · rename_i copy billed
        cases step
        exact inv.store (by rw [billed]; rfl)
      · cases step
  | release t =>
      simp only [next] at step
      split at step
      · rename_i releasing
        cases step
        refine inv.setTask (by rintro ⟨⟩) (fun t' other lock => ?_) (by rintro _ ⟨⟩)
        exact absurd lock (inv.unlocked_of_ne other (by rw [releasing]; rfl))
      · cases step
  | crash t =>
      simp only [next] at step
      split at step
      · cases step
      · cases step
      · rename_i notAbsent notWaiting
        cases step
        have lock : (s.task t).hasLock := by
          cases pc : s.task t with
          | absent => exact absurd pc notAbsent
          | waiting => exact absurd pc notWaiting
          | locked | loaded _ | billed _ | releasing | crashed => rfl
        exact inv.setTask (fun _ => inv.exclusive t lock) (fun t' _ => inv.exclusive t')
          (by rintro _ ⟨⟩)

/-- **A `BILLED` transaction stays as it is billed**: its status stays, and the billing is
not called. -/
theorem Consistent.billed_step (inv : s.Consistent) (fresh : s.SavesFresh event)
    (billed : s.stored.isBilled) (step : s.next billingImpl event = some s') :
    s'.stored.isBilled ∧ s'.runs = s.runs := by
  cases event with
  | read | prepare | bill | lock | load | release | crash =>
      -- These steps leave the store alone.
      simp only [next] at step
      repeat' split at step
      all_goals cases step
      all_goals exact ⟨billed, rfl⟩
  | abort h =>
      cases step
      exact ⟨billed, rfl⟩
  | save h roamingUpdated =>
      simp only [next] at step
      split at step
      · rename_i copy updated seen loaded
        cases step
        have read : (s.handler h).copy = some (copy, seen) := by
          rw [loaded]
          rfl
        have copied := inv.copies h copy seen read
        refine ⟨?_, rfl⟩
        change (ite _ _ _ : Transaction).isBilled
        split
        · have same : SameBilled copy (TransactionStorage.transactionMDB copy) :=
            .of_billingData (TransactionStorage.billingData_transactionMDB copy)
          rw [same.isBilled, copied.fresh (fresh (copy, seen) read)]
          exact billed
        · exact billed
      · cases step
  | billTransaction t check billInvoiceItem =>
      simp only [next] at step
      split at step
      · rename_i copy loaded
        exact absurd billed (inv.working t copy (by rw [loaded]; rfl)).2
      · cases step
  | store t =>
      simp only [next] at step
      split at step
      · rename_i copy loaded
        exact absurd billed (inv.working t copy (by rw [loaded]; rfl)).2
      · cases step

/-- A step of the system. -/
def Step (billingImpl : Option BillingIntegration) (s : BillingState H T)
    (event : BillingEvent H T) (s' : BillingState H T) : Prop :=
  s.next billingImpl event = some s'

/-- **Billed once.**  In every run, of any number of handlers and tasks, in which no
handler saves a copy that it read before a result of the billing was stored: once the
transaction is `BILLED` it stays so, and it is not billed again. -/
theorem billed_once_of_run {transaction : Transaction} (notBilled : ¬ transaction.isBilled)
    {events events' : List (BillingEvent H T)}
    (before : Transition.Run (Transition.guarded SavesFresh (Step billingImpl))
      (start transaction) events s)
    (billed : s.stored.isBilled)
    (after : Transition.Run (Transition.guarded SavesFresh (Step billingImpl)) s events' s') :
    s'.stored.isBilled ∧ s'.runs = s.runs := by
  have inv : s.Consistent :=
    before.invariant (consistent_start notBilled) fun _ _ _ inv step => inv.step step.1 step.2
  have kept : s'.Consistent ∧ s'.stored.isBilled ∧ s'.runs = s.runs :=
    after.invariant (I := fun r => r.Consistent ∧ r.stored.isBilled ∧ r.runs = s.runs)
      ⟨inv, billed, rfl⟩
      fun _ _ _ kept step =>
        have billed := kept.1.billed_step step.1 kept.2.1 step.2
        ⟨kept.1.step step.1 step.2, billed.1, billed.2.trans kept.2.2⟩
  exact kept.2

/-- A transaction that stopped a minute ago, still to be billed. -/
def exampleStopped : Transaction :=
  { id := 1
    chargeBoxID := "CS-1"
    connectorId := 1
    tagID := "TAG-1"
    userIssuer := some true
    meterStart := 0
    timestamp := 0
    billingData := some { withBillingActive := true, stop := some { status := .pending } }
    stop := some
      { meterStop := 2000
        timestamp := 3600000
        tagID := "TAG-1"
        extraInactivityComputed := false
        stateOfCharge := 0
        signedData := ""
        totalConsumptionWh := 2000
        totalInactivitySecs := 0
        totalDurationSecs := 3600
        inactivityStatus := .info
        price := 1
        roundedPrice := 1
        priceUnit := some "EUR"
        pricingSource := none } }

def exampleBilling : BillingIntegration :=
  { startTransaction := fun _ => .ok true
    stopTransaction := fun _ => .ok { status := .pending }
    endTransaction := StripeBillingIntegration.endTransaction (.ok ()) }

/-- The connector has become available, with no extra inactivity to count. -/
def exampleNotification : StatusNotification :=
  { chargingStation := { id := "CS-1" }
    connectorStatus := .preparing
    status := .available
    timestamp := some 3660000 }

/-- A handler reads the transaction and hands it to a task. -/
def exampleHandover (h t : Fin 2) : List (BillingEvent (Fin 2) (Fin 2)) :=
  [.read h .statusNotification, .prepare h exampleNotification, .bill h t (.ok ())]

/-- A task bills the transaction. -/
def exampleTask (t : Fin 2) (invoiceID : String) : List (BillingEvent (Fin 2) (Fin 2)) :=
  [.lock t, .load t, .billTransaction t (.ok ()) (some (.ok invoiceID)), .store t, .release t]

instance : DecidableRel (SavesFresh (H := Fin 2) (T := Fin 2)) := fun s event =>
  match event with
  | .save h _ => inferInstanceAs (Decidable (∀ read ∈ (s.handler h).copy, read.2 = s.results))
  | .read .. | .prepare .. | .bill .. | .abort _ | .lock _ | .load _ | .billTransaction ..
  | .store _ | .release _ | .crash _ => isTrue trivial

/-- One handler after the other, and the task of the first in between. -/
theorem billed_once_of_run_two_notifications :
    ∃ s s' : BillingState (Fin 2) (Fin 2),
      Transition.Run (Transition.guarded SavesFresh (Step (some exampleBilling)))
        (start exampleStopped) (exampleHandover 0 0 ++ [.save 0 false] ++ exampleTask 0 "IN-1") s ∧
      Transition.Run (Transition.guarded SavesFresh (Step (some exampleBilling)))
        s (exampleHandover 1 1 ++ [.save 1 false]) s' ∧
      s'.stored.isBilled ∧ s'.runs = s.runs := by
  have first : ((Transition.follow (next (some exampleBilling)) (fun s event _ => s.SavesFresh event)
      (start exampleStopped)
      (exampleHandover 0 0 ++ [.save 0 false] ++ exampleTask 0 "IN-1")).bind fun s =>
        (Transition.follow (next (some exampleBilling)) (fun s event _ => s.SavesFresh event)
          s (exampleHandover 1 1 ++ [.save 1 false])).map fun _ => s.stored.isBilled) =
            some true := by
    decide +kernel
  obtain ⟨s, hs, hlater⟩ := Option.bind_eq_some_iff.mp first
  obtain ⟨s', hs', billed⟩ := Option.map_eq_some_iff.mp hlater
  have before : Transition.Run (Transition.guarded SavesFresh (Step (some exampleBilling)))
      (start exampleStopped)
      (exampleHandover 0 0 ++ [.save 0 false] ++ exampleTask 0 "IN-1") s :=
    .of_follow (fun _ _ _ computed fresh => ⟨fresh, computed⟩) hs
  have after : Transition.Run (Transition.guarded SavesFresh (Step (some exampleBilling)))
      s (exampleHandover 1 1 ++ [.save 1 false]) s' :=
    .of_follow (fun _ _ _ computed fresh => ⟨fresh, computed⟩) hs'
  exact ⟨s, s', before, after, billed_once_of_run (by decide +kernel) before billed after⟩

/-- The second handler reads before the task of the first stores its result, and saves
after: the transaction is `PENDING` again, and the task of the second bills it again. -/
theorem billed_twice_after_stale_save :
    ∃ s s' : BillingState (Fin 2) (Fin 2),
      Transition.Run (Step (some exampleBilling)) (start exampleStopped)
        (exampleHandover 0 0 ++ [.save 0 false] ++ exampleHandover 1 1 ++ exampleTask 0 "IN-1")
        s ∧
      Transition.Run (Step (some exampleBilling)) s
        ([.save 1 false, .lock 1, .load 1, .billTransaction 1 (.ok ()) (some (.ok "IN-2"))]) s' ∧
      s.stored.isBilled ∧ s.runs = 1 ∧ ¬ s'.stored.isBilled ∧ s'.runs = 2 := by
  have reached : ((Transition.follow (next (some exampleBilling)) (fun _ _ _ => True)
      (start exampleStopped)
      (exampleHandover 0 0 ++ [.save 0 false] ++ exampleHandover 1 1 ++ exampleTask 0 "IN-1")).bind
        fun s =>
          (Transition.follow (next (some exampleBilling)) (fun _ _ _ => True) s
            [.save 1 false, .lock 1, .load 1,
              .billTransaction 1 (.ok ()) (some (.ok "IN-2"))]).map fun s' =>
                (s.stored.isBilled, s.runs, s'.stored.isBilled, s'.runs)) =
        some (true, 1, false, 2) := by
    decide +kernel
  obtain ⟨s, hs, hlater⟩ := Option.bind_eq_some_iff.mp reached
  obtain ⟨s', hs', outcome⟩ := Option.map_eq_some_iff.mp hlater
  simp only [Prod.mk.injEq] at outcome
  refine ⟨s, s', .of_follow (fun _ _ _ computed _ => computed) hs,
    .of_follow (fun _ _ _ computed _ => computed) hs', outcome.1, outcome.2.1, ?_,
    outcome.2.2.2⟩
  rw [outcome.2.2.1]
  exact Bool.false_ne_true

end BillingState

end EvServer
