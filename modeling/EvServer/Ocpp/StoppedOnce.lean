import EvServer.Ocpp.SoftStop
import EvServer.Ocpp.StopRetry

/-!
# A transaction is stopped once

The check that a transaction is not stopped yet is made on a copy: on the one that the
handler of `StopTransaction` reads, and on the one that a soft stop was given.  As long as
no stop has been saved since the copy was read, the stored transaction runs like the copy;
so if no stop saves an older copy, the first stop that is saved is the only one.  What has
been stopped then changes by the billing alone.
-/

namespace EvServer

namespace StopAttempt

variable {attempt : StopAttempt} {context : StopContext} {isSoftStop : Bool}

/-- A handler that does not get to the save leaves the transactions alone. -/
theorem transactions_storeAfter (unsaved : attempt.transactionToSave context isSoftStop = none)
    (store : Store) :
    (attempt.storeAfter context isSoftStop store
      (attempt.failure context isSoftStop)).transactions = store.transactions := by
  have unwritten (store : Store) (stopped : attempt.stoppedTransaction context isSoftStop = none) :
      (saveStopped (attempt.stoppedTransaction context isSoftStop) store).transactions =
        store.transactions := by
    rw [stopped]
    rfl
  unfold transactionToSave at unsaved
  split at unsaved <;> rename_i failure <;> rw [failure]
  · exact unwritten _ unsaved
  · exact unwritten _ unsaved
  · rfl
  · rfl
  · rfl

theorem id_transactionToSave {transaction : Transaction}
    (h : attempt.transactionToSave context isSoftStop = some transaction) :
    transaction.id = attempt.transaction.id := by
  unfold transactionToSave at h
  split at h
  · exact (OCPPService.stoppedTransaction_spec h).1
  · exact (OCPPService.stoppedTransaction_spec h).1
  · cases h
  · cases h
  · cases h

/-- What the handler leaves when it gets to the save. -/
theorem storeAfter_eq_saveStopped {transaction : Transaction}
    (reached : attempt.transactionToSave context isSoftStop = some transaction) (store : Store) :
    attempt.storeAfter context isSoftStop store (attempt.failure context isSoftStop) =
      saveStopped (some transaction)
        (attempt.storeAfter context isSoftStop store (some .savingTransaction)) := by
  unfold transactionToSave at reached
  split at reached
  · rename_i failure
    rw [failure, ← reached]
    rfl
  · rename_i failure
    rw [failure, ← reached]
    rfl
  · cases reached
  · cases reached
  · cases reached

end StopAttempt

theorem OCPPService.id_stopCopy {context : StopContext} {transaction stopped : Transaction}
    {chargeBox : Option ChargingStation}
    (h : stopCopy context transaction chargeBox = .ok stopped) : stopped.id = transaction.id := by
  obtain ⟨users, -, rfl⟩ := Outcome.map_eq_ok.mp h
  rfl

namespace StopPc

/-- The transactions that the stop has read or changed, with the number of stops saved when
they were read. -/
def copies : StopPc → List (Transaction × ℕ)
  | .idle => []
  | .copied softStop | .refused softStop => [(softStop.transaction, softStop.seen)]
  | .checked softStop attempt seen =>
      (attempt.transaction, seen) ::
        (softStop.map fun softStop => (softStop.transaction, softStop.seen)).toList
  | .stopped softStop transaction _ seen =>
      (transaction, seen) ::
        (softStop.map fun softStop => (softStop.transaction, softStop.seen)).toList
  | .rebuilt softStop transaction => [(transaction, softStop.seen)]

/-- The transaction that the stop is to save, with the number of stops saved when it was
read. -/
def toSave : StopPc → Option (Transaction × ℕ)
  | .stopped _ transaction _ seen => some (transaction, seen)
  | .rebuilt softStop transaction => some (transaction, softStop.seen)
  | .idle | .copied _ | .checked .. | .refused _ => none

theorem mem_copies_of_toSave {pc : StopPc} {copy : Transaction × ℕ} (h : pc.toSave = some copy) :
    copy ∈ pc.copies := by
  cases pc with
  | stopped | rebuilt =>
      cases h
      exact List.mem_cons_self
  | idle | copied | checked | refused => cases h

end StopPc

namespace StopState

variable {P T : Type} {id : ℕ}

/-- A copy is of the transaction, and was running if no stop has been saved since. -/
structure Copied (id : ℕ) (s : StopState P T) (copy : Transaction × ℕ) : Prop where
  sameID : copy.1.id = id
  seen_le : copy.2 ≤ s.stops
  running : copy.2 = s.stops → ∀ transaction ∈ s.transaction id, transaction.stop = none

/-- The invariant: the copies are such. -/
def Consistent (id : ℕ) (s : StopState P T) : Prop :=
  ∀ p, ∀ copy ∈ (s.party p).copies, Copied id s copy

/-- A stop saves a copy since whose read no stop has been saved. -/
def SavesFresh (s : StopState P T) : StopEvent P T → Prop
  | .saveStopped p | .saveCopy p => ∀ copy ∈ (s.party p).toSave, copy.2 = s.stops
  | _ => True

variable {s s' : StopState P T} {p : P}

/-- The copies of one stop change. -/
theorem Consistent.setParty [DecidableEq P] (inv : s.Consistent id) {pc : StopPc}
    (copies : ∀ copy ∈ pc.copies, Copied id s copy) : (s.setParty p pc).Consistent id := by
  intro p' copy mem
  change copy ∈ (Function.update s.party p pc p').copies at mem
  rw [Function.update_apply] at mem
  obtain ⟨sameID, seen_le, running⟩ : Copied id s copy := by
    split at mem
    · exact copies copy mem
    · exact inv p' copy mem
  exact ⟨sameID, seen_le, running⟩

/-- A store in which the transaction runs or is stopped as before. -/
theorem Consistent.setStore (inv : s.Consistent id) {store : Store}
    (same : ∀ transaction ∈ store.transactions.find id,
      ∃ before ∈ s.transaction id, transaction.stop = before.stop) :
    Consistent id { s with store := store } := by
  intro p copy mem
  obtain ⟨sameID, seen_le, running⟩ := inv p copy mem
  refine ⟨sameID, seen_le, fun now transaction stored => ?_⟩
  obtain ⟨before, found, stop⟩ := same transaction stored
  exact stop.trans (running now before found)

/-- A store with the same transactions. -/
theorem Consistent.setStore_of_transactions (inv : s.Consistent id) {store : Store}
    (same : store.transactions = s.store.transactions) :
    Consistent id { s with store := store } := by
  refine inv.setStore fun transaction stored => ⟨transaction, ?_, rfl⟩
  rw [same] at stored
  exact stored

/-- After a save all copies are outdated. -/
theorem Consistent.save (inv : s.Consistent id) {transaction : Transaction} :
    (s.save transaction).Consistent id := by
  intro p copy mem
  obtain ⟨sameID, seen_le, -⟩ := inv p copy mem
  refine ⟨sameID, Nat.le_succ_of_le seen_le, fun now => ?_⟩
  have now : copy.2 = s.stops + 1 := now
  omega

/-- The copies of a stop whose handler has a copy of its own. -/
theorem copied_cons {softStop : Option SoftStop} {transaction : Transaction} {seen : ℕ}
    (own : Copied id s (transaction, seen))
    (copied : ∀ softStop' ∈ softStop, Copied id s (softStop'.transaction, softStop'.seen)) :
    ∀ copy ∈ (transaction, seen) ::
      (softStop.map fun softStop => (softStop.transaction, softStop.seen)).toList,
      Copied id s copy := by
  intro copy mem
  rcases List.mem_cons.mp mem with rfl | mem
  · exact own
  · obtain ⟨softStop', is, rfl⟩ := Option.map_eq_some_iff.mp (Option.mem_toList.mp mem)
    exact copied softStop' is

/-- The billing data of the transaction are stored. -/
theorem find_saveTransactionBillingData {stored : Transaction}
    (found : s.transaction id = some stored) (billingData : Option TransactionBillingData) :
    (s.store.transactions.save
      (TransactionStorage.saveTransactionBillingData stored billingData)).find id =
        some (TransactionStorage.saveTransactionBillingData stored billingData) := by
  have sameID : stored.id = id := Collection.key_of_find found
  subst sameID
  exact @Collection.find_save_self _ _ Transaction.id _ _ _

/-- The billing tasks hold no such copies. -/
theorem Consistent.setTask [DecidableEq T] (inv : s.Consistent id) (t : T) (pc : StoppedTaskPc) :
    (s.setTask t pc).Consistent id := by
  intro p copy mem
  obtain ⟨sameID, seen_le, running⟩ := inv p copy mem
  exact ⟨sameID, seen_le, running⟩

variable [DecidableEq P]

/-- The nested stop is refused, or a stop of the station is over. -/
theorem Consistent.refuse (inv : s.Consistent id) {softStop : Option SoftStop}
    (copied : ∀ softStop' ∈ softStop, Copied id s (softStop'.transaction, softStop'.seen)) :
    (s.refuse p softStop).Consistent id := by
  refine inv.setParty fun copy mem => ?_
  cases softStop with
  | none => cases mem
  | some softStop =>
      rw [List.mem_singleton.mp mem]
      exact copied softStop rfl

/-- The handler reads a transaction that runs. -/
theorem Consistent.check (inv : s.Consistent id) {softStop : Option SoftStop}
    {context : StopContext} {headers : OCPPHeader} {stopTransaction : OCPPStopTransactionRequest}
    {isStoppedByCentralSystem : Bool} (sameID : stopTransaction.transactionId = id)
    (copied : ∀ softStop' ∈ softStop, Copied id s (softStop'.transaction, softStop'.seen)) :
    (s.check p softStop context headers stopTransaction isStoppedByCentralSystem).Consistent id := by
  unfold StopState.check
  split
  · rename_i attempt checked
    obtain ⟨-, found, notStopped⟩ := OCPPService.checkStopTransaction_ok checked
    rw [sameID] at found
    refine inv.setParty (copied_cons ⟨Collection.key_of_find found, le_rfl, ?_⟩ copied)
    intro _ transaction stored
    rw [StopState.transaction, found] at stored
    cases stored
    exact notStopped
  · exact inv.setParty (by rintro _ ⟨⟩)
  · exact inv.refuse copied

/-- The checks write nothing. -/
theorem transaction_check (s : StopState P T) (p : P) (softStop : Option SoftStop)
    (context : StopContext) (headers : OCPPHeader) (stopTransaction : OCPPStopTransactionRequest)
    (isStoppedByCentralSystem : Bool) :
    (s.check p softStop context headers stopTransaction isStoppedByCentralSystem).transaction id =
      s.transaction id := by
  unfold StopState.check
  split <;> rfl

/-- Nor does the handler write to the transactions before it saves. -/
theorem transaction_prepare (s : StopState P T) (p : P) (softStop : Option SoftStop)
    (attempt : StopAttempt) (seen : ℕ) (context : StopContext) :
    (s.prepare p softStop attempt seen context).transaction id = s.transaction id := by
  unfold StopState.prepare
  dsimp only
  split
  · rfl
  · rename_i unsaved
    exact congrArg (Collection.find · id) (StopAttempt.transactions_storeAfter unsaved s.store)

/-- **The steps of a stop are its handler**: one after the other, without anybody else, they
leave what `handleStopTransaction` leaves. -/
theorem handleStopTransaction_eq {softStop : Option SoftStop} {context : StopContext}
    {headers : OCPPHeader} {stopTransaction : OCPPStopTransactionRequest}
    {isStoppedByCentralSystem : Bool} {attempt : StopAttempt} (s : StopState P T) (p : P) (seen : ℕ)
    (checked : OCPPService.checkStopTransaction context headers stopTransaction
      isStoppedByCentralSystem s.store = .ok (some attempt)) :
    (OCPPService.handleStopTransaction context headers stopTransaction softStop.isSome
        isStoppedByCentralSystem s.store).2 =
      ((attempt.transactionToSave context softStop.isSome).elim
        (s.prepare p softStop attempt seen context)
        (s.prepare p softStop attempt seen context).save).store := by
  rw [OCPPService.handleStopTransaction_of_attempt checked]
  unfold StopState.prepare
  dsimp only
  split
  · rename_i transaction reached
    rw [reached]
    exact StopAttempt.storeAfter_eq_saveStopped reached s.store
  · rename_i unsaved
    rw [unsaved]
    rfl

/-- The handler gets to the save, or fails. -/
theorem Consistent.prepare (inv : s.Consistent id) {softStop : Option SoftStop}
    {attempt : StopAttempt} {seen : ℕ} (context : StopContext)
    (own : Copied id s (attempt.transaction, seen))
    (copied : ∀ softStop' ∈ softStop, Copied id s (softStop'.transaction, softStop'.seen)) :
    (s.prepare p softStop attempt seen context).Consistent id := by
  unfold StopState.prepare
  dsimp only
  split
  · rename_i transaction reached
    have stopped : Copied id s (transaction, seen) :=
      ⟨(StopAttempt.id_transactionToSave reached).trans own.sameID, own.seen_le, own.running⟩
    have party : (s.setParty p (.stopped softStop transaction
        (attempt.failure context softStop.isSome).isNone seen)).Consistent id :=
      inv.setParty (copied_cons stopped copied)
    exact party.setStore_of_transactions rfl
  · rename_i unsaved
    exact (inv.refuse copied).setStore_of_transactions
      (StopAttempt.transactions_storeAfter unsaved s.store)

variable [DecidableEq T] {event : StopEvent P T}

/-- **A step keeps the invariant.** -/
theorem Consistent.step (inv : s.Consistent id) (step : s.Step id event s') :
    s'.Consistent id := by
  unfold Step at step
  cases event with
  | readCopy p chargeBox =>
      simp only [next] at step
      split at step
      · rename_i transaction idle found
        split at step
        · rename_i running
          cases step
          refine inv.setParty fun copy mem => ?_
          rw [List.mem_singleton.mp mem]
          refine ⟨Collection.key_of_find found, le_rfl, fun _ transaction' stored => ?_⟩
          rw [found] at stored
          cases stored
          exact Option.isNone_iff_eq_none.mp running
        · cases step
      · cases step
  | softStop p context chargingStation organization siteArea =>
      simp only [next] at step
      split at step
      · rename_i softStop copied
        split at step
        · cases step
          have own : Copied id s (softStop.transaction, softStop.seen) :=
            inv p _ (by rw [copied]; exact List.mem_cons_self)
          exact inv.check own.sameID (by rintro _ ⟨⟩; exact own)
        · cases step
          exact inv.setParty (by rintro _ ⟨⟩)
      · cases step
  | stopTransaction p context headers stopTransaction isStoppedByCentralSystem =>
      simp only [next] at step
      split at step
      · obtain ⟨sameID, step⟩ := Option.ite_none_right_eq_some.mp step
        cases step
        exact inv.check sameID (by rintro _ ⟨⟩)
      · cases step
  | prepare p context =>
      simp only [next] at step
      split at step
      · rename_i softStop attempt seen checked
        cases step
        have copies := inv p
        rw [checked] at copies
        refine inv.prepare context (copies _ List.mem_cons_self) fun softStop' is => ?_
        refine copies _ (List.mem_cons_of_mem _ ?_)
        rw [is]
        exact List.mem_singleton_self _
      · cases step
  | saveStopped p =>
      simp only [next] at step
      split at step
      · rename_i softStop transaction accepts seen stopped
        cases step
        refine Consistent.save ?_
        split
        · exact inv.setParty (by rintro _ ⟨⟩)
        · refine inv.refuse fun softStop' is => ?_
          refine inv p _ ?_
          rw [stopped, is]
          exact List.mem_cons_of_mem _ (List.mem_singleton_self _)
      · cases step
  | stopCopy p context =>
      simp only [next] at step
      split at step
      · rename_i softStop refused
        split at step
        · rename_i transaction rebuilt
          cases step
          have own : Copied id s (softStop.transaction, softStop.seen) :=
            inv p _ (by rw [refused]; exact List.mem_cons_self)
          refine inv.setParty fun copy mem => ?_
          rw [List.mem_singleton.mp mem]
          exact ⟨(OCPPService.id_stopCopy rebuilt).trans own.sameID, own.seen_le, own.running⟩
        · cases step
          exact inv.setParty (by rintro _ ⟨⟩)
      · cases step
  | saveCopy p =>
      simp only [next] at step
      split at step
      · cases step
        exact (inv.setParty (by rintro _ ⟨⟩)).save
      · cases step
  | abort p =>
      cases step
      exact inv.setParty (by rintro _ ⟨⟩)
  | load t =>
      simp only [next] at step
      split at step
      · obtain ⟨-, step⟩ := Option.ite_none_right_eq_some.mp step
        cases step
        exact inv.setTask t _
      · cases step
  | billTransaction t check billInvoiceItem =>
      simp only [next] at step
      repeat' split at step
      all_goals cases step
      all_goals exact inv.setTask t _
  | saveTransactionBillingData t =>
      simp only [next] at step
      split at step
      · rename_i copy stored billed found
        cases step
        refine (inv.setTask t .idle).setStore fun transaction mem => ⟨stored, found, ?_⟩
        rw [find_saveTransactionBillingData found] at mem
        cases mem
        rfl
      · cases step

/-- **A stopped transaction changes by the billing alone**, if no stop saves an outdated
copy. -/
theorem Consistent.kept (inv : s.Consistent id) (fresh : s.SavesFresh event)
    {transaction : Transaction} (stored : s.transaction id = some transaction)
    (stopped : transaction.stop.isSome) (step : s.Step id event s') :
    s'.transaction id = some transaction ∨
      (∃ t, event = .saveTransactionBillingData t) ∧ ∃ billingData, s'.transaction id =
        some (TransactionStorage.saveTransactionBillingData transaction billingData) := by
  -- What is to be saved has been read from a transaction that was running.
  have never {p : P} (toSave : (s.party p).toSave.isSome)
      (fresh : ∀ copy ∈ (s.party p).toSave, copy.2 = s.stops) : False := by
    obtain ⟨copy, is⟩ := Option.isSome_iff_exists.mp toSave
    have copied := inv p copy (StopPc.mem_copies_of_toSave is)
    rw [copied.running (fresh copy is) transaction stored] at stopped
    cases stopped
  unfold Step at step
  cases event with
  | readCopy | billTransaction | load =>
      simp only [next] at step
      repeat' split at step
      all_goals cases step
      all_goals exact .inl stored
  | softStop p context chargingStation organization siteArea =>
      simp only [next] at step
      split at step
      · split at step
        · cases step
          exact .inl ((transaction_check ..).trans stored)
        · cases step
          exact .inl stored
      · cases step
  | stopTransaction p context headers stopTransaction isStoppedByCentralSystem =>
      simp only [next] at step
      split at step
      · obtain ⟨-, step⟩ := Option.ite_none_right_eq_some.mp step
        cases step
        exact .inl ((transaction_check ..).trans stored)
      · cases step
  | prepare p context =>
      simp only [next] at step
      split at step
      · cases step
        exact .inl ((transaction_prepare ..).trans stored)
      · cases step
  | saveStopped p =>
      simp only [next] at step
      split at step
      · rename_i softStop transaction' accepts seen stopped'
        exact (never (by rw [stopped']; rfl) fresh).elim
      · cases step
  | saveCopy p =>
      simp only [next] at step
      split at step
      · rename_i softStop transaction' rebuilt
        exact (never (by rw [rebuilt]; rfl) fresh).elim
      · cases step
  | stopCopy p context =>
      simp only [next] at step
      repeat' split at step
      all_goals cases step
      all_goals exact .inl stored
  | abort p =>
      cases step
      exact .inl stored
  | saveTransactionBillingData t =>
      simp only [next] at step
      split at step
      · rename_i copy stored' billed found
        cases step
        rw [found] at stored
        cases stored
        exact .inr ⟨⟨t, rfl⟩, copy.billingData, find_saveTransactionBillingData found _⟩
      · cases step

/-- **Stopped once.**  In every run, of any number of stops of the station, soft stops and
billing tasks, in which no stop saves a copy that was read before another stop was saved:
once the transaction is stopped, what is stored of it changes only in its billing data, and
only when the billing stores them. -/
theorem stopped_once_of_run {start : Store} {events events' : List (StopEvent P T)}
    (before : Transition.Run (Transition.guarded SavesFresh (Step id)) { store := start } events s)
    {transaction : Transaction} (stored : s.transaction id = some transaction)
    (stopped : transaction.stop.isSome)
    (after : Transition.Run (Transition.guarded SavesFresh (Step id)) s events' s') :
    (∃ billingData, s'.transaction id =
        some (TransactionStorage.saveTransactionBillingData transaction billingData)) ∧
      ((∀ t, StopEvent.saveTransactionBillingData t ∉ events') →
        s'.transaction id = some transaction) := by
  have inv : s.Consistent id :=
    before.invariant (by rintro _ _ ⟨⟩) fun _ _ _ inv step => inv.step step.2
  induction after with
  | refl => exact ⟨⟨transaction.billingData, stored⟩, fun _ => stored⟩
  | @snoc events' r s' event earlier step ih =>
      have inv' : r.Consistent id := earlier.invariant inv fun _ _ _ inv step => inv.step step.2
      obtain ⟨⟨billingData, billed⟩, unbilled⟩ := ih
      constructor
      · rcases inv'.kept step.1 billed stopped step.2 with same | ⟨-, billingData', saved⟩
        · exact ⟨billingData, same⟩
        · exact ⟨billingData', saved⟩
      · intro never
        have unbilled' := unbilled fun t mem => never t (List.mem_append_left _ mem)
        rcases inv'.kept step.1 unbilled' stopped step.2 with same | ⟨⟨t, rfl⟩, -⟩
        · exact same
        · exact absurd (List.mem_append_right _ (List.mem_singleton_self _)) (never t)

/-- Everybody may stop the transaction, and nothing fails. -/
def exampleStopContext : StopContext :=
  { isAuthorizedToStopTransaction := fun _ _ _ => .ok {}
    getUserByTagID := fun _ => .ok none }

/-- The station stops the transaction at 2 kWh, while soft stop `p` has read its copy. -/
def exampleStop (p q : Fin 2) : List (StopEvent (Fin 2) (Fin 2)) :=
  [.readCopy p none,
    .stopTransaction q exampleStopContext OCPPService.exampleHeaders OCPPService.exampleRequest
      false,
    .prepare q exampleStopContext, .saveStopped q]

/-- The soft stop has its nested stop refused. -/
def exampleSoftStop (p : Fin 2) : List (StopEvent (Fin 2) (Fin 2)) :=
  [.softStop p exampleStopContext OCPPService.exampleHeaders.chargingStation false true,
    .stopCopy p exampleStopContext]

instance : DecidableRel (SavesFresh (P := Fin 2) (T := Fin 2)) := fun s event =>
  match event with
  | .saveStopped p | .saveCopy p =>
      inferInstanceAs (Decidable (∀ copy ∈ (s.party p).toSave, copy.2 = s.stops))
  | .readCopy .. | .softStop .. | .stopTransaction .. | .prepare .. | .stopCopy .. | .abort _
  | .load _ | .billTransaction .. | .saveTransactionBillingData _ => isTrue trivial

/-- The process of the soft stop ends before it saves its copy. -/
theorem stopped_once_of_run_aborted :
    ∃ s s' : StopState (Fin 2) (Fin 2),
      Transition.Run (Transition.guarded SavesFresh (Step 7))
        { store := OCPPService.exampleStore } (exampleStop 0 1) s ∧
      Transition.Run (Transition.guarded SavesFresh (Step 7)) s
        (exampleSoftStop 0 ++ [.abort 0]) s' ∧
      ∃ transaction, s.transaction 7 = some transaction ∧ transaction.stop.isSome ∧
        s'.transaction 7 = some transaction := by
  have reached : ((Transition.follow (next 7) (fun s event _ => s.SavesFresh event)
      ({ store := OCPPService.exampleStore } : StopState (Fin 2) (Fin 2))
      (exampleStop 0 1)).bind fun s =>
        (Transition.follow (next 7) (fun s event _ => s.SavesFresh event) s
          (exampleSoftStop 0 ++ [.abort 0])).map fun _ =>
            (s.transaction 7).any fun transaction => transaction.stop.isSome) = some true := by
    decide +kernel
  obtain ⟨s, hs, hlater⟩ := Option.bind_eq_some_iff.mp reached
  obtain ⟨s', hs', outcome⟩ := Option.map_eq_some_iff.mp hlater
  obtain ⟨transaction, stored, stopped⟩ := (Option.any_eq_true _ _).mp outcome
  have before : Transition.Run (Transition.guarded SavesFresh (Step 7)) _ (exampleStop 0 1) s :=
    .of_follow (fun _ _ _ computed fresh => ⟨fresh, computed⟩) hs
  have after : Transition.Run (Transition.guarded SavesFresh (Step 7)) s
      (exampleSoftStop 0 ++ [.abort 0]) s' :=
    .of_follow (fun _ _ _ computed fresh => ⟨fresh, computed⟩) hs'
  refine ⟨s, s', before, after, transaction, stored, stopped,
    (stopped_once_of_run before stored stopped after).2 fun t mem => ?_⟩
  simp [exampleSoftStop] at mem

/-- The soft stop saves its copy: the transaction has been stopped at 2 kWh by the station,
and is now stopped at the meter of its start. -/
theorem stopped_twice_by_soft_stop :
    ∃ s s' : StopState (Fin 2) (Fin 2),
      Transition.Run (Step 7) { store := OCPPService.exampleStore } (exampleStop 0 1) s ∧
      Transition.Run (Step 7) s (exampleSoftStop 0 ++ [.saveCopy 0]) s' ∧
      ((s.transaction 7).bind (·.stop)).map (·.meterStop) = some 2000 ∧
      ((s'.transaction 7).bind (·.stop)).map (·.meterStop) = some 0 := by
  have reached : ((Transition.follow (next 7) (fun _ _ _ => True)
      ({ store := OCPPService.exampleStore } : StopState (Fin 2) (Fin 2))
      (exampleStop 0 1)).bind fun s =>
        (Transition.follow (next 7) (fun _ _ _ => True) s
          (exampleSoftStop 0 ++ [.saveCopy 0])).map fun s' =>
            (((s.transaction 7).bind (·.stop)).map (·.meterStop),
              ((s'.transaction 7).bind (·.stop)).map (·.meterStop))) =
      some (some 2000, some 0) := by
    decide +kernel
  obtain ⟨s, hs, hlater⟩ := Option.bind_eq_some_iff.mp reached
  obtain ⟨s', hs', outcome⟩ := Option.map_eq_some_iff.mp hlater
  rw [Prod.mk.injEq] at outcome
  exact ⟨s, s', .of_follow (fun _ _ _ computed _ => computed) hs,
    .of_follow (fun _ _ _ computed _ => computed) hs', outcome⟩

end StopState

end EvServer
