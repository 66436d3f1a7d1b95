import EvServer.Ocpp.FreedConnectors

/-!
# Connectors that stay occupied

A deletion never frees a connector, and a soft stop only by way of the stop that it has the
station make; when that one is refused, the session ends without it.  In the runs without
such steps every connector carries nothing or a transaction that runs on it.
-/

namespace EvServer

namespace TransactionService

open OCPPService

/-! ## Deletions -/

/-- The transaction is there, and is neither refunded nor billed. -/
def isDeletable (context : TransactionServiceContext) (store : Store) (transactionID : ℕ) : Bool :=
  (store.transactions.find transactionID).any (canBeDeleted context)

theorem checkTransactionToDelete_apply (context : TransactionServiceContext) (transactionID : ℕ)
    (store : Store) :
    checkTransactionToDelete context transactionID store =
      (.ok (isDeletable context store transactionID), store) := by
  unfold checkTransactionToDelete isDeletable
  cases found : store.transactions.find transactionID with
  | none =>
      rw [Handler.read_ok_bind (a := none)
        (by rw [TransactionStorage.getTransaction, found]; rfl)]
      rfl
  | some transaction =>
      -- The transaction has been read without its station.
      rw [Handler.read_ok_bind (a := some (transaction, none))
        (by rw [TransactionStorage.getTransaction, found]; rfl)]
      dsimp only [Option.any_some]
      split
      · rename_i kept
        rw [kept]
        rfl
      · rename_i deletable
        rw [Bool.not_eq_false] at deletable
        rw [deletable]
        split <;> rfl

/-- The loop of a deletion only reads. -/
theorem foldlM_checkTransactionToDelete (context : TransactionServiceContext)
    (transactionsIDs toDelete : List ℕ) (store : Store) :
    transactionsIDs.foldlM (fun toDelete transactionID => (do
      let delete ← checkTransactionToDelete context transactionID
      return if delete then toDelete ++ [transactionID] else toDelete :
        StoreHandler (List ℕ))) toDelete store =
      (.ok (toDelete ++ transactionsIDs.filter (isDeletable context store)), store) := by
  induction transactionsIDs generalizing toDelete with
  | nil => rw [List.filter_nil, List.append_nil, List.foldlM_nil, Handler.pure_apply]
  | cons transactionID rest ih =>
      rw [List.foldlM_cons, bind_assoc,
        Handler.bind_apply_ok (checkTransactionToDelete_apply context transactionID store), pure_bind,
        ih]
      cases deletable : isDeletable context store transactionID with
      | true =>
          rw [List.filter_cons_of_pos deletable, if_pos rfl, List.append_assoc,
            List.singleton_append]
      | false =>
          rw [List.filter_cons_of_neg (by rw [deletable]; exact Bool.false_ne_true),
            if_neg Bool.false_ne_true]

/-- What a deletion leaves. -/
theorem deleteTransactions_apply (context : TransactionServiceContext) (transactionsIDs : List ℕ)
    (store : Store) :
    (deleteTransactions context transactionsIDs store).2 = store ∨
      context.stopContext.database .deleteTransaction = .ok () ∧
        ∃ consumptions, (deleteTransactions context transactionsIDs store).2 =
          ⟨store.chargingStations,
            store.transactions.deleteMany fun id =>
              id ∈ transactionsIDs.filter (isDeletable context store),
            consumptions⟩ := by
  unfold deleteTransactions TransactionStorage.deleteTransactions
  rw [Handler.bind_apply_ok (foldlM_checkTransactionToDelete context transactionsIDs [] store),
    List.nil_append]
  cases context.stopContext.database .deleteTransaction with
  | error error => exact .inl rfl
  | ok _ => exact .inr ⟨rfl, _, rfl⟩

/-- **The condition on a deletion**: no connector carries a transaction that it deletes. -/
def DeletesFree (context : TransactionServiceContext) (transactionsIDs : List ℕ) (store : Store) :
    Prop :=
  context.stopContext.database .deleteTransaction = .ok () →
    ∀ transactionID ∈ transactionsIDs, isDeletable context store transactionID →
      transactionID ≠ 0 → ¬ store.IsHeld transactionID

end TransactionService

open TransactionService

/-- **A deletion** leaves the connectors consistent under its condition. -/
theorem Store.IsConsistent.deleteTransactions {store : Store} (consistent : store.IsConsistent)
    {context : TransactionServiceContext} {transactionsIDs : List ℕ}
    (free : DeletesFree context transactionsIDs store) :
    (TransactionService.deleteTransactions context transactionsIDs store).2.IsConsistent := by
  rcases deleteTransactions_apply context transactionsIDs store with
    same | ⟨deletes, consumptions, after⟩
  · rw [same]
    exact consistent
  · rw [after]
    refine consistent.of_find fun id held notZero => ?_
    rw [Collection.find_deleteMany, if_neg]
    intro deleted
    obtain ⟨mem, deletable⟩ := List.mem_filter.mp (of_decide_eq_true deleted)
    exact free deletes id mem deletable notZero held

/-! ## Soft stops -/

namespace TransactionService

open OCPPService

/-- **The condition on a soft stop** of a running transaction that connectors carry: they are
connectors of the station that the transaction is of, which the station has reported since it
booted, and the nested stop passes its checks and gets to free the connector. -/
def SoftStopFrees (context : TransactionServiceContext) (transactionId : ℕ) (store : Store) :
    Prop :=
  ∀ transaction chargeBox chargingStation connector,
    checkTransactionSoftStop context transactionId store =
      .ok ((transaction, chargeBox), chargingStation, connector) →
    transaction.stop = none →
    context.inactive chargingStation ∨ connector.currentTransactionID ≠ transaction.id →
    store.IsHeld transaction.id →
      store.IsHeldOnlyBy transaction.id chargingStation ∧
        (∃ attempt, checkStopTransaction context.stopContext
          (softStopHeader transaction (some chargingStation)) (softStopRequest transaction) false
          store = .ok (some attempt)) ∧
        context.stopContext.database .saveChargingStation = .ok ()

/-- What a soft stop reads. -/
theorem checkTransactionSoftStop_ok {context : TransactionServiceContext} {transactionId : ℕ}
    {store : Store} {transaction : Transaction} {chargeBox : Option ChargingStation}
    {chargingStation : ChargingStation} {connector : Connector}
    (h : checkTransactionSoftStop context transactionId store =
      .ok ((transaction, chargeBox), chargingStation, connector)) :
    store.transactions.find transaction.id = some transaction ∧
      store.chargingStations.find transaction.chargeBoxID = some chargingStation := by
  unfold checkTransactionSoftStop TransactionStorage.getTransaction at h
  cases found : store.transactions.find transactionId with
  | none =>
      rw [found] at h
      cases h
  | some stored =>
      have sameID : stored.id = transactionId := Collection.key_of_find found
      rw [found] at h
      dsimp only [Option.map_some] at h
      split at h
      · cases h
      · split at h
        · cases h
        · rename_i station hstation
          split at h
          · cases h
          · cases h
            exact ⟨sameID ▸ found, hstation⟩

end TransactionService

section SoftStops

open OCPPService

variable {store : Store} {context : TransactionServiceContext} {transaction : Transaction}
variable {chargeBox : Option ChargingStation} {chargingStation : ChargingStation}

/-- The nested stop is of the transaction and of the station. -/
theorem attempt_of_softStop {context : StopContext} {attempt : StopAttempt}
    (found : store.transactions.find transaction.id = some transaction)
    (h : checkStopTransaction context (softStopHeader transaction (some chargingStation))
      (softStopRequest transaction) false store = .ok (some attempt)) :
    attempt.chargingStation = chargingStation ∧ attempt.transaction = transaction := by
  refine ⟨(Option.some.inj (chargingStation_of_checkStopTransaction h)).symm, ?_⟩
  exact (Option.some.inj (found.symm.trans (checkStopTransaction_ok h).2.1)).symm

/-- After the nested stop no connector carries the transaction, unless it was refused by the
checks. -/
theorem not_isHeld_of_softStop (consistent : store.IsConsistent) {attempt : StopAttempt}
    (stored : chargingStation ∈ store.chargingStations.docs)
    (found : store.transactions.find transaction.id = some transaction)
    (notZero : transaction.id ≠ 0) (held : store.IsHeldOnlyBy transaction.id chargingStation)
    (checked : checkStopTransaction context.stopContext
      (softStopHeader transaction (some chargingStation)) (softStopRequest transaction) false
      store = .ok (some attempt))
    (saves : context.stopContext.database .saveChargingStation = .ok ()) :
    ¬ (handleStopTransaction context.stopContext (softStopHeader transaction (some chargingStation))
      (softStopRequest transaction) true false store).2.IsHeld transaction.id := by
  obtain ⟨sameStation, sameTransaction⟩ := attempt_of_softStop found checked
  rintro ⟨other, mem, connector, hconnector, same⟩
  rw [chargingStations_of_attempt checked saves] at mem
  rcases Collection.mem_save_of_ne mem with rfl | ⟨mem, ne⟩
  · unfold StopAttempt.freed at hconnector
    rw [sameStation, sameTransaction] at hconnector
    exact ChargingStation.not_mem_of_clear (consistent _ stored) stored found notZero held
      hconnector same
  · refine ne ((held other mem connector hconnector same).1.trans ?_)
    rw [← sameStation]
    rfl

/-- A stop lets no connector carry a transaction that it did not carry. -/
theorem isHeld_of_stop {context : StopContext} {headers : OCPPHeader}
    {stopTransaction : OCPPStopTransactionRequest} {isSoftStop isStoppedByCentralSystem : Bool}
    {id : ℕ} (consistent : store.IsConsistent)
    (station : headers.chargingStation = store.chargingStations.find headers.chargeBoxIdentity)
    (notZero : id ≠ 0)
    (h : (handleStopTransaction context headers stopTransaction isSoftStop
      isStoppedByCentralSystem store).2.IsHeld id) : store.IsHeld id := by
  cases checked : checkStopTransaction context headers stopTransaction isStoppedByCentralSystem
      store with
  | error error =>
      rw [handleStopTransaction_of_error checked] at h
      exact h
  | ok checkedAttempt =>
    cases checkedAttempt with
    | none =>
        rw [handleStopTransaction_of_bypass checked] at h
        exact h
    | some attempt =>
      have stored := Collection.mem_of_find
        (station.symm.trans (chargingStation_of_checkStopTransaction checked))
      have apart := (consistent _ stored).apart
      rw [ChargingStation.allConnectors, List.map_append] at apart
      obtain ⟨other, mem, connector, hconnector, same⟩ := h
      cases saves : context.database .saveChargingStation with
      | error error =>
          have failed : attempt.failure context isSoftStop = some .savingChargingStation := by
            rw [StopAttempt.failure, saves]
          rw [handleStopTransaction_of_attempt checked, failed] at mem
          exact ⟨other, mem, connector, hconnector, same⟩
      | ok _ =>
          rw [chargingStations_of_attempt checked saves] at mem
          rcases Collection.mem_save mem with rfl | mem
          · refine ⟨_, stored, ?_⟩
            rcases List.mem_append.mp hconnector with current | backup
            · rcases OCPPUtils.mem_updateConnector (List.nodup_append.mp apart).1 current with
                ⟨before, -⟩ | ⟨_, _, _, rfl⟩
              · exact ⟨connector, List.mem_append_left _ before, same⟩
              · exact absurd same.symm notZero
            · exact ⟨connector, List.mem_append_right _ backup, same⟩
          · exact ⟨other, mem, connector, hconnector, same⟩

theorem stopCopy_ok {context : StopContext} {copy : Transaction}
    (h : stopCopy context transaction chargeBox = .ok copy) : copy.id = transaction.id := by
  obtain ⟨users, -, rfl⟩ := Outcome.map_eq_ok.mp h
  rfl

/-- **A soft stop of the station** leaves the connectors consistent when no connector carries the
transaction that it does not free. -/
theorem Store.IsConsistent.softStopTransaction (consistent : store.IsConsistent)
    (found : store.transactions.find transaction.id = some transaction)
    (station : store.chargingStations.find transaction.chargeBoxID = some chargingStation)
    (frees : store.IsHeld transaction.id →
      store.IsHeldOnlyBy transaction.id chargingStation ∧
        (∃ attempt, checkStopTransaction context.stopContext
          (softStopHeader transaction (some chargingStation)) (softStopRequest transaction) false
          store = .ok (some attempt)) ∧
        context.stopContext.database .saveChargingStation = .ok ()) :
    (TransactionService.softStopTransaction context transaction chargeBox chargingStation
      store).2.IsConsistent := by
  have sameStation : (softStopHeader transaction (some chargingStation)).chargingStation =
      store.chargingStations.find
        (softStopHeader transaction (some chargingStation)).chargeBoxIdentity := station.symm
  have heldOnly : store.IsHeldOnlyBy transaction.id chargingStation := by
    intro other mem connector hconnector same
    exact (frees ⟨other, mem, connector, hconnector, same⟩).1 other mem connector hconnector same
  have nested : (handleStopTransaction context.stopContext
      (softStopHeader transaction (some chargingStation)) (softStopRequest transaction) true false
      store).2.IsConsistent := by
    refine consistent.stop sameStation fun attempt checked _ => ?_
    obtain ⟨sameStation, sameTransaction⟩ := attempt_of_softStop found checked
    rw [sameStation, sameTransaction]
    exact heldOnly
  have free (notZero : transaction.id ≠ 0) : ¬ (handleStopTransaction context.stopContext
      (softStopHeader transaction (some chargingStation)) (softStopRequest transaction) true false
      store).2.IsHeld transaction.id := by
    intro held
    obtain ⟨-, ⟨attempt, checked⟩, saves⟩ :=
      frees (isHeld_of_stop consistent sameStation notZero held)
    exact not_isHeld_of_softStop consistent (Collection.mem_of_find station) found notZero heldOnly
      checked saves held
  unfold TransactionService.softStopTransaction
  split
  · rcases hstop : handleStopTransaction context.stopContext
      (softStopHeader transaction (some chargingStation)) (softStopRequest transaction) true false
      store with ⟨status, between⟩
    rw [hstop] at nested free
    rw [Handler.bind_apply_ok (a := status) (t := between) (by rw [nestedStop, hstop])]
    split
    · exact nested
    · cases hcopy : stopCopy context.stopContext transaction chargeBox with
      | error error => exact nested
      | ok copy =>
        rw [Handler.ofExcept_ok_bind]
        have same := changes_saveTransaction context.stopContext.database copy between
        rw [stopCopy_ok hcopy] at same
        have saved := nested.of_sameBut same free
        rcases hsave : TransactionStorage.saveTransaction context.stopContext.database copy between
          with ⟨error | _, after⟩ <;> rw [hsave] at saved
        · rw [Handler.bind_apply_error hsave]
          exact saved
        · rw [Handler.bind_apply_ok hsave]
          exact saved
  · exact consistent

/-- **A soft stop by a user** leaves the connectors consistent under its condition. -/
theorem Store.IsConsistent.softStop (consistent : store.IsConsistent) {transactionId : ℕ}
    (frees : SoftStopFrees context transactionId store) :
    (handleTransactionSoftStop context transactionId store).2.IsConsistent := by
  unfold handleTransactionSoftStop
  cases checked : checkTransactionSoftStop context transactionId store with
  | error error =>
      rw [Handler.bind_apply_error (by rw [Handler.read_apply, checked])]
      exact consistent
  | ok read =>
    obtain ⟨⟨transaction, chargeBox⟩, chargingStation, connector⟩ := read
    obtain ⟨found, station⟩ := checkTransactionSoftStop_ok checked
    rw [Handler.read_ok_bind checked]
    dsimp only
    split
    · split
      · have sameID : chargingStation.id = transaction.chargeBoxID := Collection.key_of_find station
        unfold ChargingStationStorage.saveChargingStationConnectors
        cases context.stopContext.database .saveChargingStation with
        | error error => exact consistent
        | ok _ =>
          refine consistent.saveStation ?_
          rw [show (OCPPUtils.clearChargingStationConnectorRuntimeData chargingStation
            transaction.connectorId).id = transaction.chargeBoxID from sameID, station,
            ← sameID]
          exact (consistent _ (Collection.mem_of_find station)).clear _
      · exact consistent
    · rename_i running
      split
      · exact consistent
      · rename_i reached
        have running : transaction.stop = none := by simpa using running
        have reached : context.inactive chargingStation = true ∨
            connector.currentTransactionID ≠ transaction.id := by
          rcases not_and_or.mp reached with inactive | other
          · exact .inl (by simpa using inactive)
          · exact .inr other
        have stopped := @Store.IsConsistent.softStopTransaction store context transaction chargeBox
          chargingStation consistent found station
          (frees _ _ _ _ checked running reached)
        rcases hstop : TransactionService.softStopTransaction context transaction chargeBox
          chargingStation store with ⟨error | success, between⟩ <;> rw [hstop] at stopped
        · rw [Handler.bind_apply_error hstop]
          exact stopped
        · rw [Handler.bind_apply_ok hstop]
          split <;> exact stopped

end SoftStops

/-! ## Runs -/

/-- What stations and users ask of the server, one after the other. -/
inductive StationEvent
  | startTransaction (context : StartContext) (chargeBoxIdentity : String)
      (startTransaction : OCPPStartTransactionRequest)
  | meterValues (context : MeterValuesHandlerContext) (chargeBoxIdentity : String)
      (meterValues : OCPPMeterValuesRequest)
  | stopTransaction (context : StopContext) (chargeBoxIdentity : String)
      (stopTransaction : OCPPStopTransactionRequest)
  | statusNotification (context : NotificationContext) (chargeBoxIdentity : String)
      (statusNotification : OCPPStatusNotificationRequest)
  | bootNotification (context : NotificationContext) (chargeBoxIdentity : String)
      (bootNotification : OCPPBootNotificationRequest)
  | softStop (context : TransactionServiceContext) (transactionId : ℕ)
  | deleteTransactions (context : TransactionServiceContext) (transactionsIDs : List ℕ)

namespace Store

open OCPPService

/-- The header of a request: the station is read from the database. -/
def headers (store : Store) (chargeBoxIdentity : String) : OCPPHeader :=
  { chargeBoxIdentity := chargeBoxIdentity
    chargingStation := store.chargingStations.find chargeBoxIdentity }

/-- The database after an operation. -/
def afterEvent (store : Store) : StationEvent → Store
  | .startTransaction context chargeBoxIdentity startTransaction =>
      (handleStartTransaction context 2 (store.headers chargeBoxIdentity) startTransaction store).2
  | .meterValues context chargeBoxIdentity meterValues =>
      (handleMeterValuesRequest context (store.headers chargeBoxIdentity) meterValues store).2
  | .stopTransaction context chargeBoxIdentity stopTransaction =>
      (handleStopTransaction context (store.headers chargeBoxIdentity) stopTransaction false false
        store).2
  | .statusNotification context chargeBoxIdentity statusNotification =>
      (handleStatusNotification context (store.headers chargeBoxIdentity) statusNotification
        store).2
  | .bootNotification context chargeBoxIdentity bootNotification =>
      (handleBootNotification context (store.headers chargeBoxIdentity) bootNotification store).2
  | .softStop context transactionId => (handleTransactionSoftStop context transactionId store).2
  | .deleteTransactions context transactionsIDs =>
      (TransactionService.deleteTransactions context transactionsIDs store).2

/-- The step relation. -/
def Serves (store : Store) (event : StationEvent) (store' : Store) : Prop :=
  store' = store.afterEvent event

/-- **The condition on a run**: no session ends that a connector carries and that the operation
does not free. -/
def FreesConnectors (store : Store) : StationEvent → Prop
  | .startTransaction context chargeBoxIdentity startTransaction =>
      ReplacesDeleted context (store.headers chargeBoxIdentity) startTransaction store
  | .stopTransaction context chargeBoxIdentity stopTransaction =>
      ∀ attempt,
        checkStopTransaction context (store.headers chargeBoxIdentity) stopTransaction false store =
          .ok (some attempt) → attempt.IsSaved context false →
        store.IsHeldOnlyBy attempt.transaction.id attempt.chargingStation
  | .softStop context transactionId => SoftStopFrees context transactionId store
  | .deleteTransactions context transactionsIDs => DeletesFree context transactionsIDs store
  | .meterValues .. | .statusNotification .. | .bootNotification .. => True

/-- **The step lemma.** -/
theorem isConsistent_afterEvent {store store' : Store} {event : StationEvent}
    (consistent : store.IsConsistent) (frees : store.FreesConnectors event)
    (step : store.Serves event store') : store'.IsConsistent := by
  subst step
  cases event with
  | startTransaction context chargeBoxIdentity startTransaction => exact consistent.start rfl frees
  | meterValues context chargeBoxIdentity meterValues => exact consistent.meterValues rfl
  | stopTransaction context chargeBoxIdentity stopTransaction => exact consistent.stop rfl frees
  | statusNotification context chargeBoxIdentity statusNotification =>
      exact consistent.statusNotification context statusNotification rfl
  | bootNotification context chargeBoxIdentity bootNotification =>
      exact consistent.bootNotification context bootNotification rfl
  | softStop context transactionId => exact consistent.softStop frees
  | deleteTransactions context transactionsIDs => exact consistent.deleteTransactions frees

/-- **Occupied connectors.**  In every run whose operations all meet the condition, a connector
that carries a transaction, current or backed up, carries one that is stored and runs on it. -/
theorem carriesRunning_of_run {store store' : Store} {events : List StationEvent}
    (consistent : store.IsConsistent)
    (run : Transition.Run (Transition.guarded FreesConnectors Serves) store events store') :
    ∀ chargingStation ∈ store'.chargingStations.docs,
      ∀ connector ∈ chargingStation.connectors ++ chargingStation.backupConnectors,
        connector.currentTransactionID ≠ 0 →
          ∃ transaction,
            store'.transactions.find connector.currentTransactionID = some transaction ∧
              transaction.stop = none ∧ transaction.chargeBoxID = chargingStation.id ∧
              transaction.connectorId = connector.connectorId := by
  have reached : store'.IsConsistent := run.invariant consistent
    fun _ _ _ consistent step => isConsistent_afterEvent consistent step.1 step.2
  intro chargingStation mem connector hconnector notZero
  have carries := (reached chargingStation mem).carries connector hconnector
  obtain ⟨transaction, found, -⟩ := carries notZero
  obtain ⟨place, place', running⟩ := carries.isActiveOn found notZero
  exact ⟨transaction, found, running, place, place'⟩

/-! ## A session that a user deletes -/

/-- The station of the examples, without sessions. -/
def exampleStation : Store :=
  ⟨(OCPPService.exampleStartStore 0).chargingStations, Collection.empty, Collection.empty⟩

/-- Transaction 7 starts on connector 1. -/
def exampleStart : StationEvent :=
  .startTransaction OCPPService.exampleStartContext "CS-1" OCPPService.exampleStartRequest

/-- The station reports that it charges. -/
def exampleCharging : StationEvent :=
  .statusNotification {} "CS-1" { connectorId := 1, status := .charging }

def exampleUserContext : TransactionServiceContext :=
  { stopContext := OCPPService.exampleStartContext.stopContext }

theorem isConsistent_exampleStation : exampleStation.IsConsistent := by
  have free : ∀ chargingStation ∈ exampleStation.chargingStations.docs,
      (∀ connector ∈ chargingStation.allConnectors, connector.currentTransactionID = 0) ∧
        (chargingStation.allConnectors.map Connector.connectorId).Nodup := by
    decide +kernel
  intro chargingStation mem
  obtain ⟨zero, apart⟩ := free chargingStation mem
  exact ⟨fun connector hconnector =>
    Connector.carriesRunning_of_zero (zero connector hconnector), apart⟩

/-- No transaction runs on the connector before the start. -/
theorem freesConnectors_exampleStart : exampleStation.FreesConnectors exampleStart := by
  intro chargingStation newTransaction cleanedUp between activeTransaction _ _ hactive
  obtain ⟨-, -, found⟩ := isActiveOn_of_getActiveTransaction hactive
  cases found

/-- After the start and the status notification connector 1 carries transaction 7. -/
theorem carriesRunning_of_run_charging :
    ∃ store', Transition.Run (Transition.guarded FreesConnectors Serves) exampleStation
        [exampleStart, exampleCharging] store' ∧
      (∃ chargingStation ∈ store'.chargingStations.docs,
        ∃ connector ∈ chargingStation.connectors, connector.currentTransactionID = 7) ∧
      ∀ chargingStation ∈ store'.chargingStations.docs,
        ∀ connector ∈ chargingStation.connectors ++ chargingStation.backupConnectors,
          connector.currentTransactionID ≠ 0 →
            ∃ transaction,
              store'.transactions.find connector.currentTransactionID = some transaction ∧
                transaction.stop = none ∧ transaction.chargeBoxID = chargingStation.id ∧
                transaction.connectorId = connector.connectorId := by
  have run : Transition.Run (Transition.guarded FreesConnectors Serves) exampleStation
      [exampleStart, exampleCharging]
      ((exampleStation.afterEvent exampleStart).afterEvent exampleCharging) :=
    .snoc (.single ⟨freesConnectors_exampleStart, rfl⟩) ⟨trivial, rfl⟩
  exact ⟨_, run, by decide +kernel, carriesRunning_of_run isConsistent_exampleStation run⟩

/-- A user deletes the running transaction: connector 1 carries it still. -/
theorem not_carriesRunning_after_deletion :
    exampleStation.IsConsistent ∧
      ∃ store', Transition.Run Serves exampleStation
          [exampleStart, .deleteTransactions exampleUserContext [7]] store' ∧
        ¬ ∀ chargingStation ∈ store'.chargingStations.docs,
          ∀ connector ∈ chargingStation.connectors ++ chargingStation.backupConnectors,
            connector.currentTransactionID ≠ 0 →
              ∃ transaction,
                store'.transactions.find connector.currentTransactionID = some transaction ∧
                  transaction.stop = none ∧ transaction.chargeBoxID = chargingStation.id ∧
                  transaction.connectorId = connector.connectorId := by
  refine ⟨isConsistent_exampleStation, _, .snoc (.single rfl) rfl, ?_⟩
  have carried : ∃ chargingStation ∈ ((exampleStation.afterEvent exampleStart).afterEvent
        (.deleteTransactions exampleUserContext [7])).chargingStations.docs,
      ∃ connector ∈ chargingStation.connectors ++ chargingStation.backupConnectors,
        connector.currentTransactionID = 7 := by
    decide +kernel
  have deleted : ((exampleStation.afterEvent exampleStart).afterEvent
      (.deleteTransactions exampleUserContext [7])).transactions.find 7 = none := by
    decide +kernel
  intro claimed
  obtain ⟨chargingStation, mem, connector, hconnector, seven⟩ := carried
  obtain ⟨transaction, found, -⟩ :=
    claimed chargingStation mem connector hconnector (by rw [seven]; decide)
  rw [seven, deleted] at found
  cases found

end Store

end EvServer
