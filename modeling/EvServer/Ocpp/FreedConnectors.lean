import EvServer.Ocpp.Occupancy
import EvServer.Ocpp.StopEnergy

/-!
# Who frees a connector

A stop frees the connector of its transaction on the station that sends it, and among the
connectors that this station has reported since it booted.  A status notification restores,
creates or frees a connector, and a boot backs all of them up; neither leaves a connector
occupied by a session that is over.
-/

namespace EvServer

/-- The connectors that carry the transaction are current ones of the station. -/
def Store.IsHeldOnlyBy (store : Store) (id : ℕ) (chargingStation : ChargingStation) : Prop :=
  ∀ other ∈ store.chargingStations.docs, ∀ connector ∈ other.allConnectors,
    connector.currentTransactionID = id →
      other.id = chargingStation.id ∧ connector ∈ chargingStation.connectors

namespace ChargingStation

variable {chargingStation : ChargingStation} {store : Store} {transaction : Transaction}

/-- A station whose connector is freed carries the transaction no longer. -/
theorem not_mem_of_clear (consistent : chargingStation.IsConsistent store.transactions)
    (stored : chargingStation ∈ store.chargingStations.docs)
    (found : store.transactions.find transaction.id = some transaction)
    (notZero : transaction.id ≠ 0) (held : store.IsHeldOnlyBy transaction.id chargingStation)
    {connector : Connector}
    (mem : connector ∈ (OCPPUtils.clearChargingStationConnectorRuntimeData chargingStation
      transaction.connectorId).allConnectors) :
    connector.currentTransactionID ≠ transaction.id := by
  have apart := consistent.apart
  rw [allConnectors, List.map_append] at apart
  -- The connector of the transaction is the one that is freed.
  have place {connector : Connector} (mem : connector ∈ chargingStation.allConnectors)
      (same : connector.currentTransactionID = transaction.id) :
      connector.connectorId = transaction.connectorId := by
    have carries := consistent.carries connector mem
    exact (carries.isActiveOn (same ▸ found) (same ▸ notZero)).2.1.symm
  intro same
  rcases List.mem_append.mp mem with current | backup
  · rcases OCPPUtils.mem_updateConnector (List.nodup_append.mp apart).1 current with
      ⟨before, ne⟩ | ⟨_, _, _, rfl⟩
    · exact ne (place (List.mem_append_left _ before) same)
    · exact notZero same.symm
  · obtain ⟨-, current⟩ := held chargingStation stored connector (List.mem_append_right _ backup)
      same
    exact consistent.ne_of_mem_backup current backup rfl

end ChargingStation

open OCPPService

/-- A transaction is stopped, and its connector freed. -/
theorem Store.IsConsistent.freed {store : Store} (consistent : store.IsConsistent)
    {chargingStation : ChargingStation} {transaction stopped : Transaction}
    {consumptions : Collection Consumption.key}
    (stored : chargingStation ∈ store.chargingStations.docs)
    (found : store.transactions.find transaction.id = some transaction)
    (notZero : transaction.id ≠ 0) (held : store.IsHeldOnlyBy transaction.id chargingStation)
    (sameID : stopped.id = transaction.id) :
    IsConsistent ⟨store.chargingStations.save
        (OCPPUtils.clearChargingStationConnectorRuntimeData chargingStation
          transaction.connectorId), store.transactions.save stopped, consumptions⟩ := by
  have stationConsistent := consistent chargingStation stored
  refine isConsistent_save ?_ ?_
  · intro other mem ne
    refine (consistent other mem).of_find fun connector hconnector _ => ?_
    refine Collection.find_save_of_ne ?_
    rw [sameID]
    intro same
    exact ne (held other mem connector hconnector same).1
  · refine (stationConsistent.clear transaction.connectorId).of_find ?_
    intro connector mem _
    refine Collection.find_save_of_ne ?_
    rw [sameID]
    exact ChargingStation.not_mem_of_clear stationConsistent stored found notZero held mem

namespace StopAttempt

/-- The stopped transaction is saved. -/
def IsSaved (attempt : StopAttempt) (context : StopContext) (isSoftStop : Bool) : Prop :=
  attempt.failure context isSoftStop = none ∨
    attempt.failure context isSoftStop = some .deletingChargingProfiles

end StopAttempt

section Stops

variable {store : Store} {context : StopContext} {headers : OCPPHeader}
variable {stopTransaction : OCPPStopTransactionRequest}
variable {isSoftStop isStoppedByCentralSystem : Bool} {attempt : StopAttempt}

/-- The charging station is that of the header. -/
theorem chargingStation_of_checkStopTransaction
    (h : checkStopTransaction context headers stopTransaction isStoppedByCentralSystem store =
      .ok (some attempt)) : headers.chargingStation = some attempt.chargingStation := by
  obtain ⟨⟨chargingStation, request⟩, hvalid, h⟩ := Outcome.bind_eq_ok.mp h
  unfold OCPPValidation.validateStopTransaction at hvalid
  cases station : headers.chargingStation with
  | none =>
      rw [station] at hvalid
      cases hvalid
  | some station' =>
      rw [station] at hvalid
      obtain ⟨_, -, hvalid⟩ := Outcome.bind_eq_ok.mp hvalid
      cases hvalid
      dsimp only at h
      split at h
      · cases h
      · obtain ⟨_, -, h⟩ := Outcome.bind_eq_ok.mp h
        obtain ⟨_, -, h⟩ := Outcome.bind_eq_ok.mp h
        cases h
        rfl

/-- **A stop** that is saved leaves the connectors consistent when they carry its transaction
only where it frees them; one that is not saved does so anyway. -/
theorem Store.IsConsistent.stop (consistent : store.IsConsistent)
    (station : headers.chargingStation = store.chargingStations.find headers.chargeBoxIdentity)
    (frees : ∀ attempt,
      checkStopTransaction context headers stopTransaction isStoppedByCentralSystem store =
        .ok (some attempt) → attempt.IsSaved context isSoftStop →
      store.IsHeldOnlyBy attempt.transaction.id attempt.chargingStation) :
    (handleStopTransaction context headers stopTransaction isSoftStop isStoppedByCentralSystem
      store).2.IsConsistent := by
  cases checked : checkStopTransaction context headers stopTransaction isStoppedByCentralSystem
      store with
  | error error =>
      rw [handleStopTransaction_of_error checked]
      exact consistent
  | ok checkedAttempt =>
    cases checkedAttempt with
    | none =>
        rw [handleStopTransaction_of_bypass checked]
        exact consistent
    | some attempt =>
      rw [handleStopTransaction_of_attempt checked]
      dsimp only
      have hstation := chargingStation_of_checkStopTransaction checked
      obtain ⟨notZero, found, -⟩ := checkStopTransaction_ok checked
      have sameID : attempt.transaction.id = stopTransaction.transactionId :=
        Collection.key_of_find found
      have stored := Collection.mem_of_find (station.symm.trans hstation)
      have saves (saved : attempt.IsSaved context isSoftStop) :
          (attempt.storeAfter context isSoftStop store
            (attempt.failure context isSoftStop)).IsConsistent := by
        obtain ⟨consumed, stopped, hconsumed, hstopped⟩ := exists_stopped saved
        rw [StopAttempt.storeAfter_of_stopped saved hconsumed hstopped]
        refine consistent.freed stored (sameID ▸ found) (sameID ▸ notZero)
          (frees attempt checked saved) ?_
        rw [TransactionStorage.id_transactionMDB, (stopTransactionWith_ok hstopped).1]
        exact (sameSession_lastConsumption hconsumed).id
      -- A stop that is not saved has at most freed the connector.
      have unsaved : IsConsistent (attempt.freeConnector store) :=
        consistent.saveStation ((consistent _ stored).clear _)
      cases failure : attempt.failure context isSoftStop with
      | none => exact failure ▸ saves (.inl failure)
      | some failed =>
        cases failed with
        | savingChargingStation => exact consistent
        | addingConsumption => exact unsaved
        | savingTransaction => exact unsaved
        | deletingChargingProfiles => exact failure ▸ saves (.inr failure)

/-- A stop saves the station with the connector freed, unless it is rejected or fails to. -/
theorem chargingStations_of_attempt
    (h : checkStopTransaction context headers stopTransaction isStoppedByCentralSystem store =
      .ok (some attempt)) (saves : context.database .saveChargingStation = .ok ()) :
    (handleStopTransaction context headers stopTransaction isSoftStop isStoppedByCentralSystem
      store).2.chargingStations = store.chargingStations.save attempt.freed := by
  rw [handleStopTransaction_of_attempt h]
  cases failure : attempt.failure context isSoftStop with
  | none => rfl
  | some failed =>
    cases failed with
    | savingChargingStation =>
        unfold StopAttempt.failure at failure
        rw [saves] at failure
        split at failure
        · rename_i unsaved
          exact absurd unsaved nofun
        · cases failure
        · split at failure
          · cases failure
          · rcases failureToStop_cases attempt context isSoftStop _ with h | h | h <;>
              rw [h] at failure <;> cases failure
    | addingConsumption => rfl
    | savingTransaction => rfl
    | deletingChargingProfiles => rfl

end Stops

/-! ## Status notifications -/

namespace OCPPService

theorem id_checkAndComputeTransactionExtraInactivity {notification : StatusNotification}
    {transaction : Transaction} {answer : Transaction × Bool}
    (h : checkAndComputeTransactionExtraInactivity notification transaction = .ok answer) :
    answer.1.id = transaction.id := by
  change answer.1.unended.id = transaction.unended.id
  rw [unended_checkAndComputeTransactionExtraInactivity h]

theorem id_checkAndBillTransaction {billingImpl : Option BillingIntegration}
    {transaction : Transaction} {answer : Transaction × Bool × Bool}
    (h : checkAndBillTransaction billingImpl transaction = .ok answer) :
    answer.1.id = transaction.id := by
  unfold checkAndBillTransaction at h
  split at h
  · obtain ⟨billed, hbilled, h⟩ := Outcome.bind_eq_ok.mp h
    cases h
    exact (OCPPUtils.sameSession_processTransactionBilling hbilled).id
  · cases h
    rfl

theorem changes_saveTransaction (database : Database) (transaction : Transaction) :
    Handler.Changes (Store.SameBut transaction.id)
      (TransactionStorage.saveTransaction database transaction) := by
  refine Handler.changes_write Store.SameBut.refl fun store => ⟨rfl, fun other ne => ?_⟩
  refine Collection.find_save_of_ne ?_
  rw [TransactionStorage.id_transactionMDB]
  exact ne

/-- The completion of a transaction changes no other one. -/
theorem changes_completeLastTransaction (context : NotificationContext)
    (notification : StatusNotification) (lastTransaction : Transaction) :
    Handler.Changes (Store.SameBut lastTransaction.id)
      (completeLastTransaction context notification lastTransaction) := by
  have trans {store between store' : Store} :
      store.SameBut lastTransaction.id between → between.SameBut lastTransaction.id store' →
        store.SameBut lastTransaction.id store' := Store.SameBut.trans
  have ofExcept {α : Type} (x : Except String α) :
      Handler.Changes (Store.SameBut lastTransaction.id) (Handler.ofExcept x : StoreHandler α) :=
    Handler.changes_ofExcept Store.SameBut.refl x
  unfold completeLastTransaction
  refine (ofExcept _).bind trans fun extra _ _ _ => ?_
  refine Handler.Changes.bind trans ?_ fun _ _ _ _ => ?_
  · intro store
    cases extra with
    | none => exact .refl store
    | some consumption =>
        have saved := changes_saveConsumption context.database consumption store
        exact ⟨saved.2, fun other _ => congrArg (Collection.find · other) saved.1⟩
  refine (ofExcept _).bind trans fun computed _ _ hcomputed => ?_
  refine (ofExcept _).bind trans fun billed _ _ hbilled => ?_
  refine (ofExcept _).bind trans fun _ _ _ _ => ?_
  refine (ofExcept _).bind trans fun _ _ _ _ => ?_
  have sameID : billed.1.id = lastTransaction.id :=
    (id_checkAndBillTransaction (Handler.ofExcept_eq_ok.mp hbilled).1).trans
      (id_checkAndComputeTransactionExtraInactivity (Handler.ofExcept_eq_ok.mp hcomputed).1)
  split
  · rw [← sameID]
    exact changes_saveTransaction context.database billed.1
  · exact Handler.changes_pure Store.SameBut.refl _

end OCPPService

section Stopped

variable {transaction : Transaction} {store store' : Store}

/-- No connector carries a transaction that has been stopped. -/
theorem Connector.CarriesRunning.ne_of_stopped {transactions : Collection Transaction.id}
    {connector : Connector} {chargeBoxID : String}
    (carries : connector.CarriesRunning transactions chargeBoxID)
    (found : transactions.find transaction.id = some transaction)
    (stopped : transaction.stop.isSome) (notZero : connector.currentTransactionID ≠ 0) :
    connector.currentTransactionID ≠ transaction.id := by
  intro same
  obtain ⟨-, -, running⟩ := carries.isActiveOn (same ▸ found) notZero
  rw [running] at stopped
  cases stopped

/-- A transaction that has been stopped is changed. -/
theorem ChargingStation.IsConsistent.of_stopped {chargingStation : ChargingStation}
    (consistent : chargingStation.IsConsistent store.transactions)
    (found : store.transactions.find transaction.id = some transaction)
    (stopped : transaction.stop.isSome) (same : store.SameBut transaction.id store') :
    chargingStation.IsConsistent store'.transactions := by
  refine consistent.of_find fun connector mem notZero => same.others _ ?_
  exact (consistent.carries connector mem).ne_of_stopped found stopped notZero

theorem Store.IsConsistent.of_stopped (consistent : store.IsConsistent)
    (found : store.transactions.find transaction.id = some transaction)
    (stopped : transaction.stop.isSome) (same : store.SameBut transaction.id store') :
    store'.IsConsistent := by
  refine consistent.of_sameBut same ?_
  rintro notZero ⟨chargingStation, mem, connector, hconnector, held⟩
  have carries := (consistent chargingStation mem).carries connector hconnector
  exact carries.ne_of_stopped found stopped (held ▸ notZero) held

end Stopped

namespace ChargingStation

variable {chargingStation : ChargingStation} {transactions : Collection Transaction.id}

/-- The order of the connectors is of no importance. -/
theorem IsConsistent.perm {connectors connectors' : List Connector}
    (consistent : IsConsistent transactions { chargingStation with connectors := connectors })
    (perm : connectors'.Perm connectors) :
    IsConsistent transactions { chargingStation with connectors := connectors' } := by
  have all := perm.append_right chargingStation.backupConnectors
  constructor
  · intro connector mem
    exact consistent.carries connector (all.mem_iff.mp mem)
  · exact ((all.map Connector.connectorId).nodup_iff).mpr consistent.apart

/-- The connectors and the backup without repetition, with an ID that is in neither. -/
theorem nodup_insert {ids backup backup' : List ℕ} {id : ℕ} (apart : (ids ++ backup).Nodup)
    (sub : backup'.Sublist backup) (new : id ∉ ids) (new' : id ∉ backup') :
    (ids ++ [id] ++ backup').Nodup := by
  rw [List.append_assoc, List.singleton_append, List.nodup_middle, List.nodup_cons,
    List.mem_append]
  exact ⟨fun old => old.elim new new', apart.sublist (sub.append_left ids)⟩

end ChargingStation

namespace OCPPService

section Notified

variable {chargingStation : ChargingStation} {transactions : Collection Transaction.id}

/-- A connector that the station reports is taken from its backup, or its ID is new. -/
theorem nodup_addConnector {connectorId : ℕ}
    (apart : (chargingStation.allConnectors.map Connector.connectorId).Nodup)
    (absent : Utils.getConnectorFromID chargingStation connectorId = none) :
    ((addConnector chargingStation connectorId).1.allConnectors.map
      Connector.connectorId).Nodup := by
  rw [ChargingStation.allConnectors, List.map_append] at apart
  have new : connectorId ∉ chargingStation.connectors.map Connector.connectorId := by
    intro mem
    obtain ⟨connector, hconnector, same⟩ := List.mem_map.mp mem
    exact List.find?_eq_none.mp absent connector hconnector (decide_eq_true same)
  unfold addConnector
  cases hbackup : getLastSeenConnectorFromID chargingStation connectorId with
  | some connector =>
      obtain ⟨-, sameID⟩ := getLastSeenConnectorFromID_eq_some hbackup
      rw [ChargingStation.allConnectors, List.map_append, List.map_append, List.map_singleton,
        sameID]
      refine ChargingStation.nodup_insert apart (List.filter_sublist.map _) new ?_
      intro mem
      obtain ⟨other, hother, same⟩ := List.mem_map.mp mem
      exact of_decide_eq_true (List.mem_filter.mp hother).2 (same.trans sameID.symm)
  | none =>
      rw [ChargingStation.allConnectors, List.map_append, List.map_append, List.map_singleton]
      refine ChargingStation.nodup_insert apart (List.Sublist.refl _) new ?_
      intro mem
      obtain ⟨other, hother, same⟩ := List.mem_map.mp mem
      exact List.find?_eq_none.mp hbackup other hother (decide_eq_true same)

/-- The connector that the station reports carries what it has carried in the backup. -/
theorem addConnector_ok {connectorId : ℕ} (consistent : chargingStation.IsConsistent transactions)
    (absent : Utils.getConnectorFromID chargingStation connectorId = none) :
    (addConnector chargingStation connectorId).1.IsConsistent transactions := by
  refine ⟨?_, nodup_addConnector consistent.apart absent⟩
  unfold addConnector
  intro other
  cases hbackup : getLastSeenConnectorFromID chargingStation connectorId with
  | some connector =>
      obtain ⟨mem, -⟩ := getLastSeenConnectorFromID_eq_some hbackup
      intro hother
      simp only [ChargingStation.allConnectors, List.mem_append, List.mem_singleton,
        List.mem_filter] at hother
      rcases hother with (current | rfl) | ⟨backup, -⟩
      · exact consistent.carries other (List.mem_append_left _ current)
      · exact consistent.carries other (List.mem_append_right _ mem)
      · exact consistent.carries other (List.mem_append_right _ backup)
  | none =>
      intro hother
      simp only [ChargingStation.allConnectors, List.mem_append, List.mem_singleton] at hother
      rcases hother with (current | rfl) | backup
      · exact consistent.carries other (List.mem_append_left _ current)
      · exact Connector.carriesRunning_of_zero rfl
      · exact consistent.carries other (List.mem_append_right _ backup)

/-- The station of a notification carries what it carried, and has the connector. -/
theorem checkAndGetConnector_ok {context : NotificationContext}
    {statusNotification : OCPPStatusNotificationRequest} {chargingStation' : ChargingStation}
    {connector : Connector} (consistent : chargingStation.IsConsistent transactions)
    (h : checkAndGetConnectorFromStatusNotification context chargingStation statusNotification =
      .ok (some (chargingStation', connector))) :
    chargingStation'.IsConsistent transactions ∧
      connector.connectorId = statusNotification.connectorId := by
  obtain ⟨sameID, ⟨rfl, -⟩ | ⟨absent, added, hadded, enriched⟩⟩ := checkAndGetConnector_cases h
  · exact ⟨consistent, sameID⟩
  refine ⟨?_, sameID⟩
  have consistentAdded := addConnector_ok consistent absent
  rw [hadded] at consistentAdded
  rcases enriched with rfl | ⟨template, chargePoints, rfl⟩
  · exact consistentAdded
  · have enriched : ChargingStation.IsConsistent transactions
        { added with
          connectors := OCPPUtils.updateConnector statusNotification.connectorId
            (enrichConnector template) added.connectors } :=
      consistentAdded.updateConnector (fun _ same => same)
        (fun connector mem _ => consistentAdded.carries connector (List.mem_append_left _ mem))
        (fun connector mem _ => consistentAdded.carries connector (List.mem_append_left _ mem))
        fun connector mem => consistentAdded.carries connector (List.mem_append_right _ mem)
    exact ⟨enriched.carries, enriched.apart⟩

/-- The status of a connector says nothing about its transaction. -/
theorem updateConnectorFromStatusNotification_ok
    (consistent : chargingStation.IsConsistent transactions)
    (statusNotification : OCPPStatusNotificationRequest) :
    (updateConnectorFromStatusNotification statusNotification statusNotification.connectorId
      chargingStation).IsConsistent transactions := by
  refine ChargingStation.IsConsistent.perm ?_ (List.perm_insertionSort _ _)
  refine consistent.updateConnector (fun _ _ => rfl) ?_
    (fun connector mem _ => consistent.carries connector (List.mem_append_left _ mem))
    fun connector mem => consistent.carries connector (List.mem_append_right _ mem)
  intro connector mem same
  have carries := consistent.carries connector (List.mem_append_left _ mem)
  unfold Connector.CarriesRunning at carries ⊢
  rw [show (updateConnectorStatus statusNotification connector).connectorId =
    connector.connectorId from same.symm]
  exact carries

/-- The completion of the last transaction leaves the connectors consistent, also those of the
station that the notification is about. -/
theorem checkAndUpdateLastCompletedTransaction_ok {context : NotificationContext}
    {statusNotification : OCPPStatusNotificationRequest} {connector : Connector}
    {store store' : Store} {result : Except String ChargingStation}
    (consistent : store.IsConsistent)
    (consistentStation : chargingStation.IsConsistent store.transactions)
    (h : checkAndUpdateLastCompletedTransaction context chargingStation statusNotification
      connector store = (result, store')) :
    store'.IsConsistent ∧
      ∀ updated, result = .ok updated → updated.IsConsistent store'.transactions := by
  rcases checkAndUpdateLastCompletedTransaction_cases h with
    ⟨-, rfl, rfl⟩ | ⟨-, lastTransaction, hlast, ⟨-, rfl, rfl⟩ | ⟨stopped, completed, hcomplete, rfl⟩⟩
  · refine ⟨consistent, fun updated same => ?_⟩
    cases same
    exact consistentStation
  · refine ⟨consistent, fun updated cleared => ?_⟩
    cases cleared
    exact consistentStation.clear _
  · obtain ⟨found, -⟩ := TransactionStorage.getLastTransactionFromChargingStation_eq_some hlast
    have same : store.SameBut lastTransaction.id store' :=
      (changes_completeLastTransaction context _ lastTransaction).of_eq hcomplete
    refine ⟨consistent.of_stopped found stopped same, fun updated cleared => ?_⟩
    obtain ⟨_, -, rfl⟩ := Outcome.map_eq_ok.mp cleared
    exact (consistentStation.of_stopped found stopped same).clear _

end Notified

end OCPPService

/-- **A status notification** leaves the connectors consistent. -/
theorem Store.IsConsistent.statusNotification {store : Store} (consistent : store.IsConsistent)
    (context : NotificationContext) {headers : OCPPHeader}
    (statusNotification : OCPPStatusNotificationRequest)
    (station : headers.chargingStation = store.chargingStations.find headers.chargeBoxIdentity) :
    (handleStatusNotification context headers statusNotification store).2.IsConsistent := by
  generalize left : (handleStatusNotification context headers statusNotification store).2 = store'
  rcases handleStatusNotification_cases left with
    rfl | ⟨chargingStation, request, reported, connector, result, between, hstation, -, -, hfound,
      hlast, saved⟩
  · exact consistent
  obtain ⟨stationConsistent, -⟩ := consistent.station (station.symm.trans hstation)
  obtain ⟨reportedConsistent, -⟩ := checkAndGetConnector_ok stationConsistent hfound
  obtain ⟨consistent, updatedConsistent⟩ :=
    checkAndUpdateLastCompletedTransaction_ok consistent reportedConsistent hlast
  rcases saved with ⟨rfl, -⟩ | ⟨updated, ok, rfl⟩
  · exact consistent
  · exact consistent.saveStation
      (updateConnectorFromStatusNotification_ok (updatedConsistent updated ok) request)

/-! ## Boot notifications -/

namespace OCPPService

/-- What is backed up: connectors of the station, each under its own ID. -/
theorem backUpConnectors_ok {connectors backupConnectors : List Connector}
    (apart : (backupConnectors.map Connector.connectorId).Nodup) :
    (∀ connector ∈ backUpConnectors connectors backupConnectors,
        connector ∈ connectors ∨ connector ∈ backupConnectors) ∧
      ((backUpConnectors connectors backupConnectors).map Connector.connectorId).Nodup := by
  unfold backUpConnectors
  induction connectors generalizing backupConnectors with
  | nil => exact ⟨fun connector mem => .inr mem, apart⟩
  | cons first rest ih =>
      rw [List.foldl_cons]
      split
      · obtain ⟨mem, nodup⟩ := ih apart
        exact ⟨fun connector hmem => (mem connector hmem).imp_left (List.mem_cons_of_mem _), nodup⟩
      · rename_i new
        have apart' : ((backupConnectors ++ [first]).map Connector.connectorId).Nodup := by
          rw [List.map_append, List.map_singleton, List.nodup_append]
          refine ⟨apart, List.nodup_singleton _, ?_⟩
          intro id mem id' mem' same
          obtain ⟨backup, hbackup, rfl⟩ := List.mem_map.mp mem
          rw [List.mem_singleton] at mem'
          exact new (List.any_eq_true.mpr ⟨backup, hbackup, decide_eq_true (same.trans mem')⟩)
        obtain ⟨mem, nodup⟩ := ih apart'
        refine ⟨fun connector hmem => ?_, nodup⟩
        rcases mem connector hmem with later | old
        · exact .inl (List.mem_cons_of_mem _ later)
        · rcases List.mem_append.mp old with backup | here
          · exact .inr backup
          · exact .inl (List.mem_singleton.mp here ▸ List.mem_cons_self)

/-- A booted station has its connectors backed up. -/
theorem enrichChargingStation_ok {chargingStation : ChargingStation}
    {transactions : Collection Transaction.id}
    (consistent : chargingStation.IsConsistent transactions)
    (bootNotification : OCPPBootNotificationRequest) :
    (enrichChargingStationFromBootNotification bootNotification chargingStation).IsConsistent
      transactions := by
  have apart := consistent.apart
  rw [ChargingStation.allConnectors, List.map_append] at apart
  obtain ⟨mem, nodup⟩ := @backUpConnectors_ok chargingStation.connectors _
    (List.nodup_append.mp apart).2.1
  constructor
  · intro connector hmem
    exact consistent.carries connector (List.mem_append.mpr (mem connector hmem))
  · exact nodup

/-- The station of a boot notification is the known one, or a new one without connectors. -/
theorem getChargingStationFromBootNotification_ok {context : NotificationContext}
    {headers : OCPPHeader} {bootNotification : OCPPBootNotificationRequest}
    {chargingStation : ChargingStation}
    (h : getChargingStationFromBootNotification context headers bootNotification =
      .ok chargingStation) :
    headers.chargingStation = some chargingStation ∨
      headers.chargingStation = none ∧ chargingStation.id = headers.chargeBoxIdentity ∧
        chargingStation.allConnectors = [] := by
  unfold getChargingStationFromBootNotification at h
  split at h
  · cases h
  · obtain ⟨_, -, h⟩ := Outcome.bind_eq_ok.mp h
    cases station : headers.chargingStation with
    | none =>
        rw [station] at h
        obtain ⟨_, -, h⟩ := Outcome.bind_eq_ok.mp h
        cases h
        exact .inr ⟨rfl, rfl, rfl⟩
    | some known =>
        rw [station] at h
        dsimp only at h
        split at h
        · cases h
          exact .inl rfl
        · cases h

end OCPPService

/-- **A boot notification** leaves the connectors consistent. -/
theorem Store.IsConsistent.bootNotification {store : Store} (consistent : store.IsConsistent)
    (context : NotificationContext) {headers : OCPPHeader}
    (bootNotification : OCPPBootNotificationRequest)
    (station : headers.chargingStation = store.chargingStations.find headers.chargeBoxIdentity) :
    (handleBootNotification context headers bootNotification store).2.IsConsistent := by
  unfold handleBootNotification
  rw [Handler.handle_snd]
  cases hget : getChargingStationFromBootNotification context headers bootNotification with
  | error error => exact consistent
  | ok chargingStation =>
    have known : chargingStation.IsConsistent store.transactions := by
      rcases getChargingStationFromBootNotification_ok hget with found | ⟨-, -, none_there⟩
      · exact (consistent.station (station.symm.trans found)).1
      · constructor <;> rw [none_there]
        · exact fun _ mem => absurd mem List.not_mem_nil
        · exact List.nodup_nil
    rw [Handler.ofExcept_ok_bind]
    cases context.saveChargingStationFirmwareStatus chargingStation with
    | error error => exact consistent
    | ok _ =>
      rw [Handler.ofExcept_ok_bind]
      have enriched := enrichChargingStation_ok known bootNotification
      generalize enrichChargingStationFromBootNotification bootNotification chargingStation =
        booted at enriched
      cases context.chargingStationTemplate booted with
      | error error => exact consistent
      | ok template =>
        rw [Handler.ofExcept_ok_bind]
        unfold ChargingStationStorage.saveChargingStation
        cases context.database .saveChargingStation with
        | error error => exact consistent
        | ok _ =>
          rw [Handler.write_ok_bind]
          cases template with
          | none => cases context.saveBootNotification <;> exact consistent.saveStation enriched
          | some template =>
            have applied : (applyTemplate template booted).IsConsistent store.transactions :=
              ⟨enriched.carries, enriched.apart⟩
            cases context.saveBootNotification <;> exact consistent.saveStation applied

end EvServer
