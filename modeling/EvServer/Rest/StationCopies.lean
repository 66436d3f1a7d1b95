import EvServer.Ocpp.ExtraInactivity
import EvServer.Ocpp.KnownConnectors

/-!
# What a handler writes back of a charging station

Each handler gets a copy of the charging station, which has been read before, and saves it at
most once, with all its connectors.  It changes the connector that it is about; what it saves of
the others is what it has read.
-/

namespace EvServer

namespace ChargingStation

/-- What is known of a connector, and of the one in the backup. -/
def connectorOf (chargingStation : ChargingStation) (connectorId : ℕ) :
    Option Connector × Option Connector :=
  (Utils.getConnectorFromID chargingStation connectorId,
    OCPPService.getLastSeenConnectorFromID chargingStation connectorId)

/-- The same station, one connector apart. -/
structure SameOff (connectorId : ℕ) (chargingStation chargingStation' : ChargingStation) :
    Prop where
  id : chargingStation'.id = chargingStation.id
  connectors : ∀ other, other ≠ connectorId →
    chargingStation'.connectorOf other = chargingStation.connectorOf other

variable {connectorId : ℕ} {chargingStation chargingStation' : ChargingStation}

theorem SameOff.refl (chargingStation : ChargingStation) :
    SameOff connectorId chargingStation chargingStation where
  id := rfl
  connectors _ _ := rfl

theorem SameOff.trans {between : ChargingStation}
    (first : SameOff connectorId chargingStation between)
    (second : SameOff connectorId between chargingStation') :
    SameOff connectorId chargingStation chargingStation' where
  id := second.id.trans first.id
  connectors other ne := (second.connectors other ne).trans (first.connectors other ne)

/-- A connector is updated. -/
theorem sameOff_updateConnector (connectorId : ℕ) {f : Connector → Connector}
    (keeps : ∀ connector, connector.connectorId = connectorId →
      (f connector).connectorId = connectorId) (chargingStation : ChargingStation) :
    SameOff connectorId chargingStation { chargingStation with
      connectors := OCPPUtils.updateConnector connectorId f chargingStation.connectors } where
  id := rfl
  connectors other ne := by
    refine Prod.ext ?_ rfl
    refine (OCPPUtils.find?_updateConnector keeps other chargingStation.connectors).trans ?_
    rw [if_neg ne, Option.map_id]
    rfl

/-- The runtime data of a connector is cleared. -/
theorem sameOff_clear (chargingStation : ChargingStation) (connectorId : ℕ) :
    SameOff connectorId chargingStation
      (OCPPUtils.clearChargingStationConnectorRuntimeData chargingStation connectorId) :=
  sameOff_updateConnector connectorId (f := OCPPUtils.clearRuntimeData) (fun _ same => same)
    chargingStation

end ChargingStation

/-- What is stored of a connector of a station. -/
def Store.connectorOf (store : Store) (chargeBoxID : String) (connectorId : ℕ) :
    Option (Option Connector × Option Connector) :=
  (store.chargingStations.find chargeBoxID).map fun chargingStation =>
    chargingStation.connectorOf connectorId

/-- A handler about a connector, if any, has written back the copy of a station: what is stored
of the other connectors stays where the copy has it. -/
inductive WritesBack (chargingStation : ChargingStation) (connectorId : Option ℕ)
    (store store' : Store) : Prop
  /-- The station is not saved. -/
  | same : store'.chargingStations = store.chargingStations →
      WritesBack chargingStation connectorId store store'
  | saved {saved : ChargingStation} {about : ℕ} :
      connectorId = some about → saved.id = chargingStation.id →
      store'.chargingStations = store.chargingStations.save saved →
      (∀ other, other ≠ about →
        store.connectorOf chargingStation.id other = some (chargingStation.connectorOf other) →
          some (saved.connectorOf other) = store.connectorOf chargingStation.id other) →
      WritesBack chargingStation connectorId store store'

namespace WritesBack

variable {chargingStation saved : ChargingStation} {connectorId : Option ℕ} {about : ℕ}
variable {store between store' : Store}

/-- The copy itself is saved, with another state of the connector. -/
theorem of_sameOff (isAbout : connectorId = some about)
    (same : chargingStation.SameOff about saved)
    (after : store'.chargingStations = store.chargingStations.save saved) :
    WritesBack chargingStation connectorId store store' := by
  refine .saved isAbout same.id after fun other ne stored => ?_
  rw [same.connectors other ne, stored]

/-- The connectors of the copy are saved, and the backup stays as it is stored. -/
theorem of_connectors {changed : ChargingStation} (isAbout : connectorId = some about)
    (same : chargingStation.SameOff about changed)
    (after : store'.chargingStations = store.chargingStations.save
      { (store.chargingStations.find changed.id).getD { id := changed.id } with
        id := changed.id
        connectors := changed.connectors }) :
    WritesBack chargingStation connectorId store store' := by
  refine .saved isAbout ?_ after fun other ne stored => ?_
  · exact same.id
  obtain ⟨there, found, isThere⟩ := Option.map_eq_some_iff.mp stored
  rw [← same.id] at found
  rw [stored, ← same.connectors other ne]
  refine congrArg some (Prod.ext rfl ?_)
  have backup : there.connectorOf other = changed.connectorOf other :=
    isThere.trans (same.connectors other ne).symm
  simp only [ChargingStation.connectorOf, OCPPService.getLastSeenConnectorFromID, found,
    Option.getD_some] at backup ⊢
  exact congrArg Prod.snd backup

/-- What is not about stations may follow. -/
theorem of_eq (first : WritesBack chargingStation connectorId store between)
    (same : store'.chargingStations = between.chargingStations) :
    WritesBack chargingStation connectorId store store' := by
  cases first with
  | same first => exact .same (same.trans first)
  | saved isAbout id after keeps => exact .saved isAbout id (same.trans after) keeps

end WritesBack

open ChargingStation

/-! ## Stops -/

section Stops

open OCPPService

variable {store : Store} {chargingStation : ChargingStation}

/-- The connector of a stored transaction. -/
def Store.connectorOfTransaction (store : Store) (transactionId : ℕ) : Option ℕ :=
  (store.transactions.find transactionId).map Transaction.connectorId

/-- **A stop** is about the connector of its transaction. -/
theorem writesBack_stop (context : StopContext) {headers : OCPPHeader}
    (station : headers.chargingStation = some chargingStation)
    (stopTransaction : OCPPStopTransactionRequest) (isSoftStop isStoppedByCentralSystem : Bool) :
    WritesBack chargingStation (store.connectorOfTransaction stopTransaction.transactionId) store
      (handleStopTransaction context headers stopTransaction isSoftStop isStoppedByCentralSystem
        store).2 := by
  cases checked : checkStopTransaction context headers stopTransaction isStoppedByCentralSystem
      store with
  | error error => exact .same (by rw [handleStopTransaction_of_error checked])
  | ok checkedAttempt =>
    cases checkedAttempt with
    | none => exact .same (by rw [handleStopTransaction_of_bypass checked])
    | some attempt =>
      have sameStation : attempt.chargingStation = chargingStation :=
        Option.some.inj ((chargingStation_of_checkStopTransaction checked).symm.trans station)
      have isAbout : store.connectorOfTransaction stopTransaction.transactionId =
          some attempt.transaction.connectorId := by
        unfold Store.connectorOfTransaction
        rw [(checkStopTransaction_ok checked).2.1]
        rfl
      have freed : chargingStation.SameOff attempt.transaction.connectorId attempt.freed := by
        rw [← sameStation]
        exact sameOff_clear attempt.chargingStation attempt.transaction.connectorId
      cases saves : context.database .saveChargingStation with
      | error error =>
        have failed : attempt.failure context isSoftStop = some .savingChargingStation := by
          rw [StopAttempt.failure, saves]
        refine .same ?_
        rw [handleStopTransaction_of_attempt checked, failed]
        rfl
      | ok _ => exact .of_sameOff isAbout freed (chargingStations_of_attempt checked saves)

end Stops

/-! ## Soft stops -/

namespace TransactionService

open OCPPService

variable {store : Store} {chargingStation : ChargingStation}

/-- `handleTransactionSoftStop`, after the transaction, its station and its connector have been
read. -/
def continueSoftStop (context : TransactionServiceContext) (transaction : Transaction)
    (chargeBox : Option ChargingStation) (chargingStation : ChargingStation)
    (connector : Connector) : StoreHandler Unit :=
  -- Check if already stopped
  if transaction.stop.isSome then
    -- Clear Connector
    if connector.currentTransactionID = transaction.id then
      ChargingStationStorage.saveChargingStationConnectors context.stopContext.database
        (OCPPUtils.clearChargingStationConnectorRuntimeData chargingStation
          transaction.connectorId)
    else return ()
  -- Transaction is still ongoing
  else if context.inactive chargingStation = false ∧
      connector.currentTransactionID = transaction.id then
    Handler.ofExcept (.error "Cannot soft stop an ongoing Transaction")
  else do
    let success ← softStopTransaction context transaction chargeBox chargingStation
    if success then return ()
    else Handler.ofExcept (.error "Transaction cannot be stopped")

/-- A soft stop reads first, and then it writes. -/
theorem handleTransactionSoftStop_eq (context : TransactionServiceContext) (transactionId : ℕ) :
    handleTransactionSoftStop context transactionId = (do
      let ((transaction, chargeBox), chargingStation, connector) ← Handler.read
        (checkTransactionSoftStop context transactionId)
      continueSoftStop context transaction chargeBox chargingStation connector) := rfl

/-- **A soft stop of the station** is about the connector of the stored transaction. -/
theorem writesBack_softStopTransaction (context : TransactionServiceContext)
    (transaction : Transaction) (chargeBox : Option ChargingStation) :
    WritesBack chargingStation (store.connectorOfTransaction transaction.id) store
      (softStopTransaction context transaction chargeBox chargingStation store).2 := by
  unfold softStopTransaction
  split
  · have station : (softStopHeader transaction (some chargingStation)).chargingStation =
        some chargingStation := rfl
    have nested := @writesBack_stop store chargingStation context.stopContext _ station
      (softStopRequest transaction) true false
    rcases hstop : handleStopTransaction context.stopContext
      (softStopHeader transaction (some chargingStation)) (softStopRequest transaction) true false
      store with ⟨status, between⟩
    rw [hstop] at nested
    rw [Handler.bind_apply_ok (a := status) (t := between) (by rw [nestedStop, hstop])]
    split
    · exact nested
    · cases hcopy : stopCopy context.stopContext transaction chargeBox with
      | error error => exact nested
      | ok copy =>
        rw [Handler.ofExcept_ok_bind]
        unfold TransactionStorage.saveTransaction
        cases context.stopContext.database .saveTransaction with
        | error error => exact nested
        | ok _ => exact nested.of_eq rfl
  · exact .same rfl

/-- The connector that a soft stop is about. -/
def connectorOfSoftStop (transaction : Transaction) (store : Store) : Option ℕ :=
  if transaction.stop.isSome then some transaction.connectorId
  else store.connectorOfTransaction transaction.id

/-- **A soft stop by a user.**  A transaction that has been stopped already leaves the backup as
it is stored. -/
theorem writesBack_continueSoftStop (context : TransactionServiceContext)
    (transaction : Transaction) (chargeBox : Option ChargingStation) (connector : Connector) :
    WritesBack chargingStation (connectorOfSoftStop transaction store) store
      (continueSoftStop context transaction chargeBox chargingStation connector store).2 := by
  unfold continueSoftStop connectorOfSoftStop
  split
  · split
    · unfold ChargingStationStorage.saveChargingStationConnectors
      cases context.stopContext.database .saveChargingStation with
      | error error => exact .same rfl
      | ok _ =>
        exact .of_connectors rfl (sameOff_clear chargingStation transaction.connectorId) rfl
    · exact .same rfl
  · split
    · exact .same rfl
    · have stopped := @writesBack_softStopTransaction store chargingStation context transaction
        chargeBox
      rcases hstop : softStopTransaction context transaction chargeBox chargingStation store with
        ⟨error | success, between⟩ <;> rw [hstop] at stopped
      · rw [Handler.bind_apply_error hstop]
        exact stopped
      · rw [Handler.bind_apply_ok hstop]
        split <;> exact stopped

end TransactionService

/-! ## Starts -/

section Starts

open OCPPService

variable {store : Store} {chargingStation : ChargingStation} {context : StartContext}
variable {startTransaction : OCPPStartTransactionRequest}

/-- The clean-up clears the connector, at most. -/
theorem sameOff_processExistingTransaction {context : StopContext} {connectorId fuel : ℕ}
    {cleanedUp : ChargingStation} {between : Store}
    (h : processExistingTransaction context connectorId (fuel + 2) none chargingStation store =
      (.ok (some cleanedUp), between)) :
    chargingStation.SameOff connectorId cleanedUp ∧
      between.chargingStations = store.chargingStations := by
  rcases processExistingTransaction_ok h with ⟨rfl, rfl⟩ | ⟨active, hactive, -, rfl, rfl⟩
  · exact ⟨.refl _, rfl⟩
  · rw [(isActiveOn_of_getActiveTransaction hactive).2.1]
    exact ⟨sameOff_clear chargingStation connectorId, rfl⟩

/-- **A start** is about the connector that it names. -/
theorem writesBack_start {headers : OCPPHeader}
    (station : headers.chargingStation = some chargingStation) :
    WritesBack chargingStation (some startTransaction.connectorId) store
      (handleStartTransaction context 2 headers startTransaction store).2 := by
  have outcome := startOutcome context 0 headers startTransaction store
  rw [Nat.zero_add] at outcome
  generalize (handleStartTransaction context 2 headers startTransaction store).2 = after
    at outcome ⊢
  cases outcome with
  | rejected => exact .same rfl
  | cleanedUp checked cleaned _ => exact .same (sameOff_processExistingTransaction cleaned).2
  | saved checked cleaned _ _ _ => exact .same (sameOff_processExistingTransaction cleaned).2
  | @started copy cleanedUp newTransaction started between checked cleaned hstarted =>
      obtain ⟨rfl, -, connector, -⟩ := checkStartTransaction_ok station checked
      obtain ⟨same, stations⟩ := sameOff_processExistingTransaction cleaned
      have isConnector : started.connectorId = startTransaction.connectorId :=
        (startTransactionWith_ok hstarted).connectorId.trans connector
      refine .of_sameOff rfl (same.trans ?_) (congrArg (Collection.save _) stations)
      rw [← isConnector]
      refine sameOff_updateConnector started.connectorId ?_ cleanedUp
      exact fun _ isIt => isIt

end Starts

/-! ## Meter values -/

section MeterValues

open OCPPService

variable {store : Store} {chargingStation : ChargingStation}

/-- The connector of the transaction that meter values are of. -/
def connectorOfMeterValues (chargingStation : ChargingStation)
    (meterValues : OCPPMeterValuesRequest) (store : Store) : Option ℕ :=
  (OCPPValidation.validateMeterValues chargingStation meterValues).transactionId.bind
    store.connectorOfTransaction

/-- The progress of a transaction is that of its connector. -/
theorem sameOff_updateChargingStationWithTransaction (chargingStation : ChargingStation)
    (transaction : Transaction) :
    chargingStation.SameOff transaction.connectorId
      (updateChargingStationWithTransaction chargingStation transaction) := by
  unfold updateChargingStationWithTransaction
  split
  · refine sameOff_updateConnector transaction.connectorId ?_ chargingStation
    exact fun _ isIt => isIt
  · exact sameOff_clear chargingStation transaction.connectorId

/-- **Meter values** are about the connector of their transaction. -/
theorem writesBack_meterValues (context : MeterValuesHandlerContext) {headers : OCPPHeader}
    (station : headers.chargingStation = some chargingStation)
    (meterValues : OCPPMeterValuesRequest) :
    WritesBack chargingStation (connectorOfMeterValues chargingStation meterValues store) store
      (handleMeterValuesRequest context headers meterValues store).2 := by
  have outcome := meterValuesOutcome context headers meterValues store
  generalize (handleMeterValuesRequest context headers meterValues store).2 = after at outcome ⊢
  cases outcome with
  | rejected => exact .same rfl
  | @cutOff attempt transaction consumptions loop _ checked prepared hloop _ =>
      have saves := changes_saveConsumptions context attempt.chargingStation consumptions
        transaction store
      rw [hloop] at saves
      exact .same saves.2
  | @saved attempt transaction transaction' consumptions between stations checked prepared hloop
      hstations =>
      have saves := changes_saveConsumptions context attempt.chargingStation consumptions
        transaction store
      rw [hloop] at saves
      obtain ⟨hstation, named, -, found, -⟩ := checkMeterValues_ok checked
      have sameStation : attempt.chargingStation = chargingStation :=
        Option.some.inj (hstation.symm.trans station)
      have isConnector : transaction'.connectorId = attempt.transaction.connectorId :=
        (sameSession_saveConsumptions hloop).connectorId.trans
          (sameSession_prepareConsumptions prepared).connectorId
      have isAbout : connectorOfMeterValues chargingStation meterValues store =
          some transaction'.connectorId := by
        rw [connectorOfMeterValues, ← sameStation, named, Option.bind_some,
          Store.connectorOfTransaction, found, isConnector]
        rfl
      rcases hstations with same | saved
      · exact .same (same.trans saves.2)
      · refine .of_sameOff isAbout ?_ (saved.trans (congrArg (Collection.save _) saves.2))
        rw [sameStation]
        exact sameOff_updateChargingStationWithTransaction chargingStation transaction'

end MeterValues

/-! ## Status notifications -/

section StatusNotifications

open OCPPService

variable {store : Store} {chargingStation : ChargingStation}
variable {context : NotificationContext} {statusNotification : OCPPStatusNotificationRequest}

/-- A connector that the station reports is added, and taken out of the backup. -/
theorem sameOff_addConnector (chargingStation : ChargingStation) (connectorId : ℕ) :
    chargingStation.SameOff connectorId (addConnector chargingStation connectorId).1 := by
  have added (connector : Connector) (isIt : connector.connectorId = connectorId) (other : ℕ)
      (ne : other ≠ connectorId) :
      (chargingStation.connectors ++ [connector]).find?
          (fun connector => connector.connectorId = other) =
        chargingStation.connectors.find? fun connector => connector.connectorId = other := by
    rw [List.find?_append, List.find?_cons_of_neg, List.find?_nil, Option.or_none]
    rw [isIt, decide_eq_true_eq]
    exact ne.symm
  unfold addConnector
  cases hbackup : getLastSeenConnectorFromID chargingStation connectorId with
  | some connector =>
      have isIt := (getLastSeenConnectorFromID_eq_some hbackup).2
      refine ⟨rfl, fun other ne => Prod.ext (added connector isIt other ne) ?_⟩
      change (chargingStation.backupConnectors.filter _).find? _ = _
      rw [List.find?_filter]
      refine congrArg (chargingStation.backupConnectors.find? ·) (funext fun backup => ?_)
      rw [isIt]
      by_cases same : backup.connectorId = other <;> simp [same, ne]
  | none => exact ⟨rfl, fun other ne => Prod.ext (added _ rfl other ne) rfl⟩

/-- What a status notification does to the connectors of its station, before it is saved. -/
theorem sameOff_checkAndGetConnector {reported : ChargingStation} {connector : Connector}
    (h : checkAndGetConnectorFromStatusNotification context chargingStation statusNotification =
      .ok (some (reported, connector))) :
    chargingStation.SameOff statusNotification.connectorId reported := by
  obtain ⟨-, ⟨rfl, -⟩ | ⟨-, added, hadded, enriched⟩⟩ := checkAndGetConnector_cases h
  · exact .refl _
  have sameOff := sameOff_addConnector chargingStation statusNotification.connectorId
  rw [hadded] at sameOff
  rcases enriched with rfl | ⟨template, chargePoints, rfl⟩
  · exact sameOff
  · have enriched := sameOff_updateConnector statusNotification.connectorId
      (f := enrichConnector template) (fun _ isIt => isIt) added
    exact sameOff.trans ⟨enriched.id, enriched.connectors⟩

/-- The runtime data of the connector is cleared, at most. -/
theorem sameOff_checkAndUpdateLastCompletedTransaction {connector : Connector} {store' : Store}
    {updated : ChargingStation}
    (h : checkAndUpdateLastCompletedTransaction context chargingStation statusNotification
      connector store = (.ok updated, store')) :
    chargingStation.SameOff connector.connectorId updated := by
  rcases checkAndUpdateLastCompletedTransaction_cases h with
    ⟨-, same, -⟩ | ⟨-, lastTransaction, hlast, done⟩
  · cases same
    exact .refl _
  · have same : updated = OCPPUtils.clearChargingStationConnectorRuntimeData chargingStation
        lastTransaction.connectorId := by
      rcases done with ⟨-, -, cleared⟩ | ⟨-, completed, -, cleared⟩
      · exact Except.ok.inj cleared
      · obtain ⟨_, -, cleared⟩ := Outcome.map_eq_ok.mp cleared.symm
        exact cleared.symm
    -- The last transaction is one of the connector.
    obtain ⟨-, ofConnector⟩ :=
      TransactionStorage.getLastTransactionFromChargingStation_eq_some hlast
    rw [same, ofConnector]
    exact sameOff_clear chargingStation connector.connectorId

/-- The status is written, and the connectors are sorted. -/
theorem sameOff_updateConnectorFromStatusNotification (chargingStation : ChargingStation) :
    chargingStation.SameOff statusNotification.connectorId
      (updateConnectorFromStatusNotification statusNotification
        statusNotification.connectorId chargingStation) := by
  have updated := sameOff_updateConnector statusNotification.connectorId
    (f := updateConnectorStatus statusNotification) (fun _ _ => rfl) chargingStation
  refine ⟨rfl, fun other ne => Prod.ext ?_ rfl⟩
  refine (List.find?_insertionSort Connector.connectorId _ other).trans ?_
  exact congrArg Prod.fst (updated.connectors other ne)

/-- **A status notification** is about the connector that it names. -/
theorem writesBack_statusNotification {headers : OCPPHeader}
    (station : headers.chargingStation = some chargingStation) :
    WritesBack chargingStation (some statusNotification.connectorId) store
      (handleStatusNotification context headers statusNotification store).2 := by
  generalize left : (handleStatusNotification context headers statusNotification store).2 = store'
  rcases handleStatusNotification_cases left with
    rfl | ⟨chargingStation', request, reported, connector, result, between, hstation, valid, -,
      hfound, hlast, saved⟩
  · exact .same rfl
  obtain rfl := Option.some.inj (station.symm.trans hstation)
  have sameConnector : request.connectorId = statusNotification.connectorId := by
    rw [validateStatusNotification_ok valid]
  have stations := (keeps_checkAndUpdateLastCompletedTransaction hlast).1
  rcases saved with ⟨rfl, -⟩ | ⟨updated, rfl, rfl⟩
  · exact .same stations
  have reportedSame := sameOff_checkAndGetConnector hfound
  have updatedSame := sameOff_checkAndUpdateLastCompletedTransaction hlast
  have savedSame := @sameOff_updateConnectorFromStatusNotification request updated
  rw [(reported_checkAndGetConnector hfound).2.1] at updatedSame
  rw [← sameConnector]
  exact .of_sameOff rfl ((reportedSame.trans updatedSame).trans savedSame)
    (congrArg (Collection.save _) stations)

end StatusNotifications

end EvServer
