import EvServer.Ocpp.ExistingTransactions
import EvServer.Ocpp.MeterValuesHandler
import EvServer.Ocpp.StatusNotification
import EvServer.Ocpp.StopRetry
import EvServer.Rest.TransactionService

/-!
# What the connectors carry

A connector carries the ID of the transaction that runs on it, or 0.  The reference is set
when a transaction starts or is metered, and cleared by whoever ends the session, each on
its own copy of the station.  `Store.IsConsistent` says that every connector, backed up or
not, carries nothing or a transaction that runs on it.
-/

namespace EvServer

/-- The connectors of a station, with those of its backup. -/
def ChargingStation.allConnectors (chargingStation : ChargingStation) : List Connector :=
  chargingStation.connectors ++ chargingStation.backupConnectors

/-- The connector carries no transaction, or one that runs on it. -/
def Connector.CarriesRunning (transactions : Collection Transaction.id) (chargeBoxID : String)
    (connector : Connector) : Prop :=
  connector.currentTransactionID ≠ 0 →
    ∃ transaction, transactions.find connector.currentTransactionID = some transaction ∧
      transaction.isActiveOn chargeBoxID connector.connectorId

namespace ChargingStation

/-- The connectors of the station carry what runs on them, and each has its own ID. -/
structure IsConsistent (transactions : Collection Transaction.id)
    (chargingStation : ChargingStation) : Prop where
  carries : ∀ connector ∈ chargingStation.allConnectors,
    connector.CarriesRunning transactions chargingStation.id
  apart : (chargingStation.allConnectors.map Connector.connectorId).Nodup

end ChargingStation

namespace Store

/-- **The invariant.** -/
def IsConsistent (store : Store) : Prop :=
  ∀ chargingStation ∈ store.chargingStations.docs, chargingStation.IsConsistent store.transactions

/-- Some connector carries the transaction. -/
def IsHeld (store : Store) (id : ℕ) : Prop :=
  ∃ chargingStation ∈ store.chargingStations.docs,
    ∃ connector ∈ chargingStation.allConnectors, connector.currentTransactionID = id

end Store

namespace OCPPUtils

/-! ## One connector -/

variable {connectorID : ℕ} {f : Connector → Connector} {connectors : List Connector}
variable {connector : Connector}

theorem map_connectorId_updateConnector (keeps : ∀ connector, connector.connectorId = connectorID →
    (f connector).connectorId = connectorID) (connectors : List Connector) :
    (updateConnector connectorID f connectors).map Connector.connectorId =
      connectors.map Connector.connectorId := by
  induction connectors with
  | nil => rfl
  | cons first rest ih =>
      rw [updateConnector]
      split
      · rename_i same
        rw [List.map_cons, List.map_cons, keeps first same, same]
      · rw [List.map_cons, List.map_cons, ih]

/-- The connector with the ID is updated, and no other one. -/
theorem mem_updateConnector (apart : (connectors.map Connector.connectorId).Nodup)
    (h : connector ∈ updateConnector connectorID f connectors) :
    connector ∈ connectors ∧ connector.connectorId ≠ connectorID ∨
      ∃ before ∈ connectors, before.connectorId = connectorID ∧ connector = f before := by
  induction connectors with
  | nil => cases h
  | cons first rest ih =>
      rw [List.map_cons, List.nodup_cons] at apart
      rw [updateConnector] at h
      split at h
      · rename_i same
        rcases List.mem_cons.mp h with rfl | later
        · exact .inr ⟨first, List.mem_cons_self, same, rfl⟩
        · refine .inl ⟨List.mem_cons_of_mem _ later, fun sameID => apart.1 ?_⟩
          rw [same, ← sameID]
          exact List.mem_map_of_mem later
      · rename_i other
        rcases List.mem_cons.mp h with rfl | later
        · exact .inl ⟨List.mem_cons_self, other⟩
        · rcases ih apart.2 later with ⟨mem, ne⟩ | ⟨before, mem, same⟩
          · exact .inl ⟨List.mem_cons_of_mem _ mem, ne⟩
          · exact .inr ⟨before, List.mem_cons_of_mem _ mem, same⟩

end OCPPUtils

/-- Where the stored transaction runs, the transaction to save does. -/
def Transaction.StaysActive (saved : Transaction) (transactions : Collection Transaction.id) :
    Prop :=
  ∀ stored, transactions.find saved.id = some stored → ∀ chargeBoxID connectorId,
    stored.isActiveOn chargeBoxID connectorId → saved.isActiveOn chargeBoxID connectorId

namespace Connector

variable {connector : Connector} {transactions transactions' : Collection Transaction.id}
variable {chargeBoxID : String}

theorem carriesRunning_of_zero (h : connector.currentTransactionID = 0) :
    connector.CarriesRunning transactions chargeBoxID := fun carries => absurd h carries

/-- What a connector carries still runs when its transaction has not been touched. -/
theorem CarriesRunning.of_find (carries : connector.CarriesRunning transactions chargeBoxID)
    (same : transactions'.find connector.currentTransactionID =
      transactions.find connector.currentTransactionID) :
    connector.CarriesRunning transactions' chargeBoxID := by
  intro notZero
  rw [same]
  exact carries notZero

/-- Where the transaction runs that a connector carries. -/
theorem CarriesRunning.isActiveOn {transaction : Transaction}
    (carries : connector.CarriesRunning transactions chargeBoxID)
    (found : transactions.find connector.currentTransactionID = some transaction)
    (notZero : connector.currentTransactionID ≠ 0) :
    transaction.chargeBoxID = chargeBoxID ∧ transaction.connectorId = connector.connectorId ∧
      transaction.stop = none := by
  obtain ⟨_, hfound, active⟩ := carries notZero
  rw [found] at hfound
  cases hfound
  rw [Transaction.isActiveOn, Bool.and_eq_true, Bool.and_eq_true, decide_eq_true_eq,
    decide_eq_true_eq, Option.isNone_iff_eq_none] at active
  exact ⟨active.1.1, active.1.2, active.2⟩

/-- A running transaction is saved where it runs. -/
theorem CarriesRunning.save {saved : Transaction}
    (carries : connector.CarriesRunning transactions chargeBoxID)
    (stays : saved.StaysActive transactions) :
    connector.CarriesRunning (transactions.save saved) chargeBoxID := by
  intro notZero
  obtain ⟨stored, found, active⟩ := carries notZero
  rcases eq_or_ne connector.currentTransactionID saved.id with same | other
  · rw [same] at found ⊢
    exact ⟨saved, Collection.find_save_self, stays stored found _ _ active⟩
  · rw [Collection.find_save_of_ne other]
    exact ⟨stored, found, active⟩

end Connector

namespace ChargingStation

variable {chargingStation : ChargingStation}
variable {transactions transactions' : Collection Transaction.id}

/-- A backed-up connector has another ID than those that are there. -/
theorem IsConsistent.ne_of_mem_backup (consistent : chargingStation.IsConsistent transactions)
    {connector backup : Connector} (mem : connector ∈ chargingStation.connectors)
    (hbackup : backup ∈ chargingStation.backupConnectors) :
    backup.connectorId ≠ connector.connectorId := by
  have apart := consistent.apart
  rw [allConnectors, List.map_append, List.nodup_append] at apart
  intro same
  exact apart.2.2 _ (List.mem_map_of_mem mem) _ (List.mem_map_of_mem hbackup) same.symm

/-- The transactions that the connectors carry have not been touched. -/
theorem IsConsistent.of_find (consistent : chargingStation.IsConsistent transactions)
    (same : ∀ connector ∈ chargingStation.allConnectors, connector.currentTransactionID ≠ 0 →
      transactions'.find connector.currentTransactionID =
        transactions.find connector.currentTransactionID) :
    chargingStation.IsConsistent transactions' where
  carries connector mem notZero :=
    (consistent.carries connector mem).of_find (same connector mem notZero) notZero
  apart := consistent.apart

/-- A running transaction is saved where it runs. -/
theorem IsConsistent.saveTransaction (consistent : chargingStation.IsConsistent transactions)
    {saved : Transaction} (stays : saved.StaysActive transactions) :
    chargingStation.IsConsistent (transactions.save saved) where
  carries connector mem := (consistent.carries connector mem).save stays
  apart := consistent.apart

/-- One connector of a station is updated. -/
theorem IsConsistent.updateConnector (consistent : chargingStation.IsConsistent transactions)
    {connectorID : ℕ} {f : Connector → Connector}
    (keeps : ∀ connector, connector.connectorId = connectorID →
      (f connector).connectorId = connectorID)
    (updated : ∀ connector ∈ chargingStation.connectors, connector.connectorId = connectorID →
      (f connector).CarriesRunning transactions' chargingStation.id)
    (others : ∀ connector ∈ chargingStation.connectors, connector.connectorId ≠ connectorID →
      connector.CarriesRunning transactions' chargingStation.id)
    (backup : ∀ connector ∈ chargingStation.backupConnectors,
      connector.CarriesRunning transactions' chargingStation.id) :
    IsConsistent transactions'
      { chargingStation with
        connectors := OCPPUtils.updateConnector connectorID f chargingStation.connectors } := by
  have apart := consistent.apart
  rw [allConnectors, List.map_append] at apart
  constructor
  · intro connector mem
    rcases List.mem_append.mp mem with current | hbackup
    · rcases OCPPUtils.mem_updateConnector (List.nodup_append.mp apart).1 current with
        ⟨before, ne⟩ | ⟨before, hbefore, same, rfl⟩
      · exact others connector before ne
      · exact updated before hbefore same
    · exact backup connector hbackup
  · rw [allConnectors, List.map_append, OCPPUtils.map_connectorId_updateConnector keeps]
    exact apart

/-- A connector is freed. -/
theorem IsConsistent.clear (consistent : chargingStation.IsConsistent transactions)
    (connectorID : ℕ) :
    IsConsistent transactions
      (OCPPUtils.clearChargingStationConnectorRuntimeData chargingStation connectorID) :=
  consistent.updateConnector (fun _ same => same)
    (fun _ _ _ => Connector.carriesRunning_of_zero rfl)
    (fun connector mem _ => consistent.carries connector (List.mem_append_left _ mem))
    fun connector mem => consistent.carries connector (List.mem_append_right _ mem)

end ChargingStation

namespace Store

variable {store : Store} {transactions : Collection Transaction.id}
variable {consumptions : Collection Consumption.key} {chargingStation : ChargingStation}

theorem IsConsistent.station (consistent : store.IsConsistent) {chargeBoxID : String}
    (found : store.chargingStations.find chargeBoxID = some chargingStation) :
    chargingStation.IsConsistent store.transactions ∧ chargingStation.id = chargeBoxID :=
  ⟨consistent _ (Collection.mem_of_find found), Collection.key_of_find found⟩

/-- A station is saved. -/
theorem isConsistent_save
    (others : ∀ other ∈ store.chargingStations.docs, other.id ≠ chargingStation.id →
      other.IsConsistent transactions) (saved : chargingStation.IsConsistent transactions) :
    IsConsistent ⟨store.chargingStations.save chargingStation, transactions, consumptions⟩ := by
  intro other mem
  rcases Collection.mem_save_of_ne mem with rfl | ⟨mem, ne⟩
  · exact saved
  · exact others other mem ne

/-- A station is saved, and nothing else. -/
theorem IsConsistent.saveStation (consistent : store.IsConsistent)
    (saved : chargingStation.IsConsistent store.transactions) :
    IsConsistent ⟨store.chargingStations.save chargingStation, store.transactions, consumptions⟩ :=
  isConsistent_save (fun other mem _ => consistent other mem) saved

/-- The stations are the same, and so are the other transactions. -/
structure SameBut (id : ℕ) (store store' : Store) : Prop where
  chargingStations : store'.chargingStations = store.chargingStations
  others : ∀ other, other ≠ id → store'.transactions.find other = store.transactions.find other

theorem SameBut.refl {id : ℕ} (store : Store) : SameBut id store store := ⟨rfl, fun _ _ => rfl⟩

theorem SameBut.trans {id : ℕ} {store between store' : Store} (first : SameBut id store between)
    (second : SameBut id between store') : SameBut id store store' where
  chargingStations := second.chargingStations.trans first.chargingStations
  others other ne := (second.others other ne).trans (first.others other ne)

/-- The transactions that the connectors carry have not been touched. -/
theorem IsConsistent.of_find (consistent : store.IsConsistent)
    (same : ∀ id, store.IsHeld id → id ≠ 0 → transactions.find id = store.transactions.find id) :
    IsConsistent ⟨store.chargingStations, transactions, consumptions⟩ := by
  intro chargingStation mem
  exact (consistent chargingStation mem).of_find fun connector hconnector notZero =>
    same _ ⟨chargingStation, mem, connector, hconnector, rfl⟩ notZero

/-- A transaction is changed that no connector carries. -/
theorem IsConsistent.of_sameBut (consistent : store.IsConsistent) {store' : Store} {id : ℕ}
    (same : SameBut id store store') (free : id ≠ 0 → ¬ store.IsHeld id) : store'.IsConsistent := by
  intro chargingStation mem
  rw [same.chargingStations] at mem
  refine (consistent chargingStation mem).of_find fun connector hconnector notZero => ?_
  refine same.others _ ?_
  rintro rfl
  exact free notZero ⟨chargingStation, mem, connector, hconnector, rfl⟩

end Store

/-! ## The start of a transaction -/

namespace OCPPService

/-- The connector that a transaction starts on is there. -/
theorem connector_of_checkStartTransaction {context : StartContext} {headers : OCPPHeader}
    {startTransaction : OCPPStartTransactionRequest} {store : Store}
    {chargingStation : ChargingStation} {newTransaction : Transaction}
    (h : checkStartTransaction context headers startTransaction store =
      .ok (chargingStation, newTransaction)) :
    ∃ connector ∈ chargingStation.connectors,
      connector.connectorId = startTransaction.connectorId := by
  have station := chargingStation_of_checkStartTransaction h
  unfold checkStartTransaction at h
  rw [station] at h
  obtain ⟨validated, hvalid, -⟩ := Outcome.bind_eq_ok.mp h
  obtain ⟨_, -, hvalid⟩ := Outcome.bind_eq_ok.mp hvalid
  dsimp only at hvalid
  split at hvalid
  · cases hvalid
  · rename_i connector found
    exact ⟨connector, Utils.getConnectorFromID_eq_some found⟩

/-- The condition on a start: once the clean-up has deleted a transaction that a connector
carries, the new one takes its place. -/
def ReplacesDeleted (context : StartContext) (headers : OCPPHeader)
    (startTransaction : OCPPStartTransactionRequest) (store : Store) : Prop :=
  ∀ chargingStation newTransaction cleanedUp between activeTransaction,
    checkStartTransaction context headers startTransaction store =
      .ok (chargingStation, newTransaction) →
    processExistingTransaction context.stopContext startTransaction.connectorId 2 none
      chargingStation store = (.ok (some cleanedUp), between) →
    TransactionStorage.getActiveTransaction store chargingStation.id startTransaction.connectorId =
      some activeTransaction →
    between.transactions.find activeTransaction.id = none → store.IsHeld activeTransaction.id →
    (∃ started, startTransactionWith context cleanedUp newTransaction = .ok started) ∧
      context.stopContext.database .saveTransaction = .ok () ∧
      context.stopContext.database .saveChargingStation = .ok ()

section Start

variable {context : StartContext} {headers : OCPPHeader}
variable {startTransaction : OCPPStartTransactionRequest} {store between : Store}
variable {chargingStation cleanedUp : ChargingStation} {newTransaction : Transaction}

/-- Where the transaction runs that the clean-up may delete. -/
theorem isActiveOn_of_getActiveTransaction {chargeBoxID : String} {connectorId : ℕ}
    {activeTransaction : Transaction}
    (h : TransactionStorage.getActiveTransaction store chargeBoxID connectorId =
      some activeTransaction) :
    activeTransaction.chargeBoxID = chargeBoxID ∧ activeTransaction.connectorId = connectorId ∧
      store.transactions.find activeTransaction.id = some activeTransaction := by
  have only := getActiveTransaction_eq_some_iff.mp h
  have mem : activeTransaction ∈ store.activeTransactions chargeBoxID connectorId := by
    rw [only]
    exact List.mem_singleton_self _
  obtain ⟨stored, active⟩ := mem_activeTransactions.mp mem
  rw [Transaction.isActiveOn, Bool.and_eq_true, Bool.and_eq_true, decide_eq_true_eq,
    decide_eq_true_eq] at active
  exact ⟨active.1.1, active.1.2, Collection.find_of_mem stored⟩

/-- A connector at another place carries another transaction than the one that the clean-up
deletes. -/
theorem find_of_cleanUp
    (hclean : processExistingTransaction context.stopContext startTransaction.connectorId 2 none
      chargingStation store = (.ok (some cleanedUp), between))
    {chargeBoxID : String} {connector : Connector}
    (carries : connector.CarriesRunning store.transactions chargeBoxID)
    (notZero : connector.currentTransactionID ≠ 0)
    (elsewhere : chargeBoxID ≠ chargingStation.id ∨
      connector.connectorId ≠ startTransaction.connectorId) :
    between.transactions.find connector.currentTransactionID =
      store.transactions.find connector.currentTransactionID := by
  rcases processExistingTransaction_ok hclean with ⟨-, rfl⟩ | ⟨active, hactive, -, -, rfl⟩
  · rfl
  · change (store.transactions.delete active.id).find _ = _
    rw [Collection.find_delete, if_neg]
    intro same
    obtain ⟨chargeBox, connectorId, found⟩ := isActiveOn_of_getActiveTransaction hactive
    rw [← same] at found
    obtain ⟨place, place', -⟩ := carries.isActiveOn found notZero
    rcases elsewhere with other | other
    · exact other (place.symm.trans chargeBox)
    · exact other (place'.symm.trans connectorId)

/-- What the connectors carry is known, so it is not the new transaction. -/
theorem find_of_start (hclean : processExistingTransaction context.stopContext
      startTransaction.connectorId 2 none chargingStation store = (.ok (some cleanedUp), between))
    {started : Transaction} (new : store.transactions.find started.id = none)
    {chargeBoxID : String} {connector : Connector}
    (carries : connector.CarriesRunning store.transactions chargeBoxID)
    (notZero : connector.currentTransactionID ≠ 0)
    (elsewhere : chargeBoxID ≠ chargingStation.id ∨
      connector.connectorId ≠ startTransaction.connectorId) :
    (between.transactions.save (TransactionStorage.transactionMDB started)).find
        connector.currentTransactionID =
      store.transactions.find connector.currentTransactionID := by
  rw [Collection.find_save_of_ne, find_of_cleanUp hclean carries notZero elsewhere]
  rw [TransactionStorage.id_transactionMDB]
  intro same
  obtain ⟨_, found, -⟩ := carries notZero
  rw [same, new] at found
  cases found

end Start

end OCPPService

open OCPPService

/-- A start that gets to its end has its transaction carried by its connector. -/
theorem Store.IsConsistent.started {store between : Store} (consistent : store.IsConsistent)
    {context : StartContext} {headers : OCPPHeader}
    {startTransaction : OCPPStartTransactionRequest} {chargingStation cleanedUp : ChargingStation}
    {newTransaction started : Transaction}
    (station : headers.chargingStation = store.chargingStations.find headers.chargeBoxIdentity)
    (hcheck : checkStartTransaction context headers startTransaction store =
      .ok (chargingStation, newTransaction))
    (hclean : processExistingTransaction context.stopContext startTransaction.connectorId 2 none
      chargingStation store = (.ok (some cleanedUp), between))
    (hstart : startTransactionWith context cleanedUp newTransaction = .ok started) :
    IsConsistent ⟨between.chargingStations.save
        (updateChargingStationConnectorWithTransaction started cleanedUp),
      between.transactions.save (TransactionStorage.transactionMDB started),
      between.consumptions⟩ := by
  have hstation := chargingStation_of_checkStartTransaction hcheck
  obtain ⟨-, box, connectorID, running, new⟩ := checkStartTransaction_ok hstation hcheck
  obtain ⟨consistentStation, -⟩ := consistent.station (station.symm.trans hstation)
  obtain ⟨there, hthere, sameID⟩ := connector_of_checkStartTransaction hcheck
  have same := startTransactionWith_ok hstart
  rw [← same.id] at new
  -- The clean-up leaves the station as it is, up to its connector.
  obtain ⟨stations, cleanedID, cleanedBackup, cleaned⟩ :
      between.chargingStations = store.chargingStations ∧ cleanedUp.id = chargingStation.id ∧
        cleanedUp.backupConnectors = chargingStation.backupConnectors ∧
        cleanedUp.IsConsistent store.transactions := by
    rcases processExistingTransaction_ok hclean with ⟨rfl, rfl⟩ | ⟨active, -, -, rfl, rfl⟩
    · exact ⟨rfl, rfl, rfl, consistentStation⟩
    · exact ⟨rfl, rfl, rfl, consistentStation.clear _⟩
  rw [stations]
  refine isConsistent_save ?_ ?_
  · intro other mem ne
    have ne : other.id ≠ chargingStation.id := fun same => ne (same.trans cleanedID.symm)
    exact (consistent other mem).of_find fun connector hconnector notZero =>
      find_of_start hclean new ((consistent other mem).carries connector hconnector) notZero
        (.inl ne)
  · have kept {connector : Connector} (mem : connector ∈ cleanedUp.allConnectors)
        (ne : connector.connectorId ≠ startTransaction.connectorId) :
        connector.CarriesRunning
          (between.transactions.save (TransactionStorage.transactionMDB started))
          cleanedUp.id := by
      intro notZero
      have carries := cleaned.carries connector mem
      exact carries.of_find (find_of_start hclean new carries notZero (.inr ne)) notZero
    have sameConnector : started.connectorId = startTransaction.connectorId :=
      same.connectorId.trans connectorID
    refine cleaned.updateConnector (fun _ same => same) ?_ ?_ ?_
    · intro connector _ here _
      refine ⟨TransactionStorage.transactionMDB started, ?_, ?_⟩
      · rw [show (_ : Connector).currentTransactionID = started.id from rfl,
          ← TransactionStorage.id_transactionMDB]
        exact Collection.find_save_self
      · rw [isActiveOn_transactionMDB, Transaction.isActiveOn, same.chargeBoxID, box, same.stop,
          running, cleanedID]
        simp [OCPPUtils.clearRuntimeData, here]
    · intro connector mem ne
      exact kept (List.mem_append_left _ mem) (sameConnector ▸ ne)
    · intro connector mem
      refine kept (List.mem_append_right _ mem) ?_
      rw [← sameID]
      exact consistentStation.ne_of_mem_backup hthere (cleanedBackup ▸ mem)

/-- **A start** leaves the connectors consistent under its condition. -/
theorem Store.IsConsistent.start {store : Store} (consistent : store.IsConsistent)
    {context : StartContext} {headers : OCPPHeader}
    {startTransaction : OCPPStartTransactionRequest}
    (station : headers.chargingStation = store.chargingStations.find headers.chargeBoxIdentity)
    (replaces : ReplacesDeleted context headers startTransaction store) :
    (handleStartTransaction context 2 headers startTransaction store).2.IsConsistent := by
  have outcome := startOutcome context 0 headers startTransaction store
  generalize (handleStartTransaction context (0 + 2) headers startTransaction store).2 =
    store' at outcome
  -- A start that does not get to its end has deleted nothing that a connector carries.
  have cutOff {chargingStation cleanedUp : ChargingStation} {newTransaction : Transaction}
      {between : Store}
      (hcheck : checkStartTransaction context headers startTransaction store =
        .ok (chargingStation, newTransaction))
      (hclean : processExistingTransaction context.stopContext startTransaction.connectorId
        (0 + 2) none chargingStation store = (.ok (some cleanedUp), between))
      (failed : ¬ ((∃ started, startTransactionWith context cleanedUp newTransaction = .ok started) ∧
        context.stopContext.database .saveTransaction = .ok () ∧
        context.stopContext.database .saveChargingStation = .ok ())) :
      between.chargingStations = store.chargingStations ∧
        ∀ id, store.IsHeld id → between.transactions.find id = store.transactions.find id := by
    rcases processExistingTransaction_ok hclean with ⟨-, rfl⟩ | ⟨active, hactive, -, -, rfl⟩
    · exact ⟨rfl, fun _ _ => rfl⟩
    · refine ⟨rfl, fun id held => ?_⟩
      change (store.transactions.delete active.id).find id = _
      rw [Collection.find_delete, if_neg]
      rintro rfl
      refine failed (replaces _ _ _ _ active hcheck hclean hactive ?_ held)
      change (store.transactions.delete active.id).find _ = _
      rw [Collection.find_delete, if_pos rfl]
  have newID {chargingStation cleanedUp : ChargingStation} {newTransaction started : Transaction}
      (hcheck : checkStartTransaction context headers startTransaction store =
        .ok (chargingStation, newTransaction))
      (hstart : startTransactionWith context cleanedUp newTransaction = .ok started) :
      store.transactions.find started.id = none := by
    rw [(startTransactionWith_ok hstart).id]
    exact (checkStartTransaction_ok (chargingStation_of_checkStartTransaction hcheck)
      hcheck).2.2.2.2
  cases outcome with
  | rejected => exact consistent
  | @cleanedUp chargingStation cleanedUp newTransaction _ hcheck hclean unsaved =>
      obtain ⟨stations, same⟩ := cutOff hcheck hclean fun ⟨⟨started, hstart⟩, saves, _⟩ =>
        unsaved started hstart saves
      have kept : IsConsistent ⟨store.chargingStations, store'.transactions, store'.consumptions⟩ :=
        consistent.of_find fun id held _ => same id held
      rw [← stations] at kept
      exact kept
  | @saved chargingStation cleanedUp newTransaction started between hcheck hclean hstart _
      unsaved =>
      obtain ⟨stations, same⟩ := cutOff hcheck hclean fun ⟨_, _, saves⟩ => unsaved saves
      have kept : IsConsistent ⟨store.chargingStations, between.transactions.save
          (TransactionStorage.transactionMDB started), between.consumptions⟩ := by
        refine consistent.of_find fun id held notZero => ?_
        rw [Collection.find_save_of_ne, same id held]
        rw [TransactionStorage.id_transactionMDB]
        rintro rfl
        obtain ⟨_, mem, connector, hconnector, held⟩ := held
        obtain ⟨_, found, -⟩ := (consistent _ mem).carries connector hconnector (held ▸ notZero)
        rw [held, newID hcheck hstart] at found
        cases found
      rw [← stations] at kept
      exact kept
  | started hcheck hclean hstart => exact consistent.started station hcheck hclean hstart

/-! ## A request with meter values -/

/-- The transaction of a request runs on the connector that carries it. -/
theorem Store.IsConsistent.isActiveOn_of_check {store : Store} (consistent : store.IsConsistent)
    {headers : OCPPHeader} {meterValues : OCPPMeterValuesRequest} {attempt : MeterValuesAttempt}
    (station : headers.chargingStation = store.chargingStations.find headers.chargeBoxIdentity)
    (hcheck : checkMeterValues headers meterValues store = .ok (some attempt)) :
    ∃ connector ∈ attempt.chargingStation.connectors,
      connector.currentTransactionID = attempt.transaction.id ∧
      attempt.transaction.chargeBoxID = attempt.chargingStation.id ∧
      attempt.transaction.connectorId = connector.connectorId ∧
      attempt.transaction.stop = none := by
  obtain ⟨hstation, named, notZero, found, -⟩ := checkMeterValues_ok hcheck
  obtain ⟨stationConsistent, -⟩ := consistent.station (station.symm.trans hstation)
  unfold OCPPValidation.validateMeterValues at named
  dsimp only at named
  generalize (if meterValues.connectorId = 0 then 1 else meterValues.connectorId) = connectorId
    at named
  -- The transaction is that of the connector, whatever the request names.
  have carried : ((Utils.getConnectorFromID attempt.chargingStation connectorId).map
      (·.currentTransactionID)).getD 0 = attempt.transaction.id := by
    split at named
    · exact Option.some.inj named
    · split at named
      · exact Option.some.inj named
      · cases named
  cases hconnector : Utils.getConnectorFromID attempt.chargingStation connectorId with
  | none =>
      rw [hconnector] at carried
      exact absurd carried.symm notZero
  | some connector =>
      rw [hconnector] at carried
      have sameID : connector.currentTransactionID = attempt.transaction.id := carried
      obtain ⟨mem, -⟩ := Utils.getConnectorFromID_eq_some hconnector
      have carries := stationConsistent.carries connector (List.mem_append_left _ mem)
      obtain ⟨place, place', running⟩ :=
        carries.isActiveOn (sameID ▸ found) (sameID ▸ notZero)
      exact ⟨connector, mem, sameID, place, place', running⟩

/-- **A request with meter values** leaves the connectors consistent. -/
theorem Store.IsConsistent.meterValues {store : Store} (consistent : store.IsConsistent)
    {context : MeterValuesHandlerContext} {headers : OCPPHeader}
    {meterValues : OCPPMeterValuesRequest}
    (station : headers.chargingStation = store.chargingStations.find headers.chargeBoxIdentity) :
    (handleMeterValuesRequest context headers meterValues store).2.IsConsistent := by
  have outcome := meterValuesOutcome context headers meterValues store
  generalize (handleMeterValuesRequest context headers meterValues store).2 = store' at outcome
  have loopKeeps {attempt : MeterValuesAttempt} {transaction : Transaction}
      {consumptions : List Consumption} {loop : Except String Transaction} {between : Store}
      (hloop : saveConsumptions context attempt.chargingStation consumptions transaction store =
        (loop, between)) :
      between.transactions = store.transactions ∧
        between.chargingStations = store.chargingStations := by
    have changes := changes_saveConsumptions context attempt.chargingStation consumptions
      transaction store
    rw [hloop] at changes
    exact changes
  cases outcome with
  | rejected => exact consistent
  | cutOff _ _ hloop _ =>
      obtain ⟨transactions, chargingStations⟩ := loopKeeps hloop
      intro chargingStation mem
      rw [chargingStations] at mem
      rw [transactions]
      exact consistent chargingStation mem
  | @saved attempt transaction transaction' consumptions between chargingStations hcheck hprepared
      hloop hstations =>
      obtain ⟨transactions, stations⟩ := loopKeeps hloop
      rw [stations] at hstations
      rw [transactions]
      obtain ⟨carrier, hcarrier, carried, place, place', running⟩ :=
        consistent.isActiveOn_of_check station hcheck
      obtain ⟨hstation, -, notZero, found, -⟩ := checkMeterValues_ok hcheck
      obtain ⟨stationConsistent, -⟩ := consistent.station (station.symm.trans hstation)
      have same := (sameSession_prepareConsumptions hprepared).trans
        (sameSession_saveConsumptions hloop)
      have stays : Transaction.StaysActive (TransactionStorage.transactionMDB transaction')
          store.transactions := by
        intro stored hstored chargeBoxID connectorId active
        rw [TransactionStorage.id_transactionMDB, same.id, found] at hstored
        cases hstored
        rw [isActiveOn_transactionMDB]
        unfold Transaction.isActiveOn at active ⊢
        rw [same.chargeBoxID, same.connectorId, same.stop]
        exact active
      rcases hstations with rfl | rfl
      · intro chargingStation mem
        exact (consistent chargingStation mem).saveTransaction stays
      · refine isConsistent_save
          (fun other mem _ => (consistent other mem).saveTransaction stays) ?_
        have kept := stationConsistent.saveTransaction stays
        unfold updateChargingStationWithTransaction
        rw [if_pos (by rw [same.stop, running]; rfl)]
        refine kept.updateConnector (fun _ same => same) ?_
          (fun connector mem _ => kept.carries connector (List.mem_append_left _ mem))
          fun connector mem => kept.carries connector (List.mem_append_right _ mem)
        intro connector _ here _
        refine ⟨TransactionStorage.transactionMDB transaction', ?_, ?_⟩
        · rw [show (_ : Connector).currentTransactionID = transaction'.id from rfl,
            ← TransactionStorage.id_transactionMDB]
          exact Collection.find_save_self
        · rw [isActiveOn_transactionMDB, Transaction.isActiveOn, same.chargeBoxID, place,
            same.stop, running]
          simp [here]

end EvServer
