import EvServer.Ocpp.SoftStop

/-!
# Soft stops and deletions by a user (`TransactionService`)

Both read the transaction without its charging station.  A deletion frees the connector of
a running transaction on the station that comes with the transaction, and so never does; a
soft stop reads the station on its own.
-/

namespace EvServer

namespace TransactionStorage

/-- `TransactionStorage.getTransaction`, with its charging station when that is asked for. -/
def getTransaction (store : Store) (id : ℕ) (withChargingStation : Bool) :
    Option (Transaction × Option ChargingStation) :=
  (store.transactions.find id).map fun transaction =>
    (transaction,
      if withChargingStation then store.chargingStations.find transaction.chargeBoxID else none)

/-- `TransactionStorage.deleteTransactions`, with the consumptions of the transactions. -/
def deleteTransactions (database : Database) (transactionsIDs : List ℕ) : StoreHandler Unit :=
  Handler.write (database .deleteTransaction) fun store =>
    { store with
      transactions := store.transactions.deleteMany fun id => id ∈ transactionsIDs
      consumptions := store.consumptions.deleteMany fun key => key.1 ∈ transactionsIDs }

end TransactionStorage

/-- `ChargingStationStorage.saveChargingStationConnectors`. -/
def ChargingStationStorage.saveChargingStationConnectors (database : Database)
    (chargingStation : ChargingStation) : StoreHandler Unit :=
  Handler.write (database .saveChargingStation) fun store =>
    { store with
      chargingStations := store.chargingStations.save
        { (store.chargingStations.find chargingStation.id).getD { id := chargingStation.id } with
          id := chargingStation.id
          connectors := chargingStation.connectors } }

/-- The answers of the other components to a request of a user. -/
structure TransactionServiceContext where
  stopContext : StopContext
  /-- `Authorizations.canUpdateTransaction`. -/
  canUpdateTransaction : Transaction → Bool := fun _ => true
  /-- The charging station has not been seen for a while. -/
  inactive : ChargingStation → Bool := fun _ => false
  /-- The organization component is active. -/
  organization : Bool := false
  /-- The charging station has a site area. -/
  siteArea : ChargingStation → Bool := fun _ => true
  /-- `canBeDeleted` of the refund connector, when there is one. -/
  refundConnector : Option (Transaction → Bool) := none

/-- `ActionsResponse`. -/
structure ActionsResponse where
  inSuccess : ℕ := 0
  inError : ℕ := 0
  deriving DecidableEq, Repr

namespace TransactionService

/-! ## Deletions -/

/-- The transaction is neither refunded nor billed. -/
def canBeDeleted (context : TransactionServiceContext) (transaction : Transaction) : Bool :=
  (context.refundConnector.all fun canBeDeleted => canBeDeleted transaction) &&
    !(context.stopContext.billingImpl.isSome &&
      (transaction.billingData.bind TransactionBillingData.stop).any (·.status = .billed))

/-- Free the connector of a transaction in progress, if it comes with its station. -/
def freeConnector (context : TransactionServiceContext) (transaction : Transaction) :
    Option ChargingStation → StoreHandler Unit
  | none => return ()
  | some chargeBox =>
      match Utils.getConnectorFromID chargeBox transaction.connectorId with
      | some foundConnector =>
          if transaction.id = foundConnector.currentTransactionID then
            ChargingStationStorage.saveChargingStationConnectors context.stopContext.database
              (OCPPUtils.clearChargingStationConnectorRuntimeData chargeBox
                transaction.connectorId)
          else return ()
      | none => return ()

/-- One turn of the loop: whether the transaction is to be deleted. -/
def checkTransactionToDelete (context : TransactionServiceContext) (transactionID : ℕ) :
    StoreHandler Bool := do
  let found ← Handler.read fun store =>
    .ok (TransactionStorage.getTransaction store transactionID false)
  match found with
  -- Not Found
  | none => return false
  | some (transaction, chargeBox) =>
      -- Already Refunded, or Billed
      if canBeDeleted context transaction = false then return false
      -- Transaction in progress
      else if transaction.stop.isNone then do
        freeConnector context transaction chargeBox
        return true
      else return true

/-- `deleteTransactions`; the deletion only counts what is there. -/
def deleteTransactions (context : TransactionServiceContext) (transactionsIDs : List ℕ) :
    StoreHandler ActionsResponse := do
  let transactionsIDsToDelete ← transactionsIDs.foldlM (fun toDelete transactionID => do
    let delete ← checkTransactionToDelete context transactionID
    return if delete then toDelete ++ [transactionID] else toDelete) []
  let deleted ← Handler.read fun store =>
    .ok (store.transactions.docs.filter fun transaction =>
      transaction.id ∈ transactionsIDsToDelete).length
  TransactionStorage.deleteTransactions context.stopContext.database transactionsIDsToDelete
  return {
    inSuccess := deleted
    inError := transactionsIDs.length - transactionsIDsToDelete.length }

/-! ## Soft stops -/

/-- The `StopTransaction` that a soft stop makes the station send. -/
def nestedStop (context : StopContext) (transaction : Transaction)
    (chargingStation : ChargingStation) : StoreHandler OCPPAuthorizationStatus := fun store =>
  let (status, store) := OCPPService.handleStopTransaction context
    (OCPPService.softStopHeader transaction (some chargingStation))
    (OCPPService.softStopRequest transaction) true false store
  (.ok status, store)

/-- `OCPPService.softStopTransaction`. -/
def softStopTransaction (context : TransactionServiceContext) (transaction : Transaction)
    (chargeBox : Option ChargingStation) (chargingStation : ChargingStation) :
    StoreHandler Bool := do
  if OCPPService.canSoftStop (some chargingStation) context.organization
      (context.siteArea chargingStation) then do
    let status ← nestedStop context.stopContext transaction chargingStation
    if status = .accepted then return true
    else do
      let transaction ← Handler.ofExcept
        (OCPPService.stopCopy context.stopContext transaction chargeBox)
      TransactionStorage.saveTransaction context.stopContext.database transaction
      return true
  else return false

/-- The transaction, its station and its connector. -/
def checkTransactionSoftStop (context : TransactionServiceContext) (transactionId : ℕ)
    (store : Store) :
    Except String ((Transaction × Option ChargingStation) × ChargingStation × Connector) :=
  match TransactionStorage.getTransaction store transactionId false with
  | none => .error s!"Transaction ID {transactionId} does not exist"
  | some (transaction, chargeBox) =>
      if context.canUpdateTransaction transaction = false then .error "FORBIDDEN"
      else
        match store.chargingStations.find transaction.chargeBoxID with
        | none => .error s!"Charging Station ID '{transaction.chargeBoxID}' does not exist"
        | some chargingStation =>
            match Utils.getConnectorFromID chargingStation transaction.connectorId with
            | none => .error "The Connector ID has not been found"
            | some connector => .ok ((transaction, chargeBox), chargingStation, connector)

/-- `handleTransactionSoftStop`. -/
def handleTransactionSoftStop (context : TransactionServiceContext) (transactionId : ℕ) :
    StoreHandler Unit := do
  let ((transaction, chargeBox), chargingStation, connector) ← Handler.read
    (checkTransactionSoftStop context transactionId)
  -- Check if already stopped
  if transaction.stop.isSome then
    -- Clear Connector
    if connector.currentTransactionID = transaction.id then
      ChargingStationStorage.saveChargingStationConnectors context.stopContext.database
        (OCPPUtils.clearChargingStationConnectorRuntimeData chargingStation
          transaction.connectorId)
    else return ()
  -- Transaction is still ongoing
  else if context.inactive chargingStation = false ∧
      connector.currentTransactionID = transaction.id then
    Handler.ofExcept (.error "Cannot soft stop an ongoing Transaction")
  else do
    let success ← softStopTransaction context transaction chargeBox chargingStation
    if success then return ()
    else Handler.ofExcept (.error "Transaction cannot be stopped")

end TransactionService

end EvServer
