import EvServer.Ocpp.StopHandler

/-!
# The handler of `StartTransaction` (`OCPPService.handleStartTransaction`)

Before a transaction starts, the handler cleans up what earlier ones have left on the
connector: a transaction without consumption is deleted, and another one is stopped, as
if the station had sent a `StopTransaction`.  The clean-up reads the store again after
each transaction, until there is none or it meets the same one twice; the model gives it
fuel, and it says `none` when it has run out.
-/

namespace EvServer

/-- The user that a transaction is started for. -/
structure StartUser where
  id : String
  issuer : Bool
  deriving DecidableEq, Repr

/-- The answers of the other components while a transaction is started. -/
structure StartContext where
  stopContext : StopContext
  /-- The check against the schema. -/
  startTransactionRequest : OCPPStartTransactionRequest → Except String Unit := fun _ => .ok ()
  getTimezone : ChargingStation → Option String := fun _ => none
  /-- The organization component is active. -/
  organization : Bool := false
  /-- What `getRandomIntSafe` returns one time after the other. -/
  randomIDs : List ℕ
  /-- `Authorizations.isAuthorizedToStartTransaction`. -/
  isAuthorizedToStartTransaction :
    ChargingStation → String → Transaction → Except String (Option StartUser)
  /-- The state of charge that `processTransactionCar` finds out. -/
  getCurrentSoc : Transaction → Except String (Option ℚ) := fun _ => .ok none

namespace OCPPValidation

/-- `OCPPValidation.validateStartTransaction`. -/
def validateStartTransaction (context : StartContext) (chargingStation : ChargingStation)
    (startTransaction : OCPPStartTransactionRequest) :
    Except String OCPPStartTransactionRequest := do
  let startTransaction := { startTransaction with idTag := cleanUpTagID startTransaction.idTag }
  context.startTransactionRequest startTransaction
  -- Check Connector ID
  match Utils.getConnectorFromID chargingStation startTransaction.connectorId with
  | none => throw s!"The Connector ID '{startTransaction.connectorId}' is invalid"
  | some _ => return startTransaction

end OCPPValidation

/-- A transaction of the connector that has not been stopped. -/
def Transaction.isActiveOn (chargeBoxID : String) (connectorId : ℕ) (transaction : Transaction) :
    Bool :=
  transaction.chargeBoxID = chargeBoxID && transaction.connectorId = connectorId &&
    transaction.stop.isNone

/-- The transactions of a connector that have not been stopped. -/
def Store.activeTransactions (store : Store) (chargeBoxID : String) (connectorId : ℕ) :
    List Transaction :=
  store.transactions.docs.filter (Transaction.isActiveOn chargeBoxID connectorId)

namespace TransactionStorage

/-- `TransactionStorage.getActiveTransaction`: nothing unless there is exactly one. -/
def getActiveTransaction (store : Store) (chargeBoxID : String) (connectorId : ℕ) :
    Option Transaction :=
  match store.activeTransactions chargeBoxID connectorId with
  | [transaction] => some transaction
  | _ => none

/-- `TransactionStorage.findAvailableID`: the first of the random numbers that is no ID. -/
def findAvailableID (randomIDs : List ℕ) (store : Store) : Except String ℕ :=
  match randomIDs.find? fun id => (store.transactions.find id).isNone with
  | none => .error "no ID is available yet"
  | some id => .ok id

end TransactionStorage

namespace OCPPUtils

/-- `OCPPUtils.createFirstConsumption`. -/
def createFirstConsumption (context : MeteringContext) (chargingStation : ChargingStation)
    (transaction : Transaction) : Except String (Transaction × Consumption) :=
  createConsumptionFromMeterValue context chargingStation transaction
    (some ⟨transaction.meterStart, transaction.timestamp⟩)
    { timestamp := transaction.timestamp
      value := .raw transaction.meterStart
      attributes := some Constants.ocppEnergyActiveImportRegisterAttribute }

end OCPPUtils

namespace OCPPService

/-- `enrichStartTransaction`. -/
def enrichStartTransaction (context : StartContext)
    (startTransaction : OCPPStartTransactionRequest) (chargingStation : ChargingStation) :
    OCPPStartTransactionRequest :=
  let startTransaction :=
    { startTransaction with
      chargeBoxID := chargingStation.id
      timezone := context.getTimezone chargingStation }
  if context.organization then
    { startTransaction with
      companyID := chargingStation.companyID
      siteID := chargingStation.siteID
      siteAreaID := chargingStation.siteAreaID }
  else startTransaction

/-- The part of `handleStartTransaction` that creates the transaction and checks the user. -/
def checkStartTransaction (context : StartContext) (headers : OCPPHeader)
    (startTransaction : OCPPStartTransactionRequest) (store : Store) :
    Except String (ChargingStation × Transaction) :=
  match headers.chargingStation with
  | none => .error "TypeError: Cannot read properties of undefined (reading 'connectors')"
  | some chargingStation => do
      let startTransaction ←
        OCPPValidation.validateStartTransaction context chargingStation startTransaction
      let startTransaction := enrichStartTransaction context startTransaction chargingStation
      let id ← TransactionStorage.findAvailableID context.randomIDs store
      let newTransaction := createTransaction id startTransaction
      let user ← context.isAuthorizedToStartTransaction chargingStation startTransaction.idTag
        newTransaction
      match user with
      | none => return (chargingStation, newTransaction)
      | some user =>
          return (chargingStation,
            { newTransaction with userID := some user.id, userIssuer := some user.issuer })

/-- The header that `processExistingTransaction` builds for a stop. -/
def existingTransactionHeader (activeTransaction : Transaction) : OCPPHeader :=
  { chargeBoxIdentity := activeTransaction.chargeBoxID }

/-- The request that `processExistingTransaction` builds for a stop. -/
def existingTransactionRequest (activeTransaction : Transaction) : OCPPStopTransactionRequest :=
  let lastConsumption := activeTransaction.lastConsumption.getD
    ⟨activeTransaction.meterStart, activeTransaction.timestamp⟩
  { chargeBoxID := activeTransaction.chargeBoxID
    transactionId := activeTransaction.id
    meterStop := lastConsumption.value
    timestamp := lastConsumption.timestamp }

/-- Simulate a `StopTransaction`; the answer is only logged. -/
def simulateStopTransaction (context : StopContext) (activeTransaction : Transaction) :
    StoreHandler Unit := fun store =>
  (.ok (),
    (handleStopTransaction context (existingTransactionHeader activeTransaction)
      (existingTransactionRequest activeTransaction) false true store).2)

/-- The loop of `processExistingTransaction`. -/
def processExistingTransaction (context : StopContext) (connectorId : ℕ) :
    ℕ → Option ℕ → ChargingStation → StoreHandler (Option ChargingStation)
  | 0, _, _ => return none
  | fuel + 1, lastCheckedTransactionID, chargingStation => do
      -- Check if the charging station has already a transaction
      let activeTransaction ← Handler.read fun store =>
        .ok (TransactionStorage.getActiveTransaction store chargingStation.id connectorId)
      match activeTransaction with
      | none => return some chargingStation
      | some activeTransaction =>
          -- Avoid infinite Loop
          if lastCheckedTransactionID = some activeTransaction.id then
            return some chargingStation
          else if activeTransaction.currentTotalConsumptionWh ≤ 0 then do
            -- No consumption: delete
            TransactionStorage.deleteTransaction context.database activeTransaction.id
            let chargingStation := OCPPUtils.clearChargingStationConnectorRuntimeData
              chargingStation activeTransaction.connectorId
            processExistingTransaction context connectorId fuel (some activeTransaction.id)
              chargingStation
          else do
            simulateStopTransaction context activeTransaction
            processExistingTransaction context connectorId fuel (some activeTransaction.id)
              chargingStation

/-- The new transaction with the state of charge of the car, its first price, and what the
billing and the roaming say. -/
def startTransactionWith (context : StartContext) (chargingStation : ChargingStation)
    (newTransaction : Transaction) : Except String Transaction := do
  let soc ← context.getCurrentSoc newTransaction
  let newTransaction :=
    { newTransaction with
      stateOfCharge := (soc.filter (· ≠ 0)).getD newTransaction.stateOfCharge }
  let (newTransaction, firstConsumption) ← OCPPUtils.createFirstConsumption
    context.stopContext.metering chargingStation newTransaction
  let (newTransaction, _) ← OCPPUtils.processTransactionPricing context.stopContext.pricingImpl
    newTransaction firstConsumption .start
  let (newTransaction, _) ← OCPPUtils.processTransactionBilling context.stopContext.billingImpl
    newTransaction .start
  OCPPUtils.processTransactionRoaming context.stopContext.accessControl
    context.stopContext.roaming newTransaction .start
  return newTransaction

/-- The steps of a start that gets to its end. -/
theorem startTransactionWith_steps {context : StartContext} {chargingStation : ChargingStation}
    {newTransaction started : Transaction}
    (h : startTransactionWith context chargingStation newTransaction = .ok started) :
    ∃ stateOfCharge created first priced firstPriced billed,
      OCPPUtils.createFirstConsumption context.stopContext.metering chargingStation
          { newTransaction with stateOfCharge := stateOfCharge } = .ok (created, first) ∧
        OCPPUtils.processTransactionPricing context.stopContext.pricingImpl created first .start =
          .ok (priced, firstPriced) ∧
        OCPPUtils.processTransactionBilling context.stopContext.billingImpl priced .start =
          .ok (started, billed) := by
  obtain ⟨soc, -, h⟩ := Outcome.bind_eq_ok.mp h
  obtain ⟨⟨created, first⟩, hfirst, h⟩ := Outcome.bind_eq_ok.mp h
  obtain ⟨⟨priced, firstPriced⟩, hpriced, h⟩ := Outcome.bind_eq_ok.mp h
  obtain ⟨⟨_, billed⟩, hbilled, h⟩ := Outcome.bind_eq_ok.mp h
  obtain ⟨_, -, h⟩ := Outcome.bind_eq_ok.mp h
  cases h
  exact ⟨_, created, first, priced, firstPriced, billed, hfirst, hpriced, hbilled⟩

/-- `updateChargingStationConnectorWithTransaction`. -/
def updateChargingStationConnectorWithTransaction (transaction : Transaction)
    (chargingStation : ChargingStation) : ChargingStation :=
  { chargingStation with
    connectors := OCPPUtils.updateConnector transaction.connectorId
      (fun connector =>
        { OCPPUtils.clearRuntimeData connector with
          currentTransactionID := transaction.id
          currentTransactionDate := some transaction.timestamp
          currentTagID := some transaction.tagID
          currentUserID := transaction.userID })
      chargingStation.connectors }

/-- `handleStartTransaction`: the ID of the transaction and the status. -/
def handleStartTransaction (context : StartContext) (fuel : ℕ) (headers : OCPPHeader)
    (startTransaction : OCPPStartTransactionRequest) :
    Store → (ℕ × OCPPAuthorizationStatus) × Store :=
  Handler.handle (do
      let (chargingStation, newTransaction) ← Handler.read
        (checkStartTransaction context headers startTransaction)
      -- Cleanup ongoing Transaction
      let cleanedUp ← processExistingTransaction context.stopContext
        startTransaction.connectorId fuel none chargingStation
      match cleanedUp with
      | none => Handler.ofExcept (.error "the clean-up has not ended")
      | some chargingStation => do
          let newTransaction ← Handler.ofExcept
            (startTransactionWith context chargingStation newTransaction)
          TransactionStorage.saveTransaction context.stopContext.database newTransaction
          let chargingStation :=
            updateChargingStationConnectorWithTransaction newTransaction chargingStation
          ChargingStationStorage.saveChargingStation context.stopContext.database chargingStation
          return (newTransaction.id, .accepted))
    fun _ => (0, .invalid)

end OCPPService

end EvServer
