import EvServer.Billing.TransactionBilling
import EvServer.Ocpp.Store

/-!
# The handler of `StopTransaction` (`OCPPService.handleStopTransaction`)

The handler checks the request, frees the connector, adds the last consumption and stops
the transaction.  It saves the charging station, the consumption and the transaction as
it goes along.  An exception only becomes the answer `INVALID`.

What it asks the components outside of the repository's transaction handling is the
`StopContext`.
-/

namespace EvServer

/-- `OCPPAuthorizationStatus`, of which the handlers answer with two. -/
inductive OCPPAuthorizationStatus
  | accepted
  | invalid
  deriving DecidableEq, Repr

/-- `OCPPHeader`; the charging station is set by whoever builds the header. -/
structure OCPPHeader where
  chargeBoxIdentity : String
  chargingStation : Option ChargingStation := none
  deriving DecidableEq, Repr

/-- The users that `checkAuthorizeStopTransactionAndGetUsers` returns, by their ID. -/
structure StopUsers where
  user : Option String := none
  alternateUser : Option String := none
  deriving DecidableEq, Repr

/-- The answers of the other components while a transaction is stopped. -/
structure StopContext where
  metering : MeteringContext := {}
  database : Database := fun _ => .ok ()
  /-- The check against the schema of the OCPP version of the charging station. -/
  stopTransactionRequest : ChargingStation → OCPPStopTransactionRequest → Except String Unit :=
    fun _ _ => .ok ()
  /-- `Authorizations.isAuthorizedToStopTransaction`. -/
  isAuthorizedToStopTransaction : ChargingStation → Transaction → String → Except String StopUsers
  /-- `UserStorage.getUserByTagID`. -/
  getUserByTagID : String → Except String (Option String)
  pricingImpl : Option PricingIntegration := none
  billingImpl : Option BillingIntegration := none
  /-- `siteArea?.accessControl`. -/
  accessControl : Bool := false
  /-- What the roaming components do with a transaction. -/
  roaming : Transaction → TransactionAction → Except String Unit := fun _ _ => .ok ()
  /-- `deleteAllTransactionTxProfile`, when smart charging is active. -/
  deleteAllTransactionTxProfile : Transaction → Except String Unit := fun _ => .ok ()

namespace OCPPValidation

/-- `OCPPValidation.cleanUpTagID`. -/
def cleanUpTagID (tagID : String) : String :=
  if tagID.toLower.endsWith ";null" then (tagID.dropEnd 5).toString else tagID

/-- `OCPPValidation.validateStopTransaction`.  Without a charging station its version
cannot be read. -/
def validateStopTransaction (context : StopContext) (chargingStation : Option ChargingStation)
    (stopTransaction : OCPPStopTransactionRequest) :
    Except String (ChargingStation × OCPPStopTransactionRequest) := do
  let stopTransaction := { stopTransaction with idTag := cleanUpTagID stopTransaction.idTag }
  match chargingStation with
  | none => throw "TypeError: Cannot read properties of undefined (reading 'ocppVersion')"
  | some chargingStation => do
      context.stopTransactionRequest chargingStation stopTransaction
      return (chargingStation, stopTransaction)

end OCPPValidation

namespace OCPPUtils

/-- The connector without the data of its session. -/
def clearRuntimeData (connector : Connector) : Connector :=
  { connector with
    currentInstantWatts := 0
    currentTotalConsumptionWh := 0
    currentTotalInactivitySecs := 0
    currentInactivityStatus := .info
    currentStateOfCharge := 0
    currentTransactionID := 0
    currentTransactionDate := none
    currentTagID := none
    currentUserID := none }

/-- Change the first connector with the ID. -/
def updateConnector (connectorID : ℕ) (f : Connector → Connector) :
    List Connector → List Connector
  | [] => []
  | connector :: rest =>
      if connector.connectorId = connectorID then f connector :: rest
      else connector :: updateConnector connectorID f rest

/-- The connector that is updated is looked up as it is afterwards, every other one as it
was. -/
theorem find?_updateConnector {f : Connector → Connector} {updated : ℕ}
    (keeps : ∀ connector, connector.connectorId = updated → (f connector).connectorId = updated)
    (connectorID : ℕ) (connectors : List Connector) :
    (updateConnector updated f connectors).find?
        (fun connector => connector.connectorId = connectorID) =
      (connectors.find? fun connector => connector.connectorId = connectorID).map
        (if connectorID = updated then f else id) := by
  induction connectors with
  | nil => rfl
  | cons connector rest ih =>
      rw [updateConnector]
      by_cases here : connector.connectorId = updated
      · have same := (keeps connector here).trans here.symm
        by_cases found : connector.connectorId = connectorID
        · rw [if_pos here, List.find?_cons_of_pos (by simpa [same] using found),
            List.find?_cons_of_pos (by simpa using found), if_pos (found.symm.trans here)]
          rfl
        · have other : connectorID ≠ updated := fun same => found (here.trans same.symm)
          rw [if_pos here, List.find?_cons_of_neg (by simpa [same] using found),
            List.find?_cons_of_neg (by simpa using found), if_neg other, Option.map_id, id]
      · by_cases found : connector.connectorId = connectorID
        · have other : connectorID ≠ updated := fun same => here (found.trans same)
          rw [if_neg here, List.find?_cons_of_pos (by simpa using found),
            List.find?_cons_of_pos (by simpa using found), if_neg other]
          rfl
        · rw [if_neg here, List.find?_cons_of_neg (by simpa using found),
            List.find?_cons_of_neg (by simpa using found), ih]

/-- `OCPPUtils.clearChargingStationConnectorRuntimeData`. -/
def clearChargingStationConnectorRuntimeData (chargingStation : ChargingStation)
    (connectorID : ℕ) : ChargingStation :=
  { chargingStation with
    connectors := updateConnector connectorID clearRuntimeData chargingStation.connectors }

/-- `OCPPUtils.processTransactionRoaming`: only the start and the stop of a transaction of
a roaming user fail with the roaming. -/
def processTransactionRoaming (accessControl : Bool)
    (roaming : Transaction → TransactionAction → Except String Unit)
    (transaction : Transaction) (transactionAction : TransactionAction) : Except String Unit :=
  if transaction.userIssuer = some false ∧ accessControl then
    match roaming transaction transactionAction with
    | .ok _ => .ok ()
    -- Cancel Start/Stop Transaction
    | .error error => if transactionAction ≠ .update then .error error else .ok ()
  else .ok ()

end OCPPUtils

/-- A request that has passed the checks of the handler. -/
structure StopAttempt where
  chargingStation : ChargingStation
  stopTransaction : OCPPStopTransactionRequest
  transaction : Transaction
  tagID : String
  users : StopUsers

namespace OCPPService

/-- `getStopTransactionTagId`. -/
def getStopTransactionTagId (now : Timestamp) (stopTransaction : OCPPStopTransactionRequest)
    (transaction : Transaction) : String :=
  let remotely := transaction.remotestop.filter fun remotestop =>
    -- In a minute
    Utils.durationSecs now remotestop.timestamp < 60
  match remotely with
  | some remotestop => remotestop.tagID
  | none => if stopTransaction.idTag ≠ "" then stopTransaction.idTag else transaction.tagID

/-- `getTransactionFromStopTransaction`. -/
def getTransactionFromStopTransaction (store : Store)
    (stopTransaction : OCPPStopTransactionRequest) : Except String Transaction :=
  match store.transactions.find stopTransaction.transactionId with
  | none => .error s!"Transaction with ID '{stopTransaction.transactionId}' doesn't exist"
  | some transaction => .ok transaction

/-- The users of a stop: whoever is authorized, or the owner of the tag when the central
system stops the transaction. -/
def getStopUsers (context : StopContext) (chargingStation : ChargingStation)
    (transaction : Transaction) (tagId : String) (isStoppedByCentralSystem : Bool) :
    Except String StopUsers :=
  if isStoppedByCentralSystem then
    (context.getUserByTagID tagId).map fun user => { user := user }
  else context.isAuthorizedToStopTransaction chargingStation transaction tagId

/-- `checkAuthorizeStopTransactionAndGetUsers`. -/
def checkAuthorizeStopTransactionAndGetUsers (context : StopContext)
    (chargingStation : ChargingStation) (transaction : Transaction) (tagId : String)
    (isStoppedByCentralSystem : Bool) : Except String StopUsers := do
  let users ← getStopUsers context chargingStation transaction tagId isStoppedByCentralSystem
  if transaction.stop.isSome then throw "Transaction has already been stopped" else return users

/-- The part of `handleStopTransaction` that only checks; `none` when the request is
bypassed. -/
def checkStopTransaction (context : StopContext) (headers : OCPPHeader)
    (stopTransaction : OCPPStopTransactionRequest) (isStoppedByCentralSystem : Bool)
    (store : Store) : Except String (Option StopAttempt) := do
  let (chargingStation, stopTransaction) ←
    OCPPValidation.validateStopTransaction context headers.chargingStation stopTransaction
  let stopTransaction := { stopTransaction with chargeBoxID := chargingStation.id }
  -- Bypass Stop Transaction?
  if stopTransaction.transactionId = 0 then return none
  let transaction ← getTransactionFromStopTransaction store stopTransaction
  let tagID := getStopTransactionTagId context.metering.now stopTransaction transaction
  let users ← checkAuthorizeStopTransactionAndGetUsers context chargingStation transaction tagID
    isStoppedByCentralSystem
  return some ⟨chargingStation, stopTransaction, transaction, tagID, users⟩

/-- `checkSoftStopTransaction`. -/
def checkSoftStopTransaction (transaction : Transaction)
    (stopTransaction : OCPPStopTransactionRequest) (isSoftStop : Bool) :
    OCPPStopTransactionRequest :=
  if isSoftStop then
    { stopTransaction with
      meterStop := (transaction.lastConsumption.map LastConsumption.value).getD 0 }
  else stopTransaction

/-- The update of the transaction with a consumption of the stop, and its pricing. -/
def applyStopConsumption (context : StopContext) (chargingStation : ChargingStation)
    (transaction : Transaction) (consumption : Consumption) :
    Except String (Transaction × Consumption) :=
  let transaction := OCPPUtils.updateTransactionWithConsumption context.metering.now
    chargingStation transaction consumption
  if consumption.toPrice = some true then
    OCPPUtils.processTransactionPricing context.pricingImpl transaction consumption .stop
  else .ok (transaction, consumption)

/-- The inactivity between `Transaction.End` and the stop. -/
def addStopInactivity (transaction : Transaction)
    (stopTransaction : OCPPStopTransactionRequest) : Transaction :=
  match transaction.lastConsumption with
  | none => transaction
  | some lastConsumption =>
      let inactivitySecs := Utils.durationSecs stopTransaction.timestamp lastConsumption.timestamp
      if 0 < inactivitySecs then
        { transaction with
          currentTotalInactivitySecs := transaction.currentTotalInactivitySecs + inactivitySecs
          currentTotalDurationSecs := transaction.currentTotalDurationSecs + inactivitySecs }
      else transaction

/-- `checkAndApplyLastConsumptionInStopTransaction`. -/
def checkAndApplyLastConsumptionInStopTransaction (context : StopContext)
    (chargingStation : ChargingStation) (transaction : Transaction)
    (stopTransaction : OCPPStopTransactionRequest) : StoreHandler Transaction :=
  if transaction.transactionEndReceived then
    return addStopInactivity transaction stopTransaction
  else do
    let stopMeterValues :=
      OCPPUtils.createTransactionStopMeterValues chargingStation transaction stopTransaction
    let (transaction, consumptions) ← Handler.ofExcept
      (OCPPUtils.createConsumptionsFromMeterValues context.metering chargingStation transaction
        stopMeterValues)
    consumptions.foldlM (fun transaction consumption => do
      let (transaction, consumption) ← Handler.ofExcept
        (applyStopConsumption context chargingStation transaction consumption)
      ConsumptionStorage.saveConsumption context.database consumption
      return transaction) transaction

/-- `checkAndUpdateTransactionWithSignedDataInStopTransaction`. -/
def checkAndUpdateTransactionWithSignedDataInStopTransaction (transaction : Transaction)
    (stopTransaction : OCPPStopTransactionRequest) : Transaction :=
  stopTransaction.transactionData.foldl (fun transaction sampledValue =>
    if sampledValue.format = some .signedData then
      match sampledValue.context with
      | some .transactionBegin => { transaction with signedData := sampledValue.value }
      | some .transactionEnd => { transaction with currentSignedData := some sampledValue.value }
      | _ => transaction
    else transaction) transaction

/-- The stopped transaction, after its billing. -/
def stopTransactionWith (context : StopContext) (attempt : StopAttempt)
    (stopTransaction : OCPPStopTransactionRequest) (chargingStation : ChargingStation)
    (isSoftStop : Bool) (transaction : Transaction) : Except String Transaction := do
  let transaction :=
    checkAndUpdateTransactionWithSignedDataInStopTransaction transaction stopTransaction
  let transaction := OCPPUtils.updateTransactionWithStopTransaction transaction chargingStation
    stopTransaction (attempt.users.alternateUser.or attempt.users.user) attempt.tagID isSoftStop
  let (transaction, _) ←
    OCPPUtils.processTransactionBilling context.billingImpl transaction .stop
  return transaction

/-- The part of `handleStopTransaction` that writes. -/
def applyStopTransaction (context : StopContext) (attempt : StopAttempt) (isSoftStop : Bool) :
    StoreHandler OCPPAuthorizationStatus := do
  -- Free the connector
  let chargingStation := OCPPUtils.clearChargingStationConnectorRuntimeData
    attempt.chargingStation attempt.transaction.connectorId
  ChargingStationStorage.saveChargingStation context.database chargingStation
  let stopTransaction :=
    checkSoftStopTransaction attempt.transaction attempt.stopTransaction isSoftStop
  let transaction ← checkAndApplyLastConsumptionInStopTransaction context chargingStation
    attempt.transaction stopTransaction
  let transaction ← Handler.ofExcept
    (stopTransactionWith context attempt stopTransaction chargingStation isSoftStop transaction)
  Handler.ofExcept (OCPPUtils.processTransactionRoaming context.accessControl context.roaming
    transaction .stop)
  TransactionStorage.saveTransaction context.database transaction
  Handler.ofExcept (context.deleteAllTransactionTxProfile transaction)
  return .accepted

/-- `handleStopTransaction`. -/
def handleStopTransaction (context : StopContext) (headers : OCPPHeader)
    (stopTransaction : OCPPStopTransactionRequest) (isSoftStop isStoppedByCentralSystem : Bool) :
    Store → OCPPAuthorizationStatus × Store :=
  Handler.handle (do
      let attempt ← Handler.read
        (checkStopTransaction context headers stopTransaction isStoppedByCentralSystem)
      match attempt with
      | none => return .accepted
      | some attempt => applyStopTransaction context attempt isSoftStop)
    fun _ => .invalid

end OCPPService

end EvServer
