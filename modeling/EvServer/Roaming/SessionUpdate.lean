import EvServer.Roaming.Session

/-!
# Updates of a session (`OCPIUtilsService.updateTransaction`)

Every update is compared with the transaction as the last one has left it: the energy with
`lastConsumption`, the cost with `price`.  The difference is saved as a consumption, and the
energy and the cost of the update take the place of the last ones.

A transaction is read without its charging station, so the inactivity is judged without one.
-/

namespace EvServer.Emsp

/-- What is stored of the session, and of the stations of the platform.  `updated` and `accepted`
are read by no code: the transaction as the last update has left it, with the runtime properties
that a stopped one is stored without, and the updates that have been taken into account. -/
structure SessionStore where
  transaction : Option Transaction := none
  consumptions : Consumptions := .empty
  chargingStations : ChargingStations
  updated : Option Transaction := none
  accepted : List OCPISession := []
  deriving DecidableEq

/-- What other components answer. -/
structure SessionContext where
  /-- The ID of the user of an `auth_id`. -/
  getUser : String → Option String
  findAvailableID : ℕ := 1
  now : Timestamp := 0

namespace OCPIUtilsService

/-- `getChargingStationByOcpiLocationEvseUid`. -/
def getChargingStationByOcpiLocationEvseUid (chargingStations : ChargingStations)
    (ocpiLocationID ocpiEvseUid : Option String) : Option ChargingStation :=
  match chargingStations.docs.filter fun chargingStation =>
      some chargingStation.locationID = ocpiLocationID ∧
        some chargingStation.evseUid = ocpiEvseUid with
  | [chargingStation] => some chargingStation
  | _ => none

/-- The connector of a new transaction: the last one with the ID of the EVSE's only connector. -/
def connectorIdOf (evse : OCPIEvse) (chargingStation : ChargingStation) : ℕ :=
  match evse.connectors with
  | some [evseConnectorId] =>
      (chargingStation.connectors.reverse.find? (·.id = evseConnectorId)).elim 1
        Connector.connectorId
  | _ => 1

/-- A new transaction. -/
def createTransaction (context : SessionContext) (chargingStations : ChargingStations)
    (session : OCPISession) : Except String Transaction :=
  match context.getUser (OCPISession.text session.auth_id) with
  | none => .error s!"No User found with ID '{OCPISession.text session.auth_id}'"
  | some userID =>
      match getChargingStationByOcpiLocationEvseUid chargingStations
          (session.location.bind OCPILocation.id) session.evse.uid with
      | none =>
          let locationID := OCPISession.text (session.location.bind OCPILocation.id)
          .error (s!"Charging Station with EVSE ID '{OCPISession.text session.evse.uid}' and " ++
            s!"Location ID '{locationID}' does not exist")
      | some chargingStation =>
          .ok
            { userID := userID
              tagID := session.auth_id
              timestamp := session.startDatetime
              chargeBoxID := chargingStation.id
              connectorId := connectorIdOf session.evse chargingStation
              lastConsumption := some ⟨0, session.startDatetime⟩ }

/-- The last consumption, or the start of the transaction. -/
def lastConsumption (transaction : Transaction) : LastConsumption :=
  transaction.lastConsumption.getD ⟨transaction.meterStart, transaction.timestamp⟩

/-- `Utils.getInactivityStatusLevel`, without a charging station. -/
def getInactivityStatusLevel (inactivitySecs : ℚ) : InactivityStatus :=
  if inactivitySecs = 0 then .info else if inactivitySecs < 0 then .info else .error

/-- The energy since the last update, in Wh. -/
def consumptionWh (transaction : Transaction) (session : OCPISession) : ℚ :=
  session.energyWh - (lastConsumption transaction).value

/-- The energy that is counted: none, if there is less than before. -/
def countedWh (transaction : Transaction) (session : OCPISession) : ℚ :=
  if 0 < consumptionWh transaction session then consumptionWh transaction session else 0

/-- The seconds since the last update. -/
def duration (transaction : Transaction) (session : OCPISession) : ℚ :=
  Utils.durationSecs session.lastUpdated (lastConsumption transaction).timestamp

/-- The transaction with the energy, or the inactivity, of an update. -/
def countConsumption (transaction : Transaction) (session : OCPISession) : Transaction :=
  let duration := duration transaction session
  let sampleMultiplier := if 0 < duration then 3600 / duration else 0
  let counted :=
    { transaction with
      currentInstantWatts := countedWh transaction session * sampleMultiplier
      currentConsumptionWh := countedWh transaction session
      currentTotalConsumptionWh :=
        transaction.currentTotalConsumptionWh + countedWh transaction session }
  if consumptionWh transaction session ≤ 0 then
    { counted with
      currentTotalInactivitySecs := transaction.currentTotalInactivitySecs + duration
      currentInactivityStatus :=
        some (getInactivityStatusLevel (transaction.currentTotalInactivitySecs + duration)) }
  else counted

/-- The consumption of an update, once the transaction has counted it. -/
def consumptionOf (transaction : Transaction) (session : OCPISession) (amount : ℚ) : Consumption :=
  { transactionId := transaction.id
    connectorId := transaction.connectorId
    chargeBoxID := transaction.chargeBoxID
    userID := transaction.userID
    startedAt := (lastConsumption transaction).timestamp
    endedAt := session.lastUpdated
    consumptionWh := transaction.currentConsumptionWh
    instantWatts := ⌊transaction.currentInstantWatts⌋
    -- `currentInstantAmps` is never set for a roaming session.
    instantAmps := 0
    cumulatedConsumptionWh := transaction.currentTotalConsumptionWh
    cumulatedConsumptionAmps := ⌊transaction.currentTotalConsumptionWh / 230⌋
    totalInactivitySecs := transaction.currentTotalInactivitySecs
    totalDurationSecs :=
      match transaction.stop with
      | some stop => Utils.durationSecs stop.timestamp transaction.timestamp
      | none => Utils.durationSecs (lastConsumption transaction).timestamp transaction.timestamp
    stateOfCharge := transaction.currentStateOfCharge
    amount := amount
    currencyCode := session.currency
    cumulatedAmount := session.totalCost }

/-- `computeAndSaveConsumption`. -/
def computeAndSaveConsumption (transaction : Transaction) (session : OCPISession)
    (consumptions : Consumptions) : Except String (Transaction × Consumptions) :=
  if 0 < consumptionWh transaction session ∨ 0 < duration transaction session then
    match transaction.price with
    | none => .error "[DecimalError] Invalid argument: undefined"
    | some price =>
        let counted := countConsumption transaction session
        .ok (counted, consumptions.save (consumptionOf counted session (session.totalCost - price)))
  else .ok (transaction, consumptions)

/-- The consumption of an update, if there is energy. -/
def createConsumption (transaction : Transaction) (session : OCPISession)
    (consumptions : Consumptions) : Except String (Transaction × Consumptions) :=
  if 0 < session.kwh.getD 0 then computeAndSaveConsumption transaction session consumptions
  else .ok (transaction, consumptions)

/-- The stop of a session that is completed. -/
def stopOf (context : SessionContext) (transaction : Transaction) (session : OCPISession) :
    TransactionStop :=
  let stopTimestamp := session.end_datetime.getD context.now
  { meterStop := session.energyWh
    price := session.totalCost
    priceUnit := session.currency
    roundedPrice := Utils.truncTo session.totalCost 2
    tagID := session.auth_id
    timestamp := stopTimestamp
    totalConsumptionWh := session.energyWh
    -- `Math.round`.
    totalDurationSecs := ⌊Utils.durationSecs stopTimestamp transaction.timestamp + 1 / 2⌋
    totalInactivitySecs := transaction.currentTotalInactivitySecs
    inactivityStatus := transaction.currentInactivityStatus
    userID := transaction.userID }

/-- The transaction with the session, its cost and its energy. -/
def setSession (context : SessionContext) (transaction : Transaction) (session : OCPISession) :
    Transaction :=
  { transaction with
    session := some session
    currentTimestamp := some session.lastUpdated
    price := some session.totalCost
    priceUnit := session.currency
    roundedPrice := Utils.truncTo session.totalCost 2
    lastConsumption := some ⟨session.energyWh, session.lastUpdated⟩
    stop :=
      if session.end_datetime.isSome ∨ session.status = some .completed then
        some (stopOf context transaction session)
      else transaction.stop }

/-- A connector with the runtime data of a transaction, or free again. -/
def connect (transaction : Transaction) (connector : Connector) : Connector :=
  if connector.connectorId = transaction.connectorId ∧ connector.currentTransactionID = 0 ∨
      some connector.currentTransactionID = transaction.id then
    if transaction.stop.isNone then
      { connector with
        status := none
        currentTransactionID := transaction.id.getD 0
        currentInactivityStatus := transaction.currentInactivityStatus
        currentTagID := transaction.tagID
        currentStateOfCharge := transaction.currentStateOfCharge
        currentInstantWatts := transaction.currentInstantWatts
        currentTotalConsumptionWh := transaction.currentTotalConsumptionWh
        currentTransactionDate := transaction.currentTimestamp
        currentTotalInactivitySecs := transaction.currentTotalInactivitySecs }
    else
      { id := connector.id
        connectorId := connector.connectorId
        status := some .available
        currentStateOfCharge := some 0 }
  else connector

/-- `updateConnector`. -/
def updateConnector (transaction : Transaction) (chargingStations : ChargingStations) :
    ChargingStations :=
  match chargingStations.find transaction.chargeBoxID with
  | none => chargingStations
  | some chargingStation =>
      chargingStations.save { chargingStation with
        connectors := chargingStation.connectors.map (connect transaction) }

/-- The transaction that an update is about: the one that is given, or stored, or a new one. -/
def transactionOf (context : SessionContext) (store : SessionStore) (session : OCPISession) :
    Except String Transaction :=
  match store.transaction with
  | some transaction => .ok transaction
  | none => createTransaction context store.chargingStations session

/-- An update that is older than the last one is ignored. -/
def isStale (transaction : Transaction) (session : OCPISession) : Bool :=
  session.lastUpdated < (lastConsumption transaction).timestamp

/-- What is stored in the end. -/
def saveUpdate (context : SessionContext) (store : SessionStore) (session : OCPISession)
    (counted : Transaction × Consumptions) : SessionStore :=
  let transaction := setSession context counted.1 session
  let transaction := { transaction with id := transaction.id.getD context.findAvailableID }
  { store with
    transaction := some transaction.toStored
    consumptions := counted.2
    chargingStations := updateConnector transaction store.chargingStations
    updated := some transaction
    accepted := store.accepted ++ [session] }

/-- `updateTransaction`; a transaction that is given is the one that is stored. -/
def updateTransaction (context : SessionContext) (store : SessionStore) (session : OCPISession) :
    Except String SessionStore :=
  if session.validateSession = false then .error "Session object is invalid"
  else do
    let session := session.withDefaults
    let transaction ← transactionOf context store session
    if isStale transaction session then return store
    else do
      let counted ← createConsumption transaction session store.consumptions
      return saveUpdate context store session counted

end OCPIUtilsService

namespace EMSPSessionsEndpoint

/-- `putSessionRequest`, for the session of the store; the parts of the URL are there. -/
def putSessionRequest (context : SessionContext) (store : SessionStore) (sessionID : String)
    (session : OCPISession) : Except String SessionStore :=
  if OCPISession.isSet session.id = false then
    OCPIUtilsService.updateTransaction context store { session with id := some sessionID }
  else if session.id ≠ some sessionID then
    .error s!"Transaction ID '{OCPISession.text session.id}' mismatch in URL"
  else OCPIUtilsService.updateTransaction context store session

/-- `patchSessionRequest`. -/
def patchSessionRequest (context : SessionContext) (store : SessionStore) (sessionID : String)
    (body : OCPISessionPatch) : Except String SessionStore :=
  match store.transaction with
  | none => .error s!"No Transaction found for OCPI Session ID '{sessionID}'"
  | some transaction =>
      OCPIUtilsService.updateTransaction context store
        ((transaction.session.getD {}).merge body)

end EMSPSessionsEndpoint

/-! ## Updates -/

/-- An update that the platform sends for the session, with the answers of the components. -/
inductive SessionUpdate
  | put (context : SessionContext) (session : OCPISession)
  | patch (context : SessionContext) (body : OCPISessionPatch)

namespace SessionUpdate

/-- The answers of the components. -/
def context : SessionUpdate → SessionContext
  | put context _ | patch context _ => context

/-- The answer of the endpoint. -/
def handle (sessionID : String) (store : SessionStore) :
    SessionUpdate → Except String SessionStore
  | put context session => EMSPSessionsEndpoint.putSessionRequest context store sessionID session
  | patch context body => EMSPSessionsEndpoint.patchSessionRequest context store sessionID body

/-- The session that an update is about, if its ID fits. -/
def sessionOf (sessionID : String) (store : SessionStore) : SessionUpdate → Option OCPISession
  | put _ session =>
      if OCPISession.isSet session.id = false then some { session with id := some sessionID }
      else if session.id ≠ some sessionID then none
      else some session
  | patch _ body => store.transaction.map fun transaction =>
      (transaction.session.getD {}).merge body

/-- What an update leaves; one that throws has written nothing. -/
def run (sessionID : String) (store : SessionStore) (update : SessionUpdate) : SessionStore :=
  (update.handle sessionID store).toOption.getD store

end SessionUpdate

end EvServer.Emsp
