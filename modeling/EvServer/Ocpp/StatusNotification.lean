import EvServer.Ocpp.StopHandler
import EvServer.Ocpp.TransactionIdentity

/-!
# The handlers of `StatusNotification` and `BootNotification`

After a boot the connectors of a station are kept as its backup, until the station reports
them again: the first status notification of a connector restores it, with the transaction
that it carries, or creates it.  A notification that the connector is available or in
preparation completes the last transaction of the connector and clears its runtime data.

A station is updated from the template of its vendor, which says nothing about sessions;
what the template leads to is an answer of the context.
-/

namespace EvServer

/-- `OCPPStatusNotificationRequest`. -/
structure OCPPStatusNotificationRequest where
  connectorId : ℕ
  status : ChargePointStatus
  errorCode : Option String := none
  info : Option String := none
  vendorErrorCode : Option String := none
  timestamp : Option Timestamp := none
  deriving DecidableEq

/-- `OCPPBootNotificationRequest`, as far as a station is compared with it. -/
structure OCPPBootNotificationRequest where
  chargePointVendor : String
  chargePointModel : String
  chargePointSerialNumber : Option String := none
  deriving DecidableEq

/-- `RegistrationStatus`, of which the handler answers with two. -/
inductive RegistrationStatus
  | accepted
  | rejected
  deriving DecidableEq, Repr

/-- The properties of a connector that a template leads to. -/
structure ConnectorTemplate where
  chargePointID : ℕ := 0
  power : Option ℚ := none
  voltage : ℚ := 0
  amperage : ℚ := 0
  amperageLimit : Option ℚ := none
  numberOfConnectedPhase : ℕ := 0
  currentType : Option CurrentType := none
  csPhaseL1 : Option OCPPPhase := none

/-- The properties of a station that a template leads to. -/
structure ChargingStationTemplate where
  voltage : ℚ := 0
  excludeFromSmartCharging : Bool := false
  supportChargingProfiles : Bool := true
  chargePoints : List ChargePoint := []
  powerLimitUnit : ChargingRateUnitType := .ampere
  supportStaticLimitation : Bool := false

/-- The answers of the other components while a notification is handled. -/
structure NotificationContext where
  now : Timestamp := 0
  database : Database := fun _ => .ok ()
  /-- The check against the schema. -/
  statusNotificationRequest : OCPPStatusNotificationRequest → Except String Unit := fun _ => .ok ()
  bootNotificationRequest : OCPPBootNotificationRequest → Except String Unit := fun _ => .ok ()
  /-- The properties of the connector after `enrichChargingStationConnectorWithTemplate`, and
  the charge points of the station; `none` when the template is not applied. -/
  connectorTemplate : ChargingStation → Connector →
    Except String (Option (ConnectorTemplate × List ChargePoint)) := fun _ _ => .ok none
  /-- The properties of the station after `checkAndApplyTemplateToChargingStation`; `none`
  when the template is not applied. -/
  chargingStationTemplate : ChargingStation → Except String (Option ChargingStationTemplate) :=
    fun _ => .ok none
  /-- `SiteAreaStorage.getSiteArea` for a new station: company, site and site area. -/
  getSiteArea : Except String (Option (String × String × String)) := .ok none
  /-- `saveChargingStationFirmwareStatus`, when there is a status to clear. -/
  saveChargingStationFirmwareStatus : ChargingStation → Except String Unit := fun _ => .ok ()
  pricingImpl : Option PricingIntegration := none
  billingImpl : Option BillingIntegration := none
  /-- `checkAndSendOCPITransactionCdr`: whether the transaction has been updated. -/
  sendOCPITransactionCdr : Transaction → Except String Bool := fun _ => .ok false
  /-- `checkAndSendOICPTransactionCdr`. -/
  sendOICPTransactionCdr : Transaction → Except String Bool := fun _ => .ok false
  /-- `OCPPStorage.saveStatusNotification`. -/
  saveStatusNotification : Except String Unit := .ok ()
  /-- `OCPPStorage.saveBootNotification`. -/
  saveBootNotification : Except String Unit := .ok ()

/-- The last one in an order of time. -/
def latest {α : Type} (isAfter : α → α → Bool) : List α → Option α
  | [] => none
  | doc :: rest =>
      match latest isAfter rest with
      | none => some doc
      | some later => if isAfter later doc then some later else some doc

theorem mem_of_latest {α : Type} {isAfter : α → α → Bool} {docs : List α} {doc : α}
    (h : latest isAfter docs = some doc) : doc ∈ docs := by
  induction docs generalizing doc with
  | nil => cases h
  | cons first rest ih =>
      rw [latest] at h
      cases hlater : latest isAfter rest with
      | none =>
          rw [hlater] at h
          cases h
          exact List.mem_cons_self
      | some later =>
          rw [hlater] at h
          dsimp only at h
          split at h <;> cases h
          · exact List.mem_cons_of_mem _ (ih hlater)
          · exact List.mem_cons_self

/-- `TransactionStorage.getLastTransactionFromChargingStation`. -/
def TransactionStorage.getLastTransactionFromChargingStation (store : Store) (chargeBoxID : String)
    (connectorId : ℕ) : Option Transaction :=
  latest (fun transaction transaction' => transaction'.timestamp < transaction.timestamp)
    (store.transactions.docs.filter fun transaction =>
      transaction.chargeBoxID = chargeBoxID ∧ transaction.connectorId = connectorId)

/-- The last transaction of a connector is a stored one of the connector. -/
theorem TransactionStorage.getLastTransactionFromChargingStation_eq_some {store : Store}
    {chargeBoxID : String} {connectorId : ℕ} {lastTransaction : Transaction}
    (h : getLastTransactionFromChargingStation store chargeBoxID connectorId =
      some lastTransaction) :
    store.transactions.find lastTransaction.id = some lastTransaction ∧
      lastTransaction.connectorId = connectorId := by
  obtain ⟨mem, ofConnector⟩ := List.mem_filter.mp (mem_of_latest h)
  exact ⟨Collection.find_of_mem mem, (of_decide_eq_true ofConnector).2⟩

/-- `ConsumptionStorage.getLastTransactionConsumption`, the one that started last. -/
def ConsumptionStorage.getLastTransactionConsumption (store : Store) (transactionId : ℕ) :
    Option Consumption :=
  latest
    (fun consumption consumption' => consumption.startedAt.any fun started =>
      consumption'.startedAt.all fun started' => started' < started)
    (store.consumptions.docs.filter fun consumption => consumption.transactionId = transactionId)

namespace OCPPService

/-! ## Status notifications -/

/-- `Utils.getLastSeenConnectorFromID`. -/
def getLastSeenConnectorFromID (chargingStation : ChargingStation) (connectorID : ℕ) :
    Option Connector :=
  chargingStation.backupConnectors.find? fun connector => connector.connectorId = connectorID

/-- `enrichChargingStationConnectorWithTemplate`. -/
def enrichConnector (template : ConnectorTemplate) (connector : Connector) : Connector :=
  { connector with
    chargePointID := template.chargePointID
    power := template.power
    voltage := template.voltage
    amperage := template.amperage
    amperageLimit := template.amperageLimit
    numberOfConnectedPhase := template.numberOfConnectedPhase
    currentType := template.currentType
    csPhaseL1 := template.csPhaseL1 }

/-- The status is that of the connector. -/
def hasNotChanged (statusNotification : OCPPStatusNotificationRequest) (connector : Connector) :
    Bool :=
  statusNotification.status = connector.status && statusNotification.info = connector.info &&
    statusNotification.errorCode = connector.errorCode &&
    statusNotification.vendorErrorCode = connector.vendorErrorCode

/-- The station with the connector taken from its backup, or with a new one. -/
def addConnector (chargingStation : ChargingStation) (connectorId : ℕ) :
    ChargingStation × Connector :=
  match getLastSeenConnectorFromID chargingStation connectorId with
  | some connector =>
      ({ chargingStation with
          connectors := chargingStation.connectors ++ [connector]
          backupConnectors := chargingStation.backupConnectors.filter fun backupConnector =>
            backupConnector.connectorId ≠ connector.connectorId }, connector)
  | none =>
      let connector : Connector :=
        { connectorId := connectorId, status := .unavailable, power := some 0 }
      ({ chargingStation with connectors := chargingStation.connectors ++ [connector] }, connector)

/-- `checkAndGetConnectorFromStatusNotification`; `none` when the notification is ignored. -/
def checkAndGetConnectorFromStatusNotification (context : NotificationContext)
    (chargingStation : ChargingStation) (statusNotification : OCPPStatusNotificationRequest) :
    Except String (Option (ChargingStation × Connector)) :=
  match Utils.getConnectorFromID chargingStation statusNotification.connectorId with
  | some connector =>
      if hasNotChanged statusNotification connector then .ok none
      else .ok (some (chargingStation, connector))
  | none => do
      let (chargingStation, connector) :=
        addConnector chargingStation statusNotification.connectorId
      match ← context.connectorTemplate chargingStation connector with
      | none => return some (chargingStation, connector)
      | some (template, chargePoints) =>
          return some ({ chargingStation with
            chargePoints := chargePoints
            connectors := OCPPUtils.updateConnector connector.connectorId (enrichConnector template)
              chargingStation.connectors }, enrichConnector template connector)

theorem getLastSeenConnectorFromID_eq_some {chargingStation : ChargingStation} {connectorId : ℕ}
    {connector : Connector}
    (h : getLastSeenConnectorFromID chargingStation connectorId = some connector) :
    connector ∈ chargingStation.backupConnectors ∧ connector.connectorId = connectorId :=
  ⟨List.mem_of_find?_eq_some h,
    of_decide_eq_true
      (List.find?_some (p := fun c : Connector => decide (c.connectorId = connectorId)) h)⟩

theorem connectorId_addConnector (chargingStation : ChargingStation) (connectorId : ℕ) :
    (addConnector chargingStation connectorId).2.connectorId = connectorId := by
  unfold addConnector
  cases hbackup : getLastSeenConnectorFromID chargingStation connectorId with
  | some connector => exact (getLastSeenConnectorFromID_eq_some hbackup).2
  | none => rfl

/-- **The connector of a notification** is one of the station, or has been added to it, with what
a template says about it. -/
theorem checkAndGetConnector_cases {context : NotificationContext}
    {chargingStation reported : ChargingStation}
    {statusNotification : OCPPStatusNotificationRequest} {connector : Connector}
    (h : checkAndGetConnectorFromStatusNotification context chargingStation statusNotification =
      .ok (some (reported, connector))) :
    connector.connectorId = statusNotification.connectorId ∧
      (reported = chargingStation ∧
          Utils.getConnectorFromID chargingStation statusNotification.connectorId =
            some connector ∨
        Utils.getConnectorFromID chargingStation statusNotification.connectorId = none ∧
          ∃ added, (addConnector chargingStation statusNotification.connectorId).1 = added ∧
            (reported = added ∨ ∃ template chargePoints, reported =
              { added with
                chargePoints := chargePoints
                connectors := OCPPUtils.updateConnector statusNotification.connectorId
                  (enrichConnector template) added.connectors })) := by
  unfold checkAndGetConnectorFromStatusNotification at h
  cases found : Utils.getConnectorFromID chargingStation statusNotification.connectorId with
  | some there =>
      rw [found] at h
      dsimp only at h
      split at h
      · cases h
      · cases h
        exact ⟨(Utils.getConnectorFromID_eq_some found).2, .inl ⟨rfl, rfl⟩⟩
  | none =>
      rw [found] at h
      have sameID := connectorId_addConnector chargingStation statusNotification.connectorId
      generalize addConnector chargingStation statusNotification.connectorId = answer
        at h sameID ⊢
      obtain ⟨added, connector'⟩ := answer
      obtain ⟨template, -, h⟩ := Outcome.bind_eq_ok.mp h
      cases template with
      | none =>
          cases h
          exact ⟨sameID, .inr ⟨rfl, _, rfl, .inl rfl⟩⟩
      | some template =>
          cases h
          refine ⟨sameID, .inr ⟨rfl, _, rfl, .inr ⟨template.1, template.2, ?_⟩⟩⟩
          dsimp only at sameID ⊢
          rw [sameID]

/-- The consumption that the extra inactivity is saved as. -/
def extraInactivityConsumption (notification : StatusNotification) (transaction : Transaction) :
    Except String (Option Consumption) :=
  match notification.timestamp, transaction.stop with
  | some timestamp, some stop =>
      let secs := if isFreed notification then extraInactivitySecs timestamp stop else 0
      if stop.extraInactivityComputed ∨ secs ≤ 0 then .ok none
      else
        let stop :=
          { stop with
            extraInactivitySecs := secs
            inactivityStatus := Utils.getInactivityStatusLevel notification.chargingStation
              transaction.connectorId (stop.totalInactivitySecs + secs) }
        (OCPPUtils.buildAndPriceExtraConsumptionInactivity notification.pricingImpl
          { transaction with stop := some stop } notification.lastConsumption).map Prod.snd
  | _, _ => .ok none

/-- Save the consumption, if there is one. -/
def saveExtraConsumption (database : Database) : Option Consumption → StoreHandler Unit
  | none => return ()
  | some consumption => ConsumptionStorage.saveConsumption database consumption

/-- The completion of a transaction that has been stopped: its extra inactivity, its billing
and its reports to the roaming platforms. -/
def completeLastTransaction (context : NotificationContext) (notification : StatusNotification)
    (lastTransaction : Transaction) : StoreHandler Unit := do
  let consumption ← Handler.ofExcept (extraInactivityConsumption notification lastTransaction)
  saveExtraConsumption context.database consumption
  let (transaction, transactionUpdated) ← Handler.ofExcept
    (checkAndComputeTransactionExtraInactivity notification lastTransaction)
  -- Trigger the asynchronous billing task
  let (transaction, billingDataUpdated, _) ← Handler.ofExcept
    (checkAndBillTransaction context.billingImpl transaction)
  let ocpiUpdated ← Handler.ofExcept (context.sendOCPITransactionCdr transaction)
  let oicpUpdated ← Handler.ofExcept (context.sendOICPTransactionCdr transaction)
  if transactionUpdated || billingDataUpdated || ocpiUpdated || oicpUpdated then
    TransactionStorage.saveTransaction context.database transaction
  else pure ()

/-- `checkAndUpdateLastCompletedTransactionFromStatusNotification`. -/
def checkAndUpdateLastCompletedTransaction (context : NotificationContext)
    (chargingStation : ChargingStation) (statusNotification : OCPPStatusNotificationRequest)
    (connector : Connector) : StoreHandler ChargingStation :=
  if statusNotification.status = .available ∨ statusNotification.status = .preparing then do
    let found ← Handler.read fun store =>
      .ok ((TransactionStorage.getLastTransactionFromChargingStation store chargingStation.id
        connector.connectorId).map fun lastTransaction =>
          (lastTransaction,
            ConsumptionStorage.getLastTransactionConsumption store lastTransaction.id))
    match found with
    | none => return chargingStation
    | some (lastTransaction, lastConsumption) => do
        if lastTransaction.stop.isSome then
          completeLastTransaction context
            { chargingStation := chargingStation
              connectorStatus := connector.status
              status := statusNotification.status
              timestamp := statusNotification.timestamp
              pricingImpl := context.pricingImpl
              lastConsumption := lastConsumption } lastTransaction
        else pure ()
        -- Clear Connector Runtime Data
        return OCPPUtils.clearChargingStationConnectorRuntimeData chargingStation
          lastTransaction.connectorId
  else return chargingStation

/-- The notification that completes the last session of a connector. -/
def lastNotification (context : NotificationContext) (chargingStation : ChargingStation)
    (statusNotification : OCPPStatusNotificationRequest) (connector : Connector) (store : Store)
    (lastTransaction : Transaction) : StatusNotification where
  chargingStation := chargingStation
  connectorStatus := connector.status
  status := statusNotification.status
  timestamp := statusNotification.timestamp
  pricingImpl := context.pricingImpl
  lastConsumption := ConsumptionStorage.getLastTransactionConsumption store lastTransaction.id

/-- **The completion of a last session.**  Nothing is done, or the runtime data of the connector
is cleared, after a stopped session has been completed. -/
theorem checkAndUpdateLastCompletedTransaction_cases {context : NotificationContext}
    {chargingStation : ChargingStation} {statusNotification : OCPPStatusNotificationRequest}
    {connector : Connector} {store store' : Store} {result : Except String ChargingStation}
    (h : checkAndUpdateLastCompletedTransaction context chargingStation statusNotification
      connector store = (result, store')) :
    ((statusNotification.status = .available ∨ statusNotification.status = .preparing →
          TransactionStorage.getLastTransactionFromChargingStation store chargingStation.id
            connector.connectorId = none) ∧
        result = .ok chargingStation ∧ store' = store) ∨
      (statusNotification.status = .available ∨ statusNotification.status = .preparing) ∧
        ∃ lastTransaction,
          TransactionStorage.getLastTransactionFromChargingStation store chargingStation.id
              connector.connectorId = some lastTransaction ∧
            ((lastTransaction.stop = none ∧ store' = store ∧
                result = .ok (OCPPUtils.clearChargingStationConnectorRuntimeData chargingStation
                  lastTransaction.connectorId)) ∨
              lastTransaction.stop.isSome ∧ ∃ completed,
                completeLastTransaction context
                    (lastNotification context chargingStation statusNotification connector store
                      lastTransaction) lastTransaction store = (completed, store') ∧
                  result = completed.map fun _ =>
                    OCPPUtils.clearChargingStationConnectorRuntimeData chargingStation
                      lastTransaction.connectorId) := by
  unfold checkAndUpdateLastCompletedTransaction at h
  split at h
  · rename_i status
    rw [Handler.read_bind_apply] at h
    cases hlast : TransactionStorage.getLastTransactionFromChargingStation store
        chargingStation.id connector.connectorId with
    | none =>
        rw [hlast] at h
        cases h
        exact .inl ⟨fun _ => rfl, rfl, rfl⟩
    | some lastTransaction =>
        rw [hlast] at h
        dsimp only [Option.map_some] at h
        refine .inr ⟨status, lastTransaction, rfl, ?_⟩
        cases stopped : lastTransaction.stop with
        | none =>
            rw [stopped] at h
            cases h
            exact .inl ⟨rfl, rfl, rfl⟩
        | some stop =>
            rw [stopped, Option.isSome_some, if_pos rfl] at h
            refine .inr ⟨rfl, ?_⟩
            change (completeLastTransaction context (lastNotification context chargingStation
              statusNotification connector store lastTransaction) lastTransaction >>= _) store =
                _ at h
            rcases hcomplete : completeLastTransaction context (lastNotification context
              chargingStation statusNotification connector store lastTransaction) lastTransaction
                store with ⟨error | _, between⟩
            · rw [Handler.bind_apply_error hcomplete] at h
              cases h
              exact ⟨_, rfl, rfl⟩
            · rw [Handler.bind_apply_ok hcomplete] at h
              cases h
              exact ⟨_, rfl, rfl⟩
  · rename_i other
    cases h
    exact .inl ⟨fun status => absurd status other, rfl, rfl⟩

/-- The connector with the status of the notification. -/
def updateConnectorStatus (statusNotification : OCPPStatusNotificationRequest)
    (connector : Connector) : Connector :=
  { connector with
    connectorId := statusNotification.connectorId
    status := statusNotification.status
    errorCode := statusNotification.errorCode
    info := statusNotification.info
    vendorErrorCode := statusNotification.vendorErrorCode }

/-- The station with the status of the notification, its connectors sorted. -/
def updateConnectorFromStatusNotification (statusNotification : OCPPStatusNotificationRequest)
    (connectorId : ℕ) (chargingStation : ChargingStation) : ChargingStation :=
  { chargingStation with
    connectors := (OCPPUtils.updateConnector connectorId (updateConnectorStatus statusNotification)
      chargingStation.connectors).insertionSort fun connector connector' =>
        connector.connectorId ≤ connector'.connectorId }

/-- `processConnectorFromStatusNotification`, up to the notifications of the users. -/
def processConnectorFromStatusNotification (context : NotificationContext)
    (chargingStation : ChargingStation) (statusNotification : OCPPStatusNotificationRequest) :
    StoreHandler Unit := do
  let found ← Handler.ofExcept
    (checkAndGetConnectorFromStatusNotification context chargingStation statusNotification)
  match found with
  | none => return ()
  | some (chargingStation, connector) => do
      let chargingStation ← checkAndUpdateLastCompletedTransaction context chargingStation
        statusNotification connector
      Handler.ofExcept context.saveStatusNotification
      ChargingStationStorage.saveChargingStation context.database
        (updateConnectorFromStatusNotification statusNotification connector.connectorId
          chargingStation)

/-- `OCPPValidation.validateStatusNotification`: a notification has a timestamp. -/
def validateStatusNotification (context : NotificationContext)
    (statusNotification : OCPPStatusNotificationRequest) :
    Except String OCPPStatusNotificationRequest :=
  let statusNotification :=
    { statusNotification with
      timestamp := some (statusNotification.timestamp.getD context.now) }
  (context.statusNotificationRequest statusNotification).map fun _ => statusNotification

/-- `handleStatusNotification`, which answers nothing. -/
def handleStatusNotification (context : NotificationContext) (headers : OCPPHeader)
    (statusNotification : OCPPStatusNotificationRequest) : Store → Unit × Store :=
  Handler.handle (do
      let statusNotification ← Handler.ofExcept
        (validateStatusNotification context statusNotification)
      match headers.chargingStation with
      | none =>
          Handler.ofExcept (.error "TypeError: Cannot read properties of undefined (reading 'id')")
      | some chargingStation =>
          -- Skip connectorId = 0 case
          if statusNotification.connectorId = 0 then return ()
          else processConnectorFromStatusNotification context chargingStation statusNotification)
    fun _ => ()

/-- A notification is checked, and has a timestamp then. -/
theorem validateStatusNotification_ok {context : NotificationContext}
    {statusNotification request : OCPPStatusNotificationRequest}
    (h : validateStatusNotification context statusNotification = .ok request) :
    request = { statusNotification with
      timestamp := some (statusNotification.timestamp.getD context.now) } := by
  obtain ⟨_, -, same⟩ := Outcome.map_eq_ok.mp h
  exact same.symm

/-- **What a status notification leaves**: the database as it was, or as the completion of the last
session leaves it, with the station saved if nothing has thrown. -/
theorem handleStatusNotification_cases {context : NotificationContext} {headers : OCPPHeader}
    {statusNotification : OCPPStatusNotificationRequest} {store store' : Store}
    (h : (handleStatusNotification context headers statusNotification store).2 = store') :
    store' = store ∨
      ∃ chargingStation request reported connector result between,
        headers.chargingStation = some chargingStation ∧
          validateStatusNotification context statusNotification = .ok request ∧
          request.connectorId ≠ 0 ∧
          checkAndGetConnectorFromStatusNotification context chargingStation request =
            .ok (some (reported, connector)) ∧
          checkAndUpdateLastCompletedTransaction context reported request connector store =
            (result, between) ∧
          ((store' = between ∧
              (context.saveStatusNotification = .ok () →
                context.database .saveChargingStation = .ok () → ∃ error, result = .error error)) ∨
            ∃ updated, result = .ok updated ∧
              store' = { between with
                chargingStations := between.chargingStations.save
                  (updateConnectorFromStatusNotification request request.connectorId
                    updated) }) := by
  unfold handleStatusNotification at h
  rw [Handler.handle_snd] at h
  cases valid : validateStatusNotification context statusNotification with
  | error error =>
      rw [valid] at h
      exact .inl h.symm
  | ok request =>
    rw [valid, Handler.ofExcept_ok_bind] at h
    cases station : headers.chargingStation with
    | none =>
        rw [station] at h
        exact .inl h.symm
    | some chargingStation =>
      rw [station] at h
      dsimp only at h
      split at h
      · exact .inl h.symm
      rename_i notZero
      unfold processConnectorFromStatusNotification at h
      cases hfound : checkAndGetConnectorFromStatusNotification context chargingStation request with
      | error error =>
          rw [hfound] at h
          exact .inl h.symm
      | ok found =>
        rw [hfound, Handler.ofExcept_ok_bind] at h
        cases found with
        | none => exact .inl h.symm
        | some found =>
          obtain ⟨reported, connector⟩ := found
          obtain ⟨sameID, -⟩ := checkAndGetConnector_cases hfound
          dsimp only at h
          rw [sameID] at h
          rcases hlast : checkAndUpdateLastCompletedTransaction context reported request connector
            store with ⟨error | updated, between⟩
          · rw [Handler.bind_apply_error hlast] at h
            exact .inr ⟨chargingStation, request, reported, connector, _, between, rfl, rfl, notZero,
              hfound, hlast, .inl ⟨h.symm, fun _ _ => ⟨error, rfl⟩⟩⟩
          · rw [Handler.bind_apply_ok hlast] at h
            refine .inr ⟨chargingStation, request, reported, connector, _, between, rfl, rfl, notZero,
              hfound, hlast, ?_⟩
            cases hsave : context.saveStatusNotification with
            | error error =>
                rw [hsave] at h
                exact .inl ⟨h.symm, nofun⟩
            | ok _ =>
              rw [hsave, Handler.ofExcept_ok_bind] at h
              unfold ChargingStationStorage.saveChargingStation at h
              cases hdatabase : context.database .saveChargingStation with
              | error error =>
                  rw [hdatabase] at h
                  exact .inl ⟨h.symm, fun _ => nofun⟩
              | ok _ =>
                  rw [hdatabase] at h
                  exact .inr ⟨updated, rfl, h.symm⟩

/-! ## Boot notifications -/

/-- `createChargingStationFromBootNotification`. -/
def createChargingStationFromBootNotification (context : NotificationContext)
    (headers : OCPPHeader) (bootNotification : OCPPBootNotificationRequest) :
    Except String ChargingStation := do
  let siteArea ← context.getSiteArea
  return {
    id := headers.chargeBoxIdentity
    chargePointVendor := bootNotification.chargePointVendor
    chargePointModel := bootNotification.chargePointModel
    chargePointSerialNumber := bootNotification.chargePointSerialNumber
    companyID := siteArea.map fun (companyID, _) => companyID
    siteID := siteArea.map fun (_, siteID, _) => siteID
    siteAreaID := siteArea.map fun (_, _, siteAreaID) => siteAreaID }

/-- `checkChargingStationIsIdenticalFromBootNotification`; an empty serial number is not
compared. -/
def isIdenticalFromBootNotification (chargingStation : ChargingStation)
    (bootNotification : OCPPBootNotificationRequest) : Bool :=
  let serialNumber := chargingStation.chargePointSerialNumber.filter (· ≠ "")
  let serialNumber' := bootNotification.chargePointSerialNumber.filter (· ≠ "")
  chargingStation.chargePointVendor = bootNotification.chargePointVendor &&
    chargingStation.chargePointModel = bootNotification.chargePointModel &&
    (serialNumber.isNone || serialNumber'.isNone || decide (serialNumber = serialNumber'))

/-- Back up the connectors that are not backed up already. -/
def backUpConnectors (connectors backupConnectors : List Connector) : List Connector :=
  connectors.foldl (fun backupConnectors connector =>
    if backupConnectors.any fun backupConnector =>
        backupConnector.connectorId = connector.connectorId then backupConnectors
    else backupConnectors ++ [connector]) backupConnectors

/-- `enrichChargingStationFromBootNotification`, once the firmware status is cleared. -/
def enrichChargingStationFromBootNotification (bootNotification : OCPPBootNotificationRequest)
    (chargingStation : ChargingStation) : ChargingStation :=
  { chargingStation with
    chargePointSerialNumber := bootNotification.chargePointSerialNumber
    backupConnectors :=
      backUpConnectors chargingStation.connectors chargingStation.backupConnectors
    -- Clear Connectors
    connectors := [] }

/-- The station with the properties of its template. -/
def applyTemplate (template : ChargingStationTemplate) (chargingStation : ChargingStation) :
    ChargingStation :=
  { chargingStation with
    voltage := template.voltage
    excludeFromSmartCharging := template.excludeFromSmartCharging
    supportChargingProfiles := template.supportChargingProfiles
    chargePoints := template.chargePoints
    powerLimitUnit := template.powerLimitUnit
    supportStaticLimitation := template.supportStaticLimitation }

/-- The station of a boot notification, which is created when it is not known. -/
def getChargingStationFromBootNotification (context : NotificationContext) (headers : OCPPHeader)
    (bootNotification : OCPPBootNotificationRequest) : Except String ChargingStation := do
  if headers.chargeBoxIdentity = "" then
    throw "Should have the required property 'chargeBoxIdentity'!"
  else do
    context.bootNotificationRequest bootNotification
    match headers.chargingStation with
    | none => createChargingStationFromBootNotification context headers bootNotification
    | some chargingStation =>
        if isIdenticalFromBootNotification chargingStation bootNotification then
          return chargingStation
        else throw "Boot Notification Rejected: Attribute mismatch"

/-- `handleBootNotification`. -/
def handleBootNotification (context : NotificationContext) (headers : OCPPHeader)
    (bootNotification : OCPPBootNotificationRequest) : Store → RegistrationStatus × Store :=
  Handler.handle (do
      let chargingStation ← Handler.ofExcept
        (getChargingStationFromBootNotification context headers bootNotification)
      Handler.ofExcept (context.saveChargingStationFirmwareStatus chargingStation)
      let chargingStation :=
        enrichChargingStationFromBootNotification bootNotification chargingStation
      let template ← Handler.ofExcept (context.chargingStationTemplate chargingStation)
      ChargingStationStorage.saveChargingStation context.database
        (template.elim chargingStation fun template => applyTemplate template chargingStation)
      Handler.ofExcept context.saveBootNotification
      return .accepted)
    fun _ => .rejected

end OCPPService

end EvServer
