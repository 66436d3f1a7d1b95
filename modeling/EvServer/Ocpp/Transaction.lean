import EvServer.Ocpp.MeterValue
import EvServer.Pricing.Types

/-!
# Transactions and consumptions

The records follow `types/Transaction.ts` and `types/Consumption.ts`.  A transaction
carries the running totals of its session, the last reading of the energy register
(`lastConsumption`) and, once stopped, the `stop` part.  A consumption is one slice
of the session; the properties a branch of the code does not set are `none`.

A number of a transaction that is not set, `null` or `NaN` reads as `0` in every
place the code looks at it, and is `0` here.
-/

namespace EvServer

/-- `ConnectorCurrentLimitSource`. -/
inductive ConnectorCurrentLimitSource
  | chargingProfile
  | staticLimitation
  | connector
  deriving DecidableEq, Repr

/-- `SiteAreaLimitSource`. -/
inductive SiteAreaLimitSource
  | siteArea
  | chargingStations
  deriving DecidableEq, Repr

/-- The properties `limitAmps`, `limitWatts` and `limitSource` of a consumption,
which are set together. -/
structure ConnectorLimitation where
  limitAmps : Option ℚ
  limitWatts : Option ℚ
  limitSource : ConnectorCurrentLimitSource
  deriving DecidableEq, Repr

/-- The properties `limitSiteArea…` and `smartChargingActive` of a consumption, which
are set together. -/
structure SiteAreaLimitation where
  limitSiteAreaWatts : ℚ
  limitSiteAreaAmps : ℚ
  limitSiteAreaSource : SiteAreaLimitSource
  smartChargingActive : Bool
  deriving DecidableEq, Repr

/-- `Consumption`. -/
structure Consumption where
  transactionId : ℕ
  connectorId : ℕ
  chargeBoxID : String
  siteAreaID : Option String := none
  siteID : Option String := none
  userID : Option String := none
  endedAt : Timestamp
  startedAt : Option Timestamp := none
  stateOfCharge : Option JsNumber := none
  instantWatts : PerPhase (Option JsNumber) := .const none
  instantVolts : PerPhase (Option JsNumber) := .const none
  instantAmps : PerPhase (Option JsNumber) := .const none
  limitation : Option ConnectorLimitation := none
  siteAreaLimitation : Option SiteAreaLimitation := none
  consumptionWh : Option ℚ := none
  consumptionAmps : Option ℚ := none
  cumulatedConsumptionWh : Option ℚ := none
  cumulatedConsumptionAmps : Option ℚ := none
  inactivitySecs : Option ℚ := none
  totalInactivitySecs : Option ℚ := none
  totalDurationSecs : Option ℚ := none
  cumulatedAmount : Option ℚ := none
  amount : Option ℚ := none
  roundedAmount : Option ℚ := none
  currencyCode : Option String := none
  pricingSource : Option PricingSource := none
  toPrice : Option Bool := none
  deriving DecidableEq, Repr

/-- `transaction.lastConsumption`. -/
structure LastConsumption where
  value : ℚ
  timestamp : Timestamp
  deriving DecidableEq, Repr

/-- `TransactionStop`. -/
structure TransactionStop where
  reason : Option String := none
  meterStop : ℚ
  timestamp : Timestamp
  userID : Option String := none
  tagID : String
  extraInactivityComputed : Bool
  extraInactivitySecs : ℚ := 0
  stateOfCharge : ℚ
  signedData : String
  totalConsumptionWh : ℚ
  totalInactivitySecs : ℚ
  totalDurationSecs : ℚ
  inactivityStatus : InactivityStatus
  price : ℚ
  roundedPrice : ℚ
  priceUnit : Option String
  pricingSource : Option PricingSource
  deriving DecidableEq, Repr

/-- `TransactionRemoteStop`, up to the user. -/
structure TransactionRemoteStop where
  timestamp : Timestamp
  tagID : String
  deriving DecidableEq, Repr

/-- `BillingStatus`. -/
inductive BillingStatus
  | unbilled
  | pending
  | billed
  | failed
  deriving DecidableEq, Repr

/-- `BillingDataTransactionStop`, up to the data of the invoice. -/
structure BillingDataTransactionStop where
  status : BillingStatus
  invoiceID : Option String := none
  deriving DecidableEq, Repr

/-- `TransactionBillingData`. -/
structure TransactionBillingData where
  withBillingActive : Bool
  stop : Option BillingDataTransactionStop := none
  deriving DecidableEq, Repr

/-- `Transaction`. -/
structure Transaction where
  id : ℕ
  chargeBoxID : String
  connectorId : ℕ
  siteID : Option String := none
  siteAreaID : Option String := none
  companyID : Option String := none
  tagID : String
  userID : Option String := none
  /-- `user?.issuer`, when the transaction is read with its user. -/
  userIssuer : Option Bool := none
  timezone : Option String := none
  meterStart : ℚ
  timestamp : Timestamp
  numberOfMeterValues : ℕ := 0
  lastConsumption : Option LastConsumption := none
  signedData : String := ""
  currentSignedData : Option String := none
  stateOfCharge : ℚ := 0
  currentStateOfCharge : ℚ := 0
  currentTimestamp : Option Timestamp := none
  currentConsumptionWh : ℚ := 0
  currentTotalConsumptionWh : ℚ := 0
  currentTotalInactivitySecs : ℚ := 0
  currentTotalDurationSecs : ℚ := 0
  currentInactivityStatus : InactivityStatus := .info
  currentInstantWatts : PerPhase ℚ := .const 0
  currentInstantVolts : PerPhase ℚ := .const 0
  currentInstantAmps : PerPhase ℚ := .const 0
  transactionEndReceived : Bool := false
  price : ℚ := 0
  roundedPrice : ℚ := 0
  priceUnit : Option String := none
  pricingSource : Option PricingSource := none
  pricingModel : Option ResolvedPricingModel := none
  currentCumulatedPrice : ℚ := 0
  currentCumulatedRoundedPrice : ℚ := 0
  billingData : Option TransactionBillingData := none
  remotestop : Option TransactionRemoteStop := none
  stop : Option TransactionStop := none
  deriving DecidableEq, Repr

/-- `OCPPStartTransactionRequestExtended`, enriched. -/
structure OCPPStartTransactionRequest where
  chargeBoxID : String
  connectorId : ℕ
  idTag : String
  meterStart : ℚ
  timestamp : Timestamp
  timezone : Option String := none
  userID : Option String := none
  companyID : Option String := none
  siteID : Option String := none
  siteAreaID : Option String := none
  deriving DecidableEq, Repr

/-- `OCPPService.createTransaction`, with the ID that `findAvailableID` returned. -/
def OCPPService.createTransaction (id : ℕ) (startTransaction : OCPPStartTransactionRequest) :
    Transaction :=
  { id := id
    chargeBoxID := startTransaction.chargeBoxID
    tagID := startTransaction.idTag
    timezone := startTransaction.timezone
    userID := startTransaction.userID
    companyID := startTransaction.companyID
    siteID := startTransaction.siteID
    siteAreaID := startTransaction.siteAreaID
    connectorId := startTransaction.connectorId
    meterStart := startTransaction.meterStart
    timestamp := startTransaction.timestamp
    lastConsumption := some ⟨startTransaction.meterStart, startTransaction.timestamp⟩ }

namespace OCPPUtils

/-- `OCPPUtils.updateTransactionWithConsumption`.  `now` is the time of the call. -/
def updateTransactionWithConsumption (now : Timestamp) (chargingStation : ChargingStation)
    (transaction : Transaction) (consumption : Consumption) : Transaction :=
  let currentStateOfCharge := JsNumber.toFloat consumption.stateOfCharge
  { transaction with
    currentConsumptionWh := consumption.consumptionWh.getD 0
    currentTotalConsumptionWh := consumption.cumulatedConsumptionWh.getD 0
    currentInstantWatts := consumption.instantWatts.map JsNumber.toFloat
    currentInstantVolts := consumption.instantVolts.map JsNumber.toFloat
    currentInstantAmps := consumption.instantAmps.map JsNumber.toFloat
    currentTimestamp := some consumption.endedAt
    currentStateOfCharge := currentStateOfCharge
    -- `Transaction.Begin` not provided
    stateOfCharge :=
      if transaction.stateOfCharge = 0 then currentStateOfCharge else transaction.stateOfCharge
    currentTotalDurationSecs :=
      Utils.durationSecs ((transaction.lastConsumption.map LastConsumption.timestamp).getD now)
        transaction.timestamp
    currentInactivityStatus :=
      Utils.getInactivityStatusLevel chargingStation transaction.connectorId
        transaction.currentTotalInactivitySecs }

/-- `OCPPUtils.updateCumulatedAmounts`. -/
def updateCumulatedAmounts (transaction : Transaction) (consumption : Consumption)
    (pricedConsumption : Option PricedConsumption) : Transaction × Consumption :=
  match pricedConsumption with
  | none => (transaction, consumption)
  | some priced =>
      ({ transaction with
          currentCumulatedPrice := priced.cumulatedAmount
          currentCumulatedRoundedPrice := priced.cumulatedRoundedAmount },
        { consumption with
          amount := some priced.amount
          roundedAmount := some priced.roundedAmount
          currencyCode := some priced.currencyCode
          pricingSource := some priced.pricingSource
          cumulatedAmount := some priced.cumulatedAmount })

/-- `OCPPUtils.updateSignedData`; the flag says that the value is signed data of the
begin or the end of the transaction. -/
def updateSignedData (transaction : Transaction) (attributes : OCPPAttribute)
    (value : MeterValueData) : Transaction × Bool :=
  let content := match value with
    | .raw number => toString number
    | .text content => content
  if attributes.format = some .signedData then
    match attributes.context with
    | some .transactionBegin => ({ transaction with signedData := content }, true)
    | some .transactionEnd => ({ transaction with currentSignedData := some content }, true)
    | _ => (transaction, false)
  else (transaction, false)

end OCPPUtils

/-! ## The transaction while meter values come in -/

namespace OCPPService

/-- The part of `updateTransactionWithMeterValues` for the values of the end of the
transaction, kept for the last consumption.  `none`: the value is none of these. -/
def updateTransactionWithTransactionEnd (chargingStation : ChargingStation)
    (transaction : Transaction) (attributes : OCPPAttribute)
    (meterValue : OCPPNormalizedMeterValue) : Option Transaction :=
  let currentType :=
    Utils.getChargingStationCurrentType chargingStation none transaction.connectorId
  match attributes.measurand, attributes.context with
  | some .stateOfCharge, some .transactionBegin =>
      some { transaction with
        stateOfCharge := JsNumber.toFloat (some meterValue.value.convertToFloat) }
  | some .stateOfCharge, some .transactionEnd =>
      some { transaction with
        currentStateOfCharge := JsNumber.toFloat (some meterValue.value.convertToFloat) }
  | some .voltage, some .transactionEnd =>
      some { transaction with
        currentInstantVolts := transaction.currentInstantVolts.set
          (OCPPUtils.voltageSlot currentType attributes.phase)
          (JsNumber.toFloat (some meterValue.value.convertToFloat)) }
  | some .powerActiveImport, some .transactionEnd =>
      some { transaction with
        currentInstantWatts := transaction.currentInstantWatts.set
          (OCPPUtils.powerSlot currentType attributes.phase)
          (JsNumber.toFloat (some (OCPPUtils.powerInMeterValueWatts meterValue))) }
  | some .currentImport, some .transactionEnd =>
      let slot := OCPPUtils.currentSlot currentType attributes.phase
      let phases :=
        Utils.getNumberOfConnectedPhases chargingStation none transaction.connectorId
      some { transaction with
        currentInstantAmps := transaction.currentInstantAmps.set slot
          (JsNumber.toFloat (some meterValue.value.convertToFloat)
            * OCPPUtils.currentFactor slot phases) }
  | _, _ => none

/-- One turn of the loop of `updateTransactionWithMeterValues`.  It reads properties
of the attributes, which throws when a value has none. -/
def updateTransactionWithMeterValue (chargingStation : ChargingStation)
    (transaction : Transaction) (meterValue : OCPPNormalizedMeterValue) :
    Except String Transaction :=
  match meterValue.attributes with
  | none => .error "TypeError: Cannot read properties of undefined (reading 'context')"
  | some attributes =>
      let transaction :=
        if attributes.context = some .transactionEnd ∧ ¬ transaction.transactionEndReceived then
          -- First time: clear all values
          { transaction with
            currentInstantWatts := .const 0
            currentInstantVolts := .const 0
            currentInstantAmps := .const 0
            transactionEndReceived := true }
        else transaction
      let (transaction, signed) :=
        OCPPUtils.updateSignedData transaction attributes meterValue.value
      if signed then .ok transaction
      else
        match updateTransactionWithTransactionEnd chargingStation transaction attributes
            meterValue with
        | some transaction => .ok transaction
        | none =>
            if OCPPUtils.isEnergyActiveImportMeterValue meterValue then
              .ok { transaction with numberOfMeterValues := transaction.numberOfMeterValues + 1 }
            else .ok transaction

/-- `OCPPService.updateTransactionWithMeterValues`. -/
def updateTransactionWithMeterValues (chargingStation : ChargingStation)
    (transaction : Transaction) (meterValues : List OCPPNormalizedMeterValue) :
    Except String Transaction :=
  meterValues.foldlM (updateTransactionWithMeterValue chargingStation) transaction

end OCPPService

end EvServer
