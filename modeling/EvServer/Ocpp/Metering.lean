import EvServer.Ocpp.Transaction
import Mathlib.Data.List.Sort

/-!
# From meter values to consumptions

`createConsumptionsFromMeterValues` turns the meter values of one request into one
consumption per timestamp.  Every value that counts is turned into a consumption of
its own, which is then copied over the one that already has its timestamp.  A
reading of the energy register also moves `lastConsumption` and the running total of
the transaction.

What the code asks other components for while it does so (the limit a charging
profile sets on the connector, the limit of the site area, the time) is the
`MeteringContext`; each of the questions may throw.
-/

namespace EvServer

/-- The answers of the other components while the meter values are handled. -/
structure MeteringContext where
  now : Timestamp := 0
  /-- `getCurrentConnectorLimit` of the vendor, when the station has a known one. -/
  chargingStationVendor :
    Option (OCPPNormalizedMeterValue → Except String ConnectorLimitation) := none
  /-- `addSiteLimitationToConsumption`: nothing without the organization component or
  a site area. -/
  siteAreaLimitation : OCPPNormalizedMeterValue → Except String (Option SiteAreaLimitation) :=
    fun _ => .ok none

namespace OCPPUtils

/-- `OCPPUtils.addConnectorLimitationToConsumption`. -/
def addConnectorLimitationToConsumption (context : MeteringContext)
    (chargingStation : ChargingStation) (connectorID : ℕ)
    (meterValue : OCPPNormalizedMeterValue) (consumption : Consumption) :
    Except String Consumption :=
  match context.chargingStationVendor with
  | some getCurrentConnectorLimit => do
      let limitation ← getCurrentConnectorLimit meterValue
      return { consumption with limitation := some limitation }
  | none =>
      let connector := Utils.getConnectorFromID chargingStation connectorID
      return { consumption with
        limitation := some
          { limitAmps := connector.bind Connector.amperageLimit
            limitWatts := connector.bind Connector.power
            limitSource := .connector } }

/-- `OCPPUtils.addSiteLimitationToConsumption`. -/
def addSiteLimitationToConsumption (context : MeteringContext)
    (meterValue : OCPPNormalizedMeterValue) (consumption : Consumption) :
    Except String Consumption := do
  let limitation ← context.siteAreaLimitation meterValue
  return { consumption with siteAreaLimitation := limitation }

/-- The test for inactivity: the connector was not held back by a charging profile. -/
def isNotHeldBack (chargingStation : ChargingStation) (connectorId : ℕ)
    (limitation : Option ConnectorLimitation) : Bool :=
  match limitation with
  | none => true
  | some limitation =>
      limitation.limitSource ≠ .chargingProfile ||
        (limitation.limitAmps.any fun limitAmps =>
          StaticLimitAmps.minLimitPerPhase
            * Utils.getNumberOfConnectedPhases chargingStation none connectorId ≤ limitAmps)

/-- The branch for a reading above the last one. -/
def applyConsumption (chargingStation : ChargingStation) (transaction : Transaction)
    (lastConsumption : LastConsumption) (meterValue : OCPPNormalizedMeterValue)
    (consumption : Consumption) : Transaction × Consumption :=
  let meterValueWh := JsNumber.toFloat (some (meterValueWh meterValue))
  let consumptionWh := meterValueWh - lastConsumption.value
  ({ transaction with
      currentTotalConsumptionWh := transaction.currentTotalConsumptionWh + consumptionWh
      lastConsumption := some ⟨meterValueWh, meterValue.timestamp⟩ },
    { consumption with
      consumptionWh := some consumptionWh
      consumptionAmps := some
        (Utils.convertWattToAmp chargingStation none transaction.connectorId consumptionWh) })

/-- The branch without consumption: the last consumption is kept only if the reading
is not below it, and the time counts as inactivity. -/
def applyNoConsumption (chargingStation : ChargingStation) (transaction : Transaction)
    (lastConsumption : LastConsumption) (meterValue : OCPPNormalizedMeterValue)
    (consumption : Consumption) : Transaction × Consumption :=
  let durationSecs := Utils.durationSecs meterValue.timestamp lastConsumption.timestamp
  let counts := isNotHeldBack chargingStation transaction.connectorId consumption.limitation
  let totalInactivitySecs := transaction.currentTotalInactivitySecs + durationSecs
  ({ transaction with
      lastConsumption :=
        if meterValueWh meterValue = .num lastConsumption.value then
          some ⟨lastConsumption.value, meterValue.timestamp⟩
        else transaction.lastConsumption
      currentTotalInactivitySecs :=
        if counts then totalInactivitySecs else transaction.currentTotalInactivitySecs },
    { consumption with
      consumptionWh := some 0
      consumptionAmps := some 0
      inactivitySecs := if counts then some durationSecs else consumption.inactivitySecs
      totalInactivitySecs :=
        if counts then some totalInactivitySecs else consumption.totalInactivitySecs })

/-- The totals a consumption with a reading of the energy register carries. -/
def addCumulatedConsumption (chargingStation : ChargingStation) (transaction : Transaction)
    (meterValue : OCPPNormalizedMeterValue) (consumption : Consumption) : Consumption :=
  let finish := (transaction.stop.map TransactionStop.timestamp).getD meterValue.timestamp
  { consumption with
    cumulatedConsumptionWh := some transaction.currentTotalConsumptionWh
    cumulatedConsumptionAmps := some
      (Utils.convertWattToAmp chargingStation none transaction.connectorId
        transaction.currentTotalConsumptionWh)
    totalDurationSecs := some (Utils.durationSecs finish transaction.timestamp)
    cumulatedAmount := some transaction.currentCumulatedPrice
    pricingSource := transaction.pricingSource
    toPrice := some true }

/-- The end of the branch of `createConsumptionFromMeterValue` for a reading of the
energy register, from the comparison with the last reading on. -/
def applyEnergyReading (chargingStation : ChargingStation) (transaction : Transaction)
    (lastConsumption : LastConsumption) (meterValue : OCPPNormalizedMeterValue)
    (consumption : Consumption) : Transaction × Consumption :=
  let result :=
    if JsNumber.isAbove lastConsumption.value (some (meterValueWh meterValue)) then
      applyConsumption chargingStation transaction lastConsumption meterValue consumption
    else applyNoConsumption chargingStation transaction lastConsumption meterValue consumption
  (result.1, addCumulatedConsumption chargingStation result.1 meterValue result.2)

/-- `OCPPUtils.createConsumptionFromMeterValue`, for a valid meter value. -/
def createConsumptionFromMeterValue (context : MeteringContext)
    (chargingStation : ChargingStation) (transaction : Transaction)
    (lastConsumption : Option LastConsumption) (meterValue : OCPPNormalizedMeterValue) :
    Except String (Transaction × Consumption) :=
  -- First meter value: create one based on the transaction
  let lastConsumption :=
    lastConsumption.getD ⟨transaction.meterStart, transaction.timestamp⟩
  let currentType :=
    Utils.getChargingStationCurrentType chargingStation none transaction.connectorId
  let phase := meterValue.attributes.bind OCPPAttribute.phase
  let consumption : Consumption :=
    { transactionId := transaction.id
      connectorId := transaction.connectorId
      chargeBoxID := transaction.chargeBoxID
      siteAreaID := transaction.siteAreaID
      siteID := transaction.siteID
      userID := transaction.userID
      endedAt := meterValue.timestamp }
  if isSocMeterValue meterValue then
    .ok (transaction,
      { consumption with stateOfCharge := some meterValue.value.convertToFloat })
  else if isPowerActiveImportMeterValue meterValue then
    .ok (transaction,
      { consumption with
        instantWatts := consumption.instantWatts.set (powerSlot currentType phase)
          (some (powerInMeterValueWatts meterValue)) })
  else if isVoltageMeterValue meterValue then
    .ok (transaction,
      { consumption with
        instantVolts := consumption.instantVolts.set (voltageSlot currentType phase)
          (some meterValue.value.convertToFloat) })
  else if isCurrentImportMeterValue meterValue then
    let slot := currentSlot currentType phase
    let phases :=
      Utils.getNumberOfConnectedPhases chargingStation none transaction.connectorId
    .ok (transaction,
      { consumption with
        instantAmps := consumption.instantAmps.set slot
          (some (meterValue.value.convertToFloat.map (· * currentFactor slot phases))) })
  else if isEnergyActiveImportMeterValue meterValue then do
    let consumption := { consumption with startedAt := some lastConsumption.timestamp }
    let consumption ← addConnectorLimitationToConsumption context chargingStation
      transaction.connectorId meterValue consumption
    let consumption ← addSiteLimitationToConsumption context meterValue consumption
    return applyEnergyReading chargingStation transaction lastConsumption meterValue consumption
  else .ok (transaction, consumption)

/-! ## Consistency of a consumption -/

/-- The check of a total against its phases: a total out of the tolerance of 10% is
replaced by the sum of the phases. -/
def checkTotalWithPhases (values : PerPhase (Option JsNumber)) : PerPhase (Option JsNumber) :=
  if JsNumber.isPositive values.l1 || JsNumber.isPositive values.l2 ||
      JsNumber.isPositive values.l3 then
    let l1 := JsNumber.toFloat values.l1
    let l2 := JsNumber.toFloat values.l2
    let l3 := JsNumber.toFloat values.l3
    let total := l1 + l2 + l3
    let isOutOfBounds :=
      JsNumber.isBelow (total / (11 / 10)) values.total ||
        JsNumber.isAbove (total * (11 / 10)) values.total
    { values with
      total := if isOutOfBounds then some (.num total) else values.total
      l1 := some (.num l1)
      l2 := some (.num l2)
      l3 := some (.num l3) }
  else values

/-- The power of a phase from its current, when the power was not measured. -/
def wattsFromAmps (chargingStation : ChargingStation) (connectorID : ℕ)
    (amps volts : Option JsNumber) : JsNumber :=
  if JsNumber.isPositive volts then
    .num (JsNumber.toFloat amps * JsNumber.toFloat volts)
  else .num (Utils.convertAmpToWatt chargingStation none connectorID (JsNumber.toFloat amps))

/-- `OCPPUtils.assertConsistencyInConsumption`. -/
def assertConsistencyInConsumption (chargingStation : ChargingStation) (connectorID : ℕ)
    (consumption : Consumption) : Consumption :=
  let volts := consumption.instantVolts
  let watts := checkTotalWithPhases consumption.instantWatts
  let amps := checkTotalWithPhases consumption.instantAmps
  -- Power Active Import not provided in Meter Value
  let watts :=
    if JsNumber.isFalsy watts.total then
      if JsNumber.isPositive amps.total then
        { watts with
          total := some (wattsFromAmps chargingStation connectorID amps.total volts.total) }
      else
        -- Without a start the consumption is zero, so the time period does not matter.
        let diffSecs :=
          Utils.durationSecs consumption.endedAt (consumption.startedAt.getD consumption.endedAt)
        let sampleMultiplierWhToWatt := if 0 < diffSecs then 3600 / diffSecs else 0
        { watts with
          total := some (.num (consumption.consumptionWh.getD 0 * sampleMultiplierWhToWatt)) }
    else watts
  -- Current not provided in Meter Value
  let amps :=
    if JsNumber.isFalsy amps.total && JsNumber.isPositive watts.total then
      let totalWatts := JsNumber.toFloat watts.total
      { amps with
        total := some (.num
          (if JsNumber.isPositive volts.total then totalWatts / JsNumber.toFloat volts.total
          else Utils.convertWattToAmp chargingStation none connectorID totalWatts)) }
    else amps
  -- Fill Power per Phase when Current is provided in Meter Values
  let watts :=
    if (JsNumber.isFalsy watts.l1 && JsNumber.isFalsy watts.l2 && JsNumber.isFalsy watts.l3) &&
        (JsNumber.isPositive amps.l1 || JsNumber.isPositive amps.l2 ||
          JsNumber.isPositive amps.l3) then
      { watts with
        l1 := some (wattsFromAmps chargingStation connectorID amps.l1 volts.l1)
        l2 := some (wattsFromAmps chargingStation connectorID amps.l2 volts.l2)
        l3 := some (wattsFromAmps chargingStation connectorID amps.l3 volts.l3) }
    else watts
  let watts :=
    if JsNumber.isFalsy watts.dc && JsNumber.isPositive amps.dc &&
        JsNumber.isPositive volts.dc then
      { watts with dc := some (.num (JsNumber.toFloat amps.dc * JsNumber.toFloat volts.dc)) }
    else watts
  { consumption with instantWatts := watts, instantAmps := amps }

/-! ## One consumption per timestamp -/

/-- Copy the properties of a consumption over those of the existing one. -/
def mergeConsumption (existing consumption : Consumption) : Consumption :=
  { transactionId := consumption.transactionId
    connectorId := consumption.connectorId
    chargeBoxID := consumption.chargeBoxID
    siteAreaID := consumption.siteAreaID
    siteID := consumption.siteID
    userID := consumption.userID
    endedAt := consumption.endedAt
    startedAt := consumption.startedAt.or existing.startedAt
    stateOfCharge := consumption.stateOfCharge.or existing.stateOfCharge
    instantWatts := existing.instantWatts.merge consumption.instantWatts
    instantVolts := existing.instantVolts.merge consumption.instantVolts
    instantAmps := existing.instantAmps.merge consumption.instantAmps
    limitation := consumption.limitation.or existing.limitation
    siteAreaLimitation := consumption.siteAreaLimitation.or existing.siteAreaLimitation
    consumptionWh := consumption.consumptionWh.or existing.consumptionWh
    consumptionAmps := consumption.consumptionAmps.or existing.consumptionAmps
    cumulatedConsumptionWh :=
      consumption.cumulatedConsumptionWh.or existing.cumulatedConsumptionWh
    cumulatedConsumptionAmps :=
      consumption.cumulatedConsumptionAmps.or existing.cumulatedConsumptionAmps
    inactivitySecs := consumption.inactivitySecs.or existing.inactivitySecs
    totalInactivitySecs := consumption.totalInactivitySecs.or existing.totalInactivitySecs
    totalDurationSecs := consumption.totalDurationSecs.or existing.totalDurationSecs
    cumulatedAmount := consumption.cumulatedAmount.or existing.cumulatedAmount
    amount := consumption.amount.or existing.amount
    roundedAmount := consumption.roundedAmount.or existing.roundedAmount
    currencyCode := consumption.currencyCode.or existing.currencyCode
    pricingSource := consumption.pricingSource.or existing.pricingSource
    toPrice := consumption.toPrice.or existing.toPrice }

/-- Update the first consumption with the same end, or add a new one. -/
def addOrUpdateConsumption (consumption : Consumption) : List Consumption → List Consumption
  | [] => [consumption]
  | existing :: rest =>
      if existing.endedAt = consumption.endedAt then mergeConsumption existing consumption :: rest
      else existing :: addOrUpdateConsumption consumption rest

/-- The meter value is in the past and will be ignored. -/
def isInThePast (transaction : Transaction) (meterValue : OCPPNormalizedMeterValue) : Bool :=
  transaction.lastConsumption.any fun lastConsumption =>
    meterValue.timestamp < lastConsumption.timestamp

/-- One turn of the loop of `createConsumptionsFromMeterValues`. -/
def createConsumptionsStep (context : MeteringContext) (chargingStation : ChargingStation)
    (state : Transaction × List Consumption) (meterValue : OCPPNormalizedMeterValue) :
    Except String (Transaction × List Consumption) :=
  if isValidMeterValue meterValue && !isInThePast state.1 meterValue then do
    let (transaction, consumption) ← createConsumptionFromMeterValue context chargingStation
      state.1 state.1.lastConsumption meterValue
    return (transaction, addOrUpdateConsumption consumption state.2)
  else .ok state

/-- `consumptions.sort((a, b) => a.startedAt.getTime() - b.startedAt.getTime())`.  The
sort is stable; it compares nothing when there is at most one consumption, and throws
when it meets one without a start. -/
def sortConsumptions (consumptions : List Consumption) : Except String (List Consumption) :=
  if consumptions.length ≤ 1 then .ok consumptions
  else if consumptions.all fun consumption => consumption.startedAt.isSome then
    .ok (consumptions.insertionSort fun a b => a.startedAt.getD 0 ≤ b.startedAt.getD 0)
  else .error "TypeError: Cannot read properties of undefined (reading 'getTime')"

/-- `OCPPUtils.createConsumptionsFromMeterValues`. -/
def createConsumptionsFromMeterValues (context : MeteringContext)
    (chargingStation : ChargingStation) (transaction : Transaction)
    (meterValues : List OCPPNormalizedMeterValue) :
    Except String (Transaction × List Consumption) := do
  let (transaction, consumptions) ←
    meterValues.foldlM (createConsumptionsStep context chargingStation) (transaction, [])
  let consumptions := consumptions.map
    (assertConsistencyInConsumption chargingStation transaction.connectorId)
  let consumptions ← sortConsumptions consumptions
  return (transaction, consumptions)

end OCPPUtils

end EvServer
