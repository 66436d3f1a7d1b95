import EvServer.Ocpp.Metering
import EvServer.Pricing.SessionPricing

/-!
# Stopping a transaction

The functions of `OCPPUtils` and `OCPPService` that a `StopTransaction` request is
handled with and that need no storage: the meter values it is turned into, the `stop`
part of the transaction, and the extra inactivity that is added once the connector has
become available again.
-/

namespace EvServer

/-- A sampled value of `transactionData`; of the others the code reads nothing. -/
structure OCPPSampledValue where
  context : Option OCPPReadingContext := none
  format : Option OCPPValueFormat := none
  value : String
  deriving DecidableEq, Repr

/-- `OCPPStopTransactionRequestExtended`; an `idTag` that is not set is empty. -/
structure OCPPStopTransactionRequest where
  chargeBoxID : String := ""
  idTag : String := ""
  meterStop : ℚ
  timestamp : Timestamp
  transactionId : ℕ
  reason : Option String := none
  transactionData : List OCPPSampledValue := []
  deriving DecidableEq, Repr

namespace Constants

/-- `Constants.OCPP_ENERGY_ACTIVE_IMPORT_REGISTER_ATTRIBUTE`. -/
def ocppEnergyActiveImportRegisterAttribute : OCPPAttribute :=
  { context := some .samplePeriodic
    format := some .raw
    measurand := some .energyActiveImportRegister
    unit := some .otherUnit }

/-- `Constants.OCPP_SOC_ATTRIBUTE`. -/
def ocppSocAttribute : OCPPAttribute :=
  { ocppEnergyActiveImportRegisterAttribute with measurand := some .stateOfCharge }

/-- `Constants.OCPP_VOLTAGE_ATTRIBUTE`. -/
def ocppVoltageAttribute : OCPPAttribute :=
  { ocppEnergyActiveImportRegisterAttribute with measurand := some .voltage }

/-- `Constants.OCPP_CURRENT_IMPORT_ATTRIBUTE`. -/
def ocppCurrentImportAttribute : OCPPAttribute :=
  { ocppEnergyActiveImportRegisterAttribute with measurand := some .currentImport }

/-- `Constants.OCPP_POWER_ACTIVE_IMPORT_ATTRIBUTE`. -/
def ocppPowerActiveImportAttribute : OCPPAttribute :=
  { ocppEnergyActiveImportRegisterAttribute with measurand := some .powerActiveImport }

end Constants

namespace OCPPUtils

/-! ## The meter values of the stop -/

/-- A meter value of the stop. -/
def stopMeterValue (timestamp : Timestamp) (attributes : OCPPAttribute) (value : ℚ) :
    OCPPNormalizedMeterValue :=
  { timestamp := timestamp, value := .raw value, attributes := some attributes }

/-- The meter values for a quantity that is kept per phase: `perTotal` turns the total
into what a meter would send. -/
def stopMeterValuesPerPhase (timestamp : Timestamp) (attributes : OCPPAttribute)
    (perTotal : ℚ → ℚ) (values : PerPhase ℚ) : List OCPPNormalizedMeterValue :=
  let ofPhase (phase : OCPPPhase) (value : ℚ) : List OCPPNormalizedMeterValue :=
    if 0 < value then [stopMeterValue timestamp { attributes with phase := some phase } value]
    else []
  let ofTotal : List OCPPNormalizedMeterValue :=
    if 0 < values.total ∨ 0 < values.dc then
      [stopMeterValue timestamp attributes
        (if values.total ≠ 0 then perTotal values.total else values.dc)]
    else []
  ofTotal ++ ofPhase .L1 values.l1 ++ ofPhase .L2 values.l2 ++ ofPhase .L3 values.l3

/-- `OCPPUtils.createTransactionStopMeterValues`. -/
def createTransactionStopMeterValues (chargingStation : ChargingStation)
    (transaction : Transaction) (stopTransaction : OCPPStopTransactionRequest) :
    List OCPPNormalizedMeterValue :=
  let timestamp := stopTransaction.timestamp
  let stateOfCharge : List OCPPNormalizedMeterValue :=
    if 0 < transaction.currentStateOfCharge then
      [stopMeterValue timestamp Constants.ocppSocAttribute transaction.currentStateOfCharge]
    else []
  [stopMeterValue timestamp Constants.ocppEnergyActiveImportRegisterAttribute
      stopTransaction.meterStop] ++
    stateOfCharge ++
    stopMeterValuesPerPhase timestamp Constants.ocppVoltageAttribute id
      transaction.currentInstantVolts ++
    stopMeterValuesPerPhase timestamp Constants.ocppCurrentImportAttribute
      (· / Utils.getNumberOfConnectedPhases chargingStation none transaction.connectorId)
      transaction.currentInstantAmps ++
    stopMeterValuesPerPhase timestamp Constants.ocppPowerActiveImportAttribute id
      transaction.currentInstantWatts

/-! ## The stop part of the transaction -/

/-- `OCPPUtils.updateTransactionWithStopTransaction`; `userID` is that of the alternate
user or else of the user. -/
def updateTransactionWithStopTransaction (transaction : Transaction)
    (chargingStation : ChargingStation) (stopTransaction : OCPPStopTransactionRequest)
    (userID : Option String) (tagId : String) (isSoftStop : Bool) : Transaction :=
  { transaction with
    stop := some
      { reason := stopTransaction.reason
        meterStop := stopTransaction.meterStop
        timestamp := stopTransaction.timestamp
        userID := userID
        tagID := tagId
        extraInactivityComputed := isSoftStop
        extraInactivitySecs := 0
        stateOfCharge := transaction.currentStateOfCharge
        signedData := transaction.currentSignedData.getD ""
        totalConsumptionWh := transaction.currentTotalConsumptionWh
        totalInactivitySecs := transaction.currentTotalInactivitySecs
        totalDurationSecs := transaction.currentTotalDurationSecs
        inactivityStatus := Utils.getInactivityStatusLevel chargingStation
          transaction.connectorId transaction.currentTotalInactivitySecs
        price := transaction.currentCumulatedPrice
        roundedPrice := transaction.currentCumulatedRoundedPrice
        priceUnit := transaction.priceUnit
        pricingSource := transaction.pricingSource } }

/-! ## Extra inactivity -/

/-- `OCPPUtils.buildExtraConsumptionInactivity` from the last consumption of the
transaction. -/
def buildExtraConsumptionInactivity (transaction : Transaction)
    (lastConsumption : Option Consumption) : Option Consumption :=
  match transaction.stop with
  | none => none
  | some stop =>
      if 0 < stop.extraInactivitySecs then
        lastConsumption.map fun consumption =>
          { consumption with
            startedAt := some stop.timestamp
            endedAt := stop.timestamp + Rounding.truncate (1000 * stop.extraInactivitySecs)
            inactivitySecs := some stop.extraInactivitySecs
            totalDurationSecs :=
              some (consumption.totalDurationSecs.getD 0 + stop.extraInactivitySecs)
            totalInactivitySecs :=
              some (consumption.totalInactivitySecs.getD 0 + stop.extraInactivitySecs)
            consumptionAmps := some 0
            consumptionWh := some 0
            instantAmps := .const (some (.num 0))
            instantWatts := .const (some (.num 0))
            toPrice := some true }
      else none

/-- The update of `transaction.stop` once the extra inactivity is priced. -/
def updateStopWithExtraInactivity (lastTransaction : Transaction)
    (lastConsumption : Consumption) : Transaction :=
  { lastTransaction with
    stop := lastTransaction.stop.map fun stop =>
      { stop with
        timestamp := lastConsumption.endedAt
        totalDurationSecs :=
          Utils.durationSecs lastConsumption.endedAt lastTransaction.timestamp
        price := lastTransaction.currentCumulatedPrice
        roundedPrice := lastTransaction.currentCumulatedRoundedPrice } }

/-- `OCPPUtils.buildAndPriceExtraConsumptionInactivity`: the transaction and the
consumption it saves, if any. -/
def buildAndPriceExtraConsumptionInactivity (pricingImpl : Option PricingIntegration)
    (lastTransaction : Transaction) (lastConsumption : Option Consumption) :
    Except String (Transaction × Option Consumption) :=
  match buildExtraConsumptionInactivity lastTransaction lastConsumption with
  | none => .ok (lastTransaction, none)
  | some consumption => do
      let (transaction, consumption) ←
        processTransactionPricing pricingImpl lastTransaction consumption .end
      return (updateStopWithExtraInactivity transaction consumption, some consumption)

end OCPPUtils

end EvServer
