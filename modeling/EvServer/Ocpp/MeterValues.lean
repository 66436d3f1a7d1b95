import EvServer.Ocpp.Metering
import EvServer.Pricing.SessionPricing
import Mathlib.Data.List.ModifyLast

/-!
# The `MeterValues` request (`handleMeterValues`)

The request updates the transaction with the meter values, turns them into
consumptions, and then updates the transaction with each consumption in turn, which
is priced on the way.  The transaction is saved at the end, so a request that throws
before leaves the stored one as it was.

Roaming and billing of a running transaction do not throw and touch nothing a
transaction of this model has.
-/

namespace EvServer

/-- The answers of the other components while a `MeterValues` request is handled. -/
structure MeterValuesContext extends MeteringContext where
  /-- The state of charge that the connected car reports; `0` when there is none. -/
  currentSoc : Except String ℚ := .ok 0
  /-- `PricingFactory.getPricingImpl`: none without a pricing component. -/
  pricingImpl : Option PricingIntegration := none

namespace OCPPService

/-- `OCPPService.processTransactionCar` for an update: the state of charge of the car
goes to the last consumption. -/
def processTransactionCar (context : MeterValuesContext) (consumptions : List Consumption) :
    Except String (List Consumption) := do
  let soc ← context.currentSoc
  if soc = 0 then return consumptions
  else return consumptions.modifyLast fun consumption =>
    { consumption with stateOfCharge := some (.num soc) }

/-- One turn of the loop over the consumptions; the last component collects what is
saved. -/
def applyConsumption (context : MeterValuesContext) (chargingStation : ChargingStation)
    (state : Transaction × List Consumption) (consumption : Consumption) :
    Except String (Transaction × List Consumption) := do
  let transaction := OCPPUtils.updateTransactionWithConsumption context.now chargingStation
    state.1 consumption
  if consumption.toPrice = some true then
    let (transaction, consumption) ← OCPPUtils.processTransactionPricing context.pricingImpl
      transaction consumption .update
    return (transaction, state.2 ++ [consumption])
  else return (transaction, state.2 ++ [consumption])

/-- `OCPPService.handleMeterValues` for the transaction of the request: the
transaction and the consumptions it saves. -/
def handleMeterValues (context : MeterValuesContext) (chargingStation : ChargingStation)
    (transaction : Transaction) (meterValues : List OCPPNormalizedMeterValue) :
    Except String (Transaction × List Consumption) :=
  if transaction.stop.isSome then .error "Transaction has already been stopped"
  else do
    let transaction ← updateTransactionWithMeterValues chargingStation transaction meterValues
    let (transaction, consumptions) ← OCPPUtils.createConsumptionsFromMeterValues
      context.toMeteringContext chargingStation transaction meterValues
    let consumptions ← processTransactionCar context consumptions
    consumptions.foldlM (applyConsumption context chargingStation) (transaction, [])

/-- The steps of a request that gets to its end. -/
theorem handleMeterValues_steps {context : MeterValuesContext} {chargingStation : ChargingStation}
    {transaction transaction' : Transaction} {meterValues : List OCPPNormalizedMeterValue}
    {saved : List Consumption}
    (h : handleMeterValues context chargingStation transaction meterValues =
      .ok (transaction', saved)) :
    ∃ updated created consumptions charged,
      updateTransactionWithMeterValues chargingStation transaction meterValues = .ok updated ∧
        OCPPUtils.createConsumptionsFromMeterValues context.toMeteringContext chargingStation
          updated meterValues = .ok (created, consumptions) ∧
        processTransactionCar context consumptions = .ok charged ∧
        charged.foldlM (applyConsumption context chargingStation) (created, []) =
          .ok (transaction', saved) := by
  unfold handleMeterValues at h
  split at h
  · cases h
  obtain ⟨updated, hupdated, h⟩ := Outcome.bind_eq_ok.mp h
  obtain ⟨⟨created, consumptions⟩, hcreated, h⟩ := Outcome.bind_eq_ok.mp h
  obtain ⟨charged, hcharged, h⟩ := Outcome.bind_eq_ok.mp h
  exact ⟨updated, created, consumptions, charged, hupdated, hcreated, hcharged, h⟩

end OCPPService

end EvServer
