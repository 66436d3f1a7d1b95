import EvServer.Ocpp.Transaction
import EvServer.Pricing.ConsumptionPricer

/-!
# Pricing a session (`PricingIntegration`, `OCPPUtils.processTransactionPricing`)

A transaction is priced when it starts, with each consumption while it runs, with the
last one when it stops and with the extra inactivity after that.  The first call
resolves the pricing model and the transaction keeps it.  The later calls price with the
model of the transaction and change it in place, so the transaction has the changed one
after each of them.
-/

namespace EvServer

/-- `TransactionAction`. -/
inductive TransactionAction
  | start
  | update
  | stop
  | «end»
  deriving DecidableEq, Repr

/-- `PricingIntegration`: what prices a consumption of a transaction. -/
structure PricingIntegration where
  startSession : Transaction → Consumption → Except String (Option PricedConsumption)
  updateSession : Transaction → Consumption → Except String (Option PricedConsumption)
  stopSession : Transaction → Consumption → Except String (Option PricedConsumption)
  endSession : Transaction → Consumption → Except String (Option PricedConsumption)

namespace OCPPUtils

/-- The model of a transaction that has one, after it has been changed in place. -/
def updatePricingModel (transaction : Transaction)
    (pricedConsumption : Option PricedConsumption) : Transaction :=
  { transaction with
    pricingModel := transaction.pricingModel.map fun model =>
      (pricedConsumption.bind PricedConsumption.pricingModel).getD model }

/-- The initial pricing of a transaction. -/
def setInitialPricing (transaction : Transaction)
    (pricedConsumption : Option PricedConsumption) : Transaction :=
  match pricedConsumption with
  | none => transaction
  | some priced =>
      { transaction with
        price := priced.amount
        roundedPrice := priced.roundedAmount
        priceUnit := some priced.currencyCode
        pricingSource := some priced.pricingSource
        pricingModel := priced.pricingModel }

/-- `OCPPUtils.processTransactionPricing`; without a pricing component nothing is priced. -/
def processTransactionPricing (pricingImpl : Option PricingIntegration)
    (transaction : Transaction) (consumption : Consumption) (action : TransactionAction) :
    Except String (Transaction × Consumption) :=
  match pricingImpl with
  | none => .ok (transaction, consumption)
  | some pricingImpl =>
      match action with
      | .start => do
          let priced ← pricingImpl.startSession transaction consumption
          let (transaction, consumption) := updateCumulatedAmounts transaction consumption priced
          return (setInitialPricing transaction priced, consumption)
      | .update => do
          let priced ← pricingImpl.updateSession transaction consumption
          return updateCumulatedAmounts (updatePricingModel transaction priced) consumption priced
      | .stop => do
          let priced ← pricingImpl.stopSession transaction consumption
          return updateCumulatedAmounts (updatePricingModel transaction priced) consumption priced
      | .end => do
          let priced ← pricingImpl.endSession transaction consumption
          return updateCumulatedAmounts (updatePricingModel transaction priced) consumption priced

end OCPPUtils

/-- What the pricer reads of a consumption; one that is priced has a start. -/
def Consumption.pricerInput (consumption : Consumption) : PricerInput :=
  { startedAt := consumption.startedAt.getD consumption.endedAt
    endedAt := consumption.endedAt
    consumptionWh := consumption.consumptionWh.getD 0
    cumulatedConsumptionWh := consumption.cumulatedConsumptionWh.getD 0
    totalDurationSecs := consumption.totalDurationSecs.getD 0
    totalInactivitySecs := consumption.totalInactivitySecs.getD 0
    inactivitySecs := consumption.inactivitySecs.getD 0 }

namespace BuiltInPricingIntegration

/-- What the built-in pricing needs to know. -/
structure Settings where
  zoneTime : String → Timestamp → LocalTime
  currency : String
  /-- `resolvePricingContext`: the definitions that apply to the transaction. -/
  resolvePricingContext : Transaction → ResolvedPricingModel

/-- The call that prices a consumption, the same for all actions: the model is resolved
when the transaction has none, which should happen only on the first call. -/
def priceTransaction (settings : Settings) (transaction : Transaction)
    (consumption : Consumption) : Except String (Option PricedConsumption) := do
  let pricingModel := transaction.pricingModel.getD (settings.resolvePricingContext transaction)
  let priced ← computePrice settings.zoneTime settings.currency pricingModel
    consumption.pricerInput
  return some priced

/-- `BuiltInPricingIntegration`. -/
def pricingImpl (settings : Settings) : PricingIntegration where
  startSession := priceTransaction settings
  updateSession := priceTransaction settings
  stopSession := priceTransaction settings
  endSession := priceTransaction settings

/-- Every call after the first one updates the model and the amounts alike. -/
theorem priceTransaction_of_later {settings : Settings} {transaction transaction' : Transaction}
    {consumption consumption' : Consumption} {action : TransactionAction}
    (h : OCPPUtils.processTransactionPricing (some (pricingImpl settings)) transaction
      consumption action = .ok (transaction', consumption'))
    (later : action ≠ .start) :
    ∃ pricedConsumption, priceTransaction settings transaction consumption =
        .ok pricedConsumption ∧
      OCPPUtils.updateCumulatedAmounts (OCPPUtils.updatePricingModel transaction pricedConsumption)
        consumption pricedConsumption = (transaction', consumption') := by
  cases action with
  | start => exact absurd rfl later
  | update | stop | «end» =>
      obtain ⟨pricedConsumption, hpriced, h⟩ := Outcome.bind_eq_ok.mp h
      exact ⟨pricedConsumption, hpriced, Outcome.pure_eq_ok_iff.mp h⟩

end BuiltInPricingIntegration

end EvServer
