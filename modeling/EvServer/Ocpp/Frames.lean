import EvServer.Ocpp.MeterRegister
import EvServer.Ocpp.MeterValues

/-!
# What a transaction is changed in

Meter values, readings of the energy register, the pricing and the billing each change some
properties of a transaction and no others.  Without the properties that a function may change,
the transaction is the same before and after it.
-/

namespace EvServer

namespace Transaction

/-- The transaction without what `updateTransactionWithMeterValues` changes. -/
def unmeasured (transaction : Transaction) : Transaction :=
  { transaction with
    numberOfMeterValues := 0
    signedData := ""
    currentSignedData := none
    stateOfCharge := 0
    currentStateOfCharge := 0
    currentInstantWatts := .const 0
    currentInstantVolts := .const 0
    currentInstantAmps := .const 0
    transactionEndReceived := false }

/-- The transaction without what `createConsumptionsFromMeterValues` changes. -/
def unmetered (transaction : Transaction) : Transaction :=
  { transaction with
    lastConsumption := none
    currentTotalConsumptionWh := 0
    currentTotalInactivitySecs := 0 }

/-- The transaction without what `processTransactionPricing` changes. -/
def unpriced (transaction : Transaction) : Transaction :=
  { transaction with
    price := 0
    roundedPrice := 0
    priceUnit := none
    pricingSource := none
    pricingModel := none
    currentCumulatedPrice := 0
    currentCumulatedRoundedPrice := 0 }

/-- The transaction without what `processTransactionBilling` changes. -/
def unbilled (transaction : Transaction) : Transaction := { transaction with billingData := none }

end Transaction

/-- The consumption without what `processTransactionPricing` changes. -/
def Consumption.unpriced (consumption : Consumption) : Consumption :=
  { consumption with
    cumulatedAmount := none
    amount := none
    roundedAmount := none
    currencyCode := none
    pricingSource := none }

namespace OCPPService

variable {chargingStation : ChargingStation} {transaction transaction' : Transaction}

theorem unmeasured_updateSignedData (transaction : Transaction) (attributes : OCPPAttribute)
    (value : MeterValueData) :
    (OCPPUtils.updateSignedData transaction attributes value).1.unmeasured =
      transaction.unmeasured := by
  unfold OCPPUtils.updateSignedData
  dsimp only
  split
  · split <;> rfl
  · rfl

theorem unmeasured_updateTransactionEnd {attributes : OCPPAttribute}
    {meterValue : OCPPNormalizedMeterValue}
    (h : updateTransactionWithTransactionEnd chargingStation transaction attributes meterValue =
      some transaction') : transaction'.unmeasured = transaction.unmeasured := by
  unfold updateTransactionWithTransactionEnd at h
  dsimp only at h
  split at h <;> cases h <;> rfl

/-- **A meter value.** -/
theorem unmeasured_updateTransactionWithMeterValue {meterValue : OCPPNormalizedMeterValue}
    (h : updateTransactionWithMeterValue chargingStation transaction meterValue =
      .ok transaction') : transaction'.unmeasured = transaction.unmeasured := by
  unfold updateTransactionWithMeterValue at h
  split at h
  · cases h
  rename_i attributes _
  dsimp only at h
  generalize hflagged : (if attributes.context = some .transactionEnd ∧
      ¬ transaction.transactionEndReceived then _ else _) = flagged at h
  have first : flagged.unmeasured = transaction.unmeasured := by
    rw [← hflagged]
    split <;> rfl
  have signed := (unmeasured_updateSignedData flagged attributes meterValue.value).trans first
  split at h
  · cases h
    exact signed
  · split at h
    · rename_i ended
      cases h
      exact (unmeasured_updateTransactionEnd ended).trans signed
    · split at h
      · cases h
        exact signed
      · cases h
        exact signed

/-- **The meter values of a request.** -/
theorem unmeasured_updateTransactionWithMeterValues {meterValues : List OCPPNormalizedMeterValue}
    (h : updateTransactionWithMeterValues chargingStation transaction meterValues =
      .ok transaction') : transaction'.unmeasured = transaction.unmeasured :=
  Outcome.foldlM_invariant (I := fun state => state.unmeasured = transaction.unmeasured)
    (fun _ _ _ same step => (unmeasured_updateTransactionWithMeterValue step).trans same) rfl h

end OCPPService

namespace OCPPUtils

variable {transaction : Transaction}

/-- **A consumption.** -/
theorem unmetered_createConsumptionFromMeterValue {context : MeteringContext}
    {chargingStation : ChargingStation} {lastConsumption : Option LastConsumption}
    {meterValue : OCPPNormalizedMeterValue} {created : Transaction × Consumption}
    (h : createConsumptionFromMeterValue context chargingStation transaction lastConsumption
      meterValue = .ok created) : created.1.unmetered = transaction.unmetered := by
  rcases createConsumption_cases h with ⟨-, -, -, -, -, rfl⟩ | ⟨-, limited, _, -, rfl⟩
  · rfl
  · simp only [applyEnergyReading]
    split <;> rfl

/-- **The consumptions of a request.** -/
theorem unmetered_createConsumptionsFromMeterValues {context : MeteringContext}
    {chargingStation : ChargingStation} {meterValues : List OCPPNormalizedMeterValue}
    {created : Transaction × List Consumption}
    (h : createConsumptionsFromMeterValues context chargingStation transaction meterValues =
      .ok created) : created.1.unmetered = transaction.unmetered := by
  obtain ⟨looped, hloop, h⟩ := Outcome.bind_eq_ok.mp h
  obtain ⟨sorted, -, h⟩ := Outcome.bind_eq_ok.mp h
  cases h
  have kept := foldlM_createConsumptions_invariant
    (I := fun looped _ => looped.unmetered = transaction.unmetered)
    (fun _ _ _ _ same hcreated => (unmetered_createConsumptionFromMeterValue hcreated).trans same)
    rfl hloop
  exact kept

section Pricing

variable {pricingImpl : Option PricingIntegration} {consumption : Consumption}
variable {action : TransactionAction} {priced : Transaction × Consumption}

/-- **The pricing of a consumption.** -/
theorem unpriced_of_processTransactionPricing
    (h : processTransactionPricing pricingImpl transaction consumption action = .ok priced) :
    priced.1.unpriced = transaction.unpriced ∧ priced.2.unpriced = consumption.unpriced := by
  unfold processTransactionPricing at h
  split at h
  · cases h
    exact ⟨rfl, rfl⟩
  · cases action with
    | start | update | stop | «end» =>
        obtain ⟨pricedConsumption, -, hpriced⟩ := Outcome.bind_eq_ok.mp h
        cases pricedConsumption <;> cases hpriced <;> exact ⟨rfl, rfl⟩

theorem unpriced_processTransactionPricing
    (h : processTransactionPricing pricingImpl transaction consumption action = .ok priced) :
    priced.1.unpriced = transaction.unpriced :=
  (unpriced_of_processTransactionPricing h).1

theorem unpriced_consumption_processTransactionPricing
    (h : processTransactionPricing pricingImpl transaction consumption action = .ok priced) :
    priced.2.unpriced = consumption.unpriced :=
  (unpriced_of_processTransactionPricing h).2

end Pricing

end OCPPUtils

end EvServer
