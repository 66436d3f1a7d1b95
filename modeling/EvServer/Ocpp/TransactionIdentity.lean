import EvServer.Billing.TransactionBilling

/-!
# What a session never changes

Whatever is metered, priced or billed, a transaction stays the one of its charging station
and its connector, and runs as long as nobody stops it.
-/

namespace EvServer

/-- The same transaction, at the same place, running or stopped as before. -/
structure SameSession (transaction transaction' : Transaction) : Prop where
  id : transaction'.id = transaction.id
  chargeBoxID : transaction'.chargeBoxID = transaction.chargeBoxID
  connectorId : transaction'.connectorId = transaction.connectorId
  stop : transaction'.stop = transaction.stop

namespace SameSession

variable {transaction transaction' transaction'' : Transaction}

theorem refl (transaction : Transaction) : SameSession transaction transaction :=
  ⟨rfl, rfl, rfl, rfl⟩

theorem trans (first : SameSession transaction transaction')
    (second : SameSession transaction' transaction'') : SameSession transaction transaction'' :=
  ⟨second.id.trans first.id, second.chargeBoxID.trans first.chargeBoxID,
    second.connectorId.trans first.connectorId, second.stop.trans first.stop⟩

/-- Transactions that are the same without some other properties. -/
theorem of_eq (without : Transaction → Transaction)
    (keeps : ∀ transaction, SameSession transaction (without transaction))
    (same : without transaction' = without transaction) : SameSession transaction transaction' := by
  have before := keeps transaction
  have after := keeps transaction'
  rw [same] at after
  exact ⟨after.id.symm.trans before.id, after.chargeBoxID.symm.trans before.chargeBoxID,
    after.connectorId.symm.trans before.connectorId, after.stop.symm.trans before.stop⟩

end SameSession

namespace OCPPUtils

theorem sameSession_createConsumptionFromMeterValue {context : MeteringContext}
    {chargingStation : ChargingStation} {transaction : Transaction}
    {lastConsumption : Option LastConsumption} {meterValue : OCPPNormalizedMeterValue}
    {created : Transaction × Consumption}
    (h : createConsumptionFromMeterValue context chargingStation transaction lastConsumption
      meterValue = .ok created) : SameSession transaction created.1 :=
  .of_eq Transaction.unmetered (fun _ => ⟨rfl, rfl, rfl, rfl⟩)
    (unmetered_createConsumptionFromMeterValue h)

theorem sameSession_createConsumptionsFromMeterValues {context : MeteringContext}
    {chargingStation : ChargingStation} {transaction : Transaction}
    {meterValues : List OCPPNormalizedMeterValue} {created : Transaction × List Consumption}
    (h : createConsumptionsFromMeterValues context chargingStation transaction meterValues =
      .ok created) : SameSession transaction created.1 :=
  .of_eq Transaction.unmetered (fun _ => ⟨rfl, rfl, rfl, rfl⟩)
    (unmetered_createConsumptionsFromMeterValues h)

theorem sameSession_processTransactionPricing {pricingImpl : Option PricingIntegration}
    {transaction : Transaction} {consumption : Consumption} {action : TransactionAction}
    {priced : Transaction × Consumption}
    (h : processTransactionPricing pricingImpl transaction consumption action = .ok priced) :
    SameSession transaction priced.1 :=
  .of_eq Transaction.unpriced (fun _ => ⟨rfl, rfl, rfl, rfl⟩)
    (unpriced_processTransactionPricing h)

/-- **The billing of a transaction.** -/
theorem unbilled_processTransactionBilling {billingImpl : Option BillingIntegration}
    {transaction : Transaction} {action : TransactionAction} {billed : Transaction × Bool}
    (h : processTransactionBilling billingImpl transaction action = .ok billed) :
    billed.1.unbilled = transaction.unbilled := by
  unfold processTransactionBilling at h
  split at h
  · cases h
    rfl
  · split at h
    · cases h
      rfl
    · cases action with
      | start =>
          obtain ⟨withBillingActive, -, h⟩ := Outcome.bind_eq_ok.mp h
          cases h
          rfl
      | update =>
          cases h
          rfl
      | stop | «end» =>
          dsimp only at h
          split at h <;> cases h <;> rfl

theorem sameSession_processTransactionBilling {billingImpl : Option BillingIntegration}
    {transaction : Transaction} {action : TransactionAction} {billed : Transaction × Bool}
    (h : processTransactionBilling billingImpl transaction action = .ok billed) :
    SameSession transaction billed.1 :=
  .of_eq Transaction.unbilled (fun _ => ⟨rfl, rfl, rfl, rfl⟩)
    (unbilled_processTransactionBilling h)

end OCPPUtils

end EvServer
