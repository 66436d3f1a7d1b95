import EvServer.Ocpp.Transaction

/-!
# How a transaction is stored (`TransactionStorage`)

A transaction is stored as a whole document, without the properties that say where a
running session stands once it is stopped.  The billing data alone can also be stored.

The user of a transaction is not stored with it; whether it is one of the own users is
found out when the transaction is read, and does not change.
-/

namespace EvServer

namespace TransactionStorage

/-- The document without the runtime properties. -/
def removeRuntimeProps (transaction : Transaction) : Transaction :=
  { transaction with
    currentInstantWatts := .const 0
    currentInstantVolts := .const 0
    currentInstantAmps := .const 0
    currentCumulatedPrice := 0
    currentCumulatedRoundedPrice := 0
    currentSignedData := none
    currentStateOfCharge := 0
    currentTotalConsumptionWh := 0
    currentTotalInactivitySecs := 0
    currentTotalDurationSecs := 0
    currentInactivityStatus := .info
    lastConsumption := none
    numberOfMeterValues := 0
    transactionEndReceived := false }

/-- The document that `saveTransaction` writes in the place of the stored one. -/
def transactionMDB (transactionToSave : Transaction) : Transaction :=
  let document :=
    { transactionToSave with
      currentConsumptionWh := 0
      currentTimestamp := none
      stop := transactionToSave.stop.map fun stop =>
        { stop with priceUnit := transactionToSave.priceUnit } }
  if transactionToSave.stop.isSome then removeRuntimeProps document else document

/-- The document after `saveTransactionBillingData`. -/
def saveTransactionBillingData (stored : Transaction) (billingData : Option TransactionBillingData) :
    Transaction :=
  { stored with billingData := billingData }

@[simp] theorem billingData_transactionMDB (transaction : Transaction) :
    (transactionMDB transaction).billingData = transaction.billingData := by
  unfold transactionMDB
  split <;> rfl

/-- The stop part is stored as it is, up to the unit of the price. -/
theorem stop_transactionMDB (transaction : Transaction) :
    (transactionMDB transaction).stop =
      transaction.stop.map fun stop => { stop with priceUnit := transaction.priceUnit } := by
  unfold transactionMDB
  split <;> rfl

end TransactionStorage

end EvServer
