import EvServer.Lib.Documents
import EvServer.Lib.Handler
import EvServer.Ocpp.TransactionStorage

/-!
# The database (`ChargingStationStorage`, `TransactionStorage`, `ConsumptionStorage`)

Three collections are of interest to the handlers of transactions.  A charging station
and a transaction are found by their ID, and a consumption by a hash of its transaction
and its end, for which the pair itself stands here.

A write to the database may fail, and then changes nothing.
-/

namespace EvServer

/-- What the `_id` of a consumption is a hash of. -/
def Consumption.key (consumption : Consumption) : ℕ × Timestamp :=
  (consumption.transactionId, consumption.endedAt)

/-- The collections. -/
structure Store where
  chargingStations : Collection ChargingStation.id
  transactions : Collection Transaction.id
  consumptions : Collection Consumption.key
  deriving DecidableEq

/-- The writes to the database. -/
inductive DatabaseWrite
  | saveChargingStation
  | saveTransaction
  | saveConsumption
  | deleteTransaction
  deriving DecidableEq, Repr

/-- A handler of requests. -/
abbrev StoreHandler (α : Type) := Handler Store String α

/-- The outcome of each write. -/
abbrev Database := DatabaseWrite → Except String Unit

namespace ChargingStationStorage

/-- `ChargingStationStorage.saveChargingStation`. -/
def saveChargingStation (database : Database) (chargingStationToSave : ChargingStation) :
    StoreHandler Unit :=
  Handler.write (database .saveChargingStation) fun store =>
    { store with chargingStations := store.chargingStations.save chargingStationToSave }

end ChargingStationStorage

namespace ConsumptionStorage

/-- `ConsumptionStorage.buildConsumptionMDB`, for the consumption of a transaction. -/
def buildConsumptionMDB (consumption : Consumption) : Except String Consumption :=
  if consumption.transactionId = 0 then
    .error "Consumption cannot be saved: no Transaction ID or Asset ID provided"
  else
    let toFloat (values : PerPhase (Option JsNumber)) : PerPhase (Option JsNumber) :=
      values.map fun value => some (.num (JsNumber.toFloat value))
    .ok
      { consumption with
        consumptionWh := some (consumption.consumptionWh.getD 0)
        consumptionAmps := some (consumption.consumptionAmps.getD 0)
        cumulatedAmount := some (consumption.cumulatedAmount.getD 0)
        cumulatedConsumptionWh := some (consumption.cumulatedConsumptionWh.getD 0)
        cumulatedConsumptionAmps := some (consumption.cumulatedConsumptionAmps.getD 0)
        amount := some (consumption.amount.getD 0)
        roundedAmount := some (consumption.roundedAmount.getD 0)
        instantWatts := toFloat consumption.instantWatts
        instantAmps := toFloat consumption.instantAmps
        instantVolts := toFloat consumption.instantVolts
        inactivitySecs := some (consumption.inactivitySecs.getD 0)
        totalInactivitySecs := some (consumption.totalInactivitySecs.getD 0)
        totalDurationSecs := some (consumption.totalDurationSecs.getD 0)
        stateOfCharge := consumption.stateOfCharge.map fun value => .num (JsNumber.toFloat value)
        toPrice := none }

/-- `ConsumptionStorage.saveConsumption`. -/
def saveConsumption (database : Database) (consumptionToSave : Consumption) :
    StoreHandler Unit := do
  let consumptionMDB ← Handler.ofExcept (buildConsumptionMDB consumptionToSave)
  Handler.write (database .saveConsumption) fun store =>
    { store with consumptions := store.consumptions.save consumptionMDB }

end ConsumptionStorage

namespace TransactionStorage

/-- `TransactionStorage.saveTransaction`. -/
def saveTransaction (database : Database) (transactionToSave : Transaction) :
    StoreHandler Unit :=
  Handler.write (database .saveTransaction) fun store =>
    { store with transactions := store.transactions.save (transactionMDB transactionToSave) }

/-- `TransactionStorage.deleteTransaction`, with the consumptions of the transaction. -/
def deleteTransaction (database : Database) (transactionID : ℕ) : StoreHandler Unit :=
  Handler.write (database .deleteTransaction) fun store =>
    { store with
      transactions := store.transactions.delete transactionID
      consumptions := store.consumptions.deleteMany fun key => key.1 = transactionID }

@[simp] theorem id_transactionMDB (transaction : Transaction) :
    (transactionMDB transaction).id = transaction.id := by
  unfold transactionMDB
  split <;> rfl

/-- A stopped transaction is stored as one. -/
theorem isSome_stop_transactionMDB (transaction : Transaction) :
    (transactionMDB transaction).stop.isSome = transaction.stop.isSome := by
  rw [stop_transactionMDB, Option.isSome_map]

end TransactionStorage

end EvServer
