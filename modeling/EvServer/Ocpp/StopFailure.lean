import EvServer.Ocpp.StopHandler
import EvServer.Ocpp.TransactionIdentity

/-!
# What a failed `StopTransaction` leaves in the database

A request that the checks reject leaves everything as it was.  After the checks the
handler writes three times: the charging station with the connector freed, the last
consumption (there is at most one, because all meter values of the stop have its
timestamp) and the transaction.  What throws after a write leaves the write behind, so
the step that fails says what is stored then.
-/

namespace EvServer

/-! ## The last consumption -/

namespace OCPPUtils

/-- At most one consumption, with the given end. -/
def AtMostOneAt (timestamp : Timestamp) (consumptions : List Consumption) : Prop :=
  consumptions = [] ∨ ∃ consumption, consumptions = [consumption] ∧ consumption.endedAt = timestamp

/-- Meter values of one timestamp end up in one consumption. -/
theorem ReadsAll.atMostOneAt {transaction transaction' : Transaction}
    {consumptions consumptions' : List Consumption} {timestamp : Timestamp}
    {meterValues : List OCPPNormalizedMeterValue}
    (h : ReadsAll transaction consumptions meterValues transaction' consumptions')
    (same : ∀ meterValue ∈ meterValues, meterValue.timestamp = timestamp)
    (init : AtMostOneAt timestamp consumptions) : AtMostOneAt timestamp consumptions' := by
  induction h with
  | nil => exact init
  | invalid _ _ ih => exact ih (fun value mem => same value (List.mem_cons_of_mem _ mem)) init
  | past _ _ _ ih => exact ih (fun value mem => same value (List.mem_cons_of_mem _ mem)) init
  | @read _ consumptions meterValue _ _ consumption _ _ _ _ reads _ ih =>
      refine ih (fun value mem => same value (List.mem_cons_of_mem _ mem)) (.inr ?_)
      have ended : consumption.endedAt = timestamp :=
        reads.endedAt.trans (same meterValue List.mem_cons_self)
      rcases init with rfl | ⟨existing, rfl, hexisting⟩
      · exact ⟨consumption, rfl, ended⟩
      · refine ⟨mergeConsumption existing consumption, ?_, ended⟩
        exact if_pos (hexisting.trans ended.symm)

/-- The meter values of a stop have its timestamp. -/
theorem timestamp_of_mem_stopMeterValues {chargingStation : ChargingStation}
    {transaction : Transaction} {stopTransaction : OCPPStopTransactionRequest}
    {meterValue : OCPPNormalizedMeterValue}
    (h : meterValue ∈ createTransactionStopMeterValues chargingStation transaction
      stopTransaction) : meterValue.timestamp = stopTransaction.timestamp := by
  have perPhase {attributes : OCPPAttribute} {perTotal : ℚ → ℚ} {values : PerPhase ℚ}
      (mem : meterValue ∈ stopMeterValuesPerPhase stopTransaction.timestamp attributes perTotal
        values) : meterValue.timestamp = stopTransaction.timestamp := by
    simp only [stopMeterValuesPerPhase, List.mem_append, List.mem_ite_nil_right,
      List.mem_singleton] at mem
    rcases mem with ((⟨-, rfl⟩ | ⟨-, rfl⟩) | ⟨-, rfl⟩) | ⟨-, rfl⟩ <;> rfl
  simp only [createTransactionStopMeterValues, List.mem_append, List.mem_ite_nil_right,
    List.mem_singleton] at h
  rcases h with (((rfl | ⟨-, rfl⟩) | mem) | mem) | mem
  · rfl
  · rfl
  · exact perPhase mem
  · exact perPhase mem
  · exact perPhase mem

/-- **The stop adds at most one consumption.** -/
theorem length_stopConsumptions_le_one {context : MeteringContext}
    {chargingStation : ChargingStation} {transaction transaction' : Transaction}
    {stopTransaction : OCPPStopTransactionRequest} {consumptions : List Consumption}
    (h : createConsumptionsFromMeterValues context chargingStation transaction
      (createTransactionStopMeterValues chargingStation transaction stopTransaction) =
        .ok (transaction', consumptions)) : consumptions.length ≤ 1 := by
  obtain ⟨unsorted, reads, sorted⟩ := createConsumptions_ok h
  have one := reads.atMostOneAt (fun _ => timestamp_of_mem_stopMeterValues) (.inl rfl)
  rw [(perm_of_sortConsumptions sorted).length_eq, List.length_map]
  rcases one with rfl | ⟨_, rfl, -⟩
  · exact Nat.zero_le 1
  · exact le_rfl

end OCPPUtils

namespace OCPPService

/-! ## The part that writes, step by step -/

/-- The consumption of the stop, if there is one, as it is stored; with it the
transaction. -/
def priceStopConsumption (context : StopContext) (chargingStation : ChargingStation)
    (transaction : Transaction) :
    Option Consumption → Except String (Transaction × Option Consumption)
  | none => return (transaction, none)
  | some consumption => do
      let (transaction, consumption) ←
        applyStopConsumption context chargingStation transaction consumption
      let consumptionMDB ← ConsumptionStorage.buildConsumptionMDB consumption
      return (transaction, some consumptionMDB)

/-- The transaction with its last consumption, and the consumption as it is stored. -/
def lastConsumption (context : StopContext) (chargingStation : ChargingStation)
    (transaction : Transaction) (stopTransaction : OCPPStopTransactionRequest) :
    Except String (Transaction × Option Consumption) :=
  if transaction.transactionEndReceived then
    return (addStopInactivity transaction stopTransaction, none)
  else do
    let (transaction, consumptions) ← OCPPUtils.createConsumptionsFromMeterValues context.metering
      chargingStation transaction
      (OCPPUtils.createTransactionStopMeterValues chargingStation transaction stopTransaction)
    priceStopConsumption context chargingStation transaction consumptions.head?

theorem sameSession_lastConsumption {context : StopContext} {chargingStation : ChargingStation}
    {transaction : Transaction} {stopTransaction : OCPPStopTransactionRequest}
    {consumed : Transaction × Option Consumption}
    (h : lastConsumption context chargingStation transaction stopTransaction = .ok consumed) :
    SameSession transaction consumed.1 := by
  unfold lastConsumption at h
  split at h
  · cases h
    unfold addStopInactivity
    split
    · exact .refl transaction
    · dsimp only
      split <;> exact ⟨rfl, rfl, rfl, rfl⟩
  · obtain ⟨⟨between, consumptions⟩, hcreated, h⟩ := Outcome.bind_eq_ok.mp h
    have created := OCPPUtils.sameSession_createConsumptionsFromMeterValues hcreated
    dsimp only at h
    cases hhead : consumptions.head? with
    | none =>
      rw [hhead] at h
      cases h
      exact created
    | some consumption =>
      rw [hhead] at h
      obtain ⟨applied, happlied, h⟩ := Outcome.bind_eq_ok.mp h
      obtain ⟨_, -, h⟩ := Outcome.bind_eq_ok.mp h
      cases h
      refine created.trans ?_
      have updated : SameSession between (OCPPUtils.updateTransactionWithConsumption
          context.metering.now chargingStation between consumption) := ⟨rfl, rfl, rfl, rfl⟩
      unfold applyStopConsumption at happlied
      dsimp only at happlied
      split at happlied
      · exact updated.trans (OCPPUtils.sameSession_processTransactionPricing happlied)
      · cases happlied
        exact updated

theorem unmeasured_signedData (transaction : Transaction)
    (stopTransaction : OCPPStopTransactionRequest) :
    (checkAndUpdateTransactionWithSignedDataInStopTransaction transaction
      stopTransaction).unmeasured = transaction.unmeasured := by
  unfold checkAndUpdateTransactionWithSignedDataInStopTransaction
  induction stopTransaction.transactionData generalizing transaction with
  | nil => rfl
  | cons sampledValue rest ih =>
      rw [List.foldl_cons, ih]
      split
      · split <;> rfl
      · rfl

theorem sameSession_signedData (transaction : Transaction)
    (stopTransaction : OCPPStopTransactionRequest) :
    SameSession transaction
      (checkAndUpdateTransactionWithSignedDataInStopTransaction transaction stopTransaction) :=
  .of_eq Transaction.unmeasured (fun _ => ⟨rfl, rfl, rfl, rfl⟩)
    (unmeasured_signedData transaction stopTransaction)

/-- The transaction that the handler stops keeps its ID and is stopped. -/
theorem stopTransactionWith_ok {context : StopContext} {attempt : StopAttempt}
    {stopTransaction : OCPPStopTransactionRequest} {chargingStation : ChargingStation}
    {isSoftStop : Bool} {transaction stopped : Transaction}
    (h : stopTransactionWith context attempt stopTransaction chargingStation isSoftStop
      transaction = .ok stopped) : stopped.id = transaction.id ∧ stopped.stop.isSome := by
  obtain ⟨billed, hbilled, h⟩ := Outcome.bind_eq_ok.mp h
  cases h
  have same := OCPPUtils.sameSession_processTransactionBilling hbilled
  refine ⟨same.id.trans (sameSession_signedData transaction stopTransaction).id, ?_⟩
  rw [same.stop]
  rfl

/-- Save the last consumption, if there is one. -/
def saveLastConsumption (database : Database) : Option Consumption → StoreHandler Unit
  | none => return ()
  | some consumptionMDB => Handler.write (database .saveConsumption) fun store =>
      { store with consumptions := store.consumptions.save consumptionMDB }

/-- The loop over the consumptions of the stop is over before it could throw with one of
them saved. -/
theorem foldlM_stopConsumptions (context : StopContext) (chargingStation : ChargingStation)
    (transaction : Transaction) {consumptions : List Consumption}
    (one : consumptions.length ≤ 1) :
    consumptions.foldlM (fun transaction consumption => (do
      let (transaction, consumption) ← Handler.ofExcept
        (applyStopConsumption context chargingStation transaction consumption)
      ConsumptionStorage.saveConsumption context.database consumption
      return transaction : StoreHandler Transaction)) transaction =
    (do
      let (transaction, consumption) ← Handler.ofExcept
        (priceStopConsumption context chargingStation transaction consumptions.head?)
      saveLastConsumption context.database consumption
      return transaction) := by
  cases consumptions with
  | nil =>
      simp only [List.foldlM_nil, List.head?_nil, priceStopConsumption, Handler.ofExcept_pure,
        saveLastConsumption, pure_bind]
  | cons consumption rest =>
      have none_left : rest = [] := List.length_eq_zero_iff.mp (by simpa using one)
      simp only [none_left, List.foldlM_cons, List.foldlM_nil, List.head?_cons,
        priceStopConsumption, ConsumptionStorage.saveConsumption, Handler.ofExcept_bind,
        Handler.ofExcept_pure, saveLastConsumption, bind_assoc, pure_bind]

theorem checkAndApplyLastConsumption_eq (context : StopContext)
    (chargingStation : ChargingStation) (transaction : Transaction)
    (stopTransaction : OCPPStopTransactionRequest) :
    checkAndApplyLastConsumptionInStopTransaction context chargingStation transaction
        stopTransaction =
      (do
        let (transaction, consumption) ← Handler.ofExcept
          (lastConsumption context chargingStation transaction stopTransaction)
        saveLastConsumption context.database consumption
        return transaction) := by
  unfold checkAndApplyLastConsumptionInStopTransaction lastConsumption
  split
  · rfl
  · simp only [Handler.ofExcept_bind, bind_assoc]
    cases hcreate : OCPPUtils.createConsumptionsFromMeterValues context.metering chargingStation
        transaction (OCPPUtils.createTransactionStopMeterValues chargingStation transaction
          stopTransaction) with
    | error e => rfl
    | ok created =>
        have one := OCPPUtils.length_stopConsumptions_le_one hcreate
        have loop := foldlM_stopConsumptions context chargingStation created.1 one
        exact loop

end OCPPService

namespace StopAttempt

open OCPPService

/-- The charging station with the connector freed. -/
def freed (attempt : StopAttempt) : ChargingStation :=
  OCPPUtils.clearChargingStationConnectorRuntimeData attempt.chargingStation
    attempt.transaction.connectorId

/-- The request with the value of a soft stop. -/
def request (attempt : StopAttempt) (isSoftStop : Bool) : OCPPStopTransactionRequest :=
  checkSoftStopTransaction attempt.transaction attempt.stopTransaction isSoftStop

/-- The transaction with its last consumption, and the consumption as it is stored. -/
def consumed (attempt : StopAttempt) (context : StopContext) (isSoftStop : Bool) :
    Except String (Transaction × Option Consumption) :=
  lastConsumption context attempt.freed attempt.transaction (attempt.request isSoftStop)

/-- The stopped transaction. -/
def stopped (attempt : StopAttempt) (context : StopContext) (isSoftStop : Bool)
    (transaction : Transaction) : Except String Transaction :=
  stopTransactionWith context attempt (attempt.request isSoftStop) attempt.freed isSoftStop
    transaction

end StopAttempt

namespace OCPPService

/-- The part of the handler that writes, with at most one consumption. -/
theorem applyStopTransaction_eq (context : StopContext) (attempt : StopAttempt)
    (isSoftStop : Bool) :
    applyStopTransaction context attempt isSoftStop =
      (do
        ChargingStationStorage.saveChargingStation context.database attempt.freed
        let (transaction, consumption) ← Handler.ofExcept (attempt.consumed context isSoftStop)
        saveLastConsumption context.database consumption
        let transaction ← Handler.ofExcept (attempt.stopped context isSoftStop transaction)
        Handler.ofExcept (OCPPUtils.processTransactionRoaming context.accessControl
          context.roaming transaction .stop)
        TransactionStorage.saveTransaction context.database transaction
        Handler.ofExcept (context.deleteAllTransactionTxProfile transaction)
        return .accepted) := by
  simp only [applyStopTransaction, checkAndApplyLastConsumption_eq, bind_assoc, pure_bind]
  rfl

/-- The steps that may fail after the checks. -/
inductive StopFailure
  | savingChargingStation
  /-- The last consumption is not created, priced or saved. -/
  | addingConsumption
  /-- The roaming is not told, or the transaction is not saved. -/
  | savingTransaction
  | deletingChargingProfiles
  deriving DecidableEq, Repr

/-- The step that fails among the last ones, by their outcomes. -/
def failureOfOutcomes (roaming saveTransaction deleteTxProfile : Except String Unit) :
    Option StopFailure :=
  match roaming, saveTransaction, deleteTxProfile with
  | .ok _, .ok _, .ok _ => none
  | .ok _, .ok _, .error _ => some .deletingChargingProfiles
  | _, _, _ => some .savingTransaction

end OCPPService

namespace StopAttempt

open OCPPService

/-- The step that fails once the last consumption has been saved, if one does. -/
def failureToStop (attempt : StopAttempt) (context : StopContext) (isSoftStop : Bool)
    (transaction : Transaction) : Option StopFailure :=
  match attempt.stopped context isSoftStop transaction with
  | .error _ => some .savingTransaction
  | .ok transaction =>
      failureOfOutcomes
        (OCPPUtils.processTransactionRoaming context.accessControl context.roaming transaction
          .stop)
        (context.database .saveTransaction) (context.deleteAllTransactionTxProfile transaction)

/-- The step that fails, if one does. -/
def failure (attempt : StopAttempt) (context : StopContext) (isSoftStop : Bool) :
    Option StopFailure :=
  match context.database .saveChargingStation, attempt.consumed context isSoftStop with
  | .error _, _ => some .savingChargingStation
  | .ok _, .error _ => some .addingConsumption
  | .ok _, .ok (transaction, consumption) =>
      match consumption, context.database .saveConsumption with
      | some _, .error _ => some .addingConsumption
      | _, _ => attempt.failureToStop context isSoftStop transaction

/-- The last consumption as it is stored. -/
def consumption (attempt : StopAttempt) (context : StopContext) (isSoftStop : Bool) :
    Option Consumption :=
  (attempt.consumed context isSoftStop).toOption.bind Prod.snd

/-- The stopped transaction, when the handler gets there. -/
def stoppedTransaction (attempt : StopAttempt) (context : StopContext) (isSoftStop : Bool) :
    Option Transaction :=
  (attempt.consumed context isSoftStop).toOption.bind fun consumed =>
    (attempt.stopped context isSoftStop consumed.1).toOption

/-- The store with the connector freed. -/
def freeConnector (attempt : StopAttempt) (store : Store) : Store :=
  { store with chargingStations := store.chargingStations.save attempt.freed }

/-- The store with the consumption. -/
def addConsumption (consumption : Option Consumption) (store : Store) : Store :=
  { store with consumptions := consumption.elim store.consumptions store.consumptions.save }

/-- The store with the stopped transaction. -/
def saveStopped (transaction : Option Transaction) (store : Store) : Store :=
  { store with
    transactions := transaction.elim store.transactions fun transaction =>
      store.transactions.save (TransactionStorage.transactionMDB transaction) }

/-- What is stored when a step has failed, or none. -/
def storeAfter (attempt : StopAttempt) (context : StopContext) (isSoftStop : Bool)
    (store : Store) : Option StopFailure → Store
  | some .savingChargingStation => store
  | some .addingConsumption => attempt.freeConnector store
  | some .savingTransaction =>
      addConsumption (attempt.consumption context isSoftStop) (attempt.freeConnector store)
  | some .deletingChargingProfiles | none =>
      saveStopped (attempt.stoppedTransaction context isSoftStop)
        (addConsumption (attempt.consumption context isSoftStop) (attempt.freeConnector store))

end StopAttempt

namespace OCPPService

/-- The answer of a part of the handler in which the given step fails, or none. -/
def Answers (answer : Except String OCPPAuthorizationStatus) (failure : Option StopFailure) :
    Prop :=
  answer = .ok .accepted ∧ failure = none ∨ answer.isOk = false ∧ failure ≠ none

/-- The last steps, by their outcomes. -/
theorem outcomes_spec (roaming saveTransaction deleteTxProfile : Except String Unit)
    (save : Store → Store) (store : Store) :
    let result := (do
      Handler.ofExcept roaming
      Handler.write saveTransaction save
      Handler.ofExcept deleteTxProfile
      return .accepted : StoreHandler OCPPAuthorizationStatus) store
    Answers result.1 (failureOfOutcomes roaming saveTransaction deleteTxProfile) ∧
      result.2 =
        if failureOfOutcomes roaming saveTransaction deleteTxProfile = some .savingTransaction
        then store else save store := by
  cases roaming with
  | error e => exact ⟨.inr ⟨rfl, nofun⟩, rfl⟩
  | ok _ =>
    cases saveTransaction with
    | error e => exact ⟨.inr ⟨rfl, nofun⟩, rfl⟩
    | ok _ =>
      cases deleteTxProfile with
      | error e => exact ⟨.inr ⟨rfl, nofun⟩, rfl⟩
      | ok _ => exact ⟨.inl ⟨rfl, rfl⟩, rfl⟩

/-- The last steps, from the end of the transaction on. -/
theorem stop_spec (context : StopContext) (attempt : StopAttempt) (isSoftStop : Bool)
    (transaction : Transaction) (store : Store) :
    let result := (do
      let transaction ← Handler.ofExcept (attempt.stopped context isSoftStop transaction)
      Handler.ofExcept (OCPPUtils.processTransactionRoaming context.accessControl context.roaming
        transaction .stop)
      TransactionStorage.saveTransaction context.database transaction
      Handler.ofExcept (context.deleteAllTransactionTxProfile transaction)
      return .accepted : StoreHandler OCPPAuthorizationStatus) store
    Answers result.1 (attempt.failureToStop context isSoftStop transaction) ∧
      result.2 =
        if attempt.failureToStop context isSoftStop transaction = some .savingTransaction
        then store
        else StopAttempt.saveStopped
          (attempt.stopped context isSoftStop transaction).toOption store := by
  unfold StopAttempt.failureToStop
  cases attempt.stopped context isSoftStop transaction with
  | error e => exact ⟨.inr ⟨rfl, nofun⟩, rfl⟩
  | ok stopped => exact outcomes_spec _ _ _ _ store

theorem failureToStop_cases (attempt : StopAttempt) (context : StopContext) (isSoftStop : Bool)
    (transaction : Transaction) :
    attempt.failureToStop context isSoftStop transaction = none ∨
      attempt.failureToStop context isSoftStop transaction = some .savingTransaction ∨
      attempt.failureToStop context isSoftStop transaction = some .deletingChargingProfiles := by
  unfold StopAttempt.failureToStop failureOfOutcomes
  split
  · exact .inr (.inl rfl)
  · split
    · exact .inl rfl
    · exact .inr (.inr rfl)
    · exact .inr (.inl rfl)

theorem storeAfter_failureToStop {context : StopContext} {attempt : StopAttempt}
    {isSoftStop : Bool} {transaction : Transaction} {consumption : Option Consumption}
    (consumed : attempt.consumed context isSoftStop = .ok (transaction, consumption))
    (store : Store) :
    attempt.storeAfter context isSoftStop store
        (attempt.failureToStop context isSoftStop transaction) =
      if attempt.failureToStop context isSoftStop transaction = some .savingTransaction then
        StopAttempt.addConsumption consumption (attempt.freeConnector store)
      else StopAttempt.saveStopped (attempt.stopped context isSoftStop transaction).toOption
        (StopAttempt.addConsumption consumption (attempt.freeConnector store)) := by
  rcases failureToStop_cases attempt context isSoftStop transaction with h | h | h <;>
    rw [h] <;>
    simp [StopAttempt.storeAfter, StopAttempt.consumption, StopAttempt.stoppedTransaction,
      consumed, Except.toOption]

/-- **What the handler does after the checks**: the step that fails decides both the answer
and what is stored. -/
theorem applyStopTransaction_spec (context : StopContext) (attempt : StopAttempt)
    (isSoftStop : Bool) (store : Store) :
    Answers (applyStopTransaction context attempt isSoftStop store).1
        (attempt.failure context isSoftStop) ∧
      (applyStopTransaction context attempt isSoftStop store).2 =
        attempt.storeAfter context isSoftStop store (attempt.failure context isSoftStop) := by
  rw [applyStopTransaction_eq]
  unfold ChargingStationStorage.saveChargingStation StopAttempt.failure
  cases hstation : context.database .saveChargingStation with
  | error e => exact ⟨.inr ⟨rfl, nofun⟩, rfl⟩
  | ok _ =>
    rw [Handler.write_ok_bind]
    cases hconsumed : attempt.consumed context isSoftStop with
    | error e => exact ⟨.inr ⟨rfl, nofun⟩, rfl⟩
    | ok consumed =>
      obtain ⟨transaction, consumption⟩ := consumed
      rw [Handler.ofExcept_ok_bind]
      have tail := stop_spec context attempt isSoftStop transaction
        (StopAttempt.addConsumption consumption (attempt.freeConnector store))
      rw [← storeAfter_failureToStop hconsumed] at tail
      cases consumption with
      | none => exact tail
      | some consumptionMDB =>
        dsimp only [saveLastConsumption]
        cases context.database .saveConsumption with
        | error e => exact ⟨.inr ⟨rfl, nofun⟩, rfl⟩
        | ok _ => exact tail

end OCPPService

end EvServer
