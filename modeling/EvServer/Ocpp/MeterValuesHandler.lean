import EvServer.Ocpp.StopHandler
import EvServer.Ocpp.TransactionIdentity

/-!
# The handler of `MeterValues` on the database (`OCPPService.handleMeterValues`)

The transaction that the values are of is the one the connector of the station runs,
whatever transaction the request names.  The handler saves each consumption as soon as it
is priced, then the transaction, and then the charging station with the progress of the
session on its connector.
-/

namespace EvServer

/-- `OCPPMeterValuesRequestExtended`, its values normalized and filtered. -/
structure OCPPMeterValuesRequest where
  connectorId : ℕ
  transactionId : Option ℕ := none
  values : List OCPPNormalizedMeterValue
  deriving DecidableEq

/-- The answers of the other components while a `MeterValues` request is handled, with those
of the database. -/
structure MeterValuesHandlerContext extends MeterValuesContext where
  database : Database := fun _ => .ok ()
  /-- `OCPPStorage.saveMeterValues`. -/
  saveMeterValues : Except String Unit := .ok ()

/-- A request that has passed the checks of the handler. -/
structure MeterValuesAttempt where
  chargingStation : ChargingStation
  transaction : Transaction
  values : List OCPPNormalizedMeterValue

namespace OCPPValidation

/-- `OCPPValidation.validateMeterValues`: the transaction of the connector is always
assigned. -/
def validateMeterValues (chargingStation : ChargingStation) (meterValues : OCPPMeterValuesRequest) :
    OCPPMeterValuesRequest :=
  -- KEBA: Connector ID must be > 0 according to OCPP
  let connectorId := if meterValues.connectorId = 0 then 1 else meterValues.connectorId
  let connectorTransactionID :=
    ((Utils.getConnectorFromID chargingStation connectorId).map (·.currentTransactionID)).getD 0
  { meterValues with
    connectorId := connectorId
    transactionId :=
      match meterValues.transactionId with
      | some _ => some connectorTransactionID
      | none => if 0 < connectorTransactionID then some connectorTransactionID else none }

end OCPPValidation

namespace OCPPService

/-- `getTransactionFromMeterValues`. -/
def getTransactionFromMeterValues (store : Store) (meterValues : OCPPMeterValuesRequest) :
    Except String Transaction :=
  match meterValues.transactionId with
  | none | some 0 => .error "Meter Values are not linked to a transaction and will be ignored"
  | some transactionId =>
      match store.transactions.find transactionId with
      | none => .error "Transaction does not exist"
      | some transaction =>
          if transaction.stop.isSome then .error "Transaction has already been stopped"
          else .ok transaction

/-- The part of `handleMeterValues` that only checks; `none` when there is no relevant meter
value to save. -/
def checkMeterValues (headers : OCPPHeader) (meterValues : OCPPMeterValuesRequest) (store : Store) :
    Except String (Option MeterValuesAttempt) :=
  match headers.chargingStation with
  | none => .error "TypeError: Cannot read properties of undefined (reading 'connectors')"
  | some chargingStation =>
      let meterValues := OCPPValidation.validateMeterValues chargingStation meterValues
      if meterValues.values = [] then .ok none
      else (getTransactionFromMeterValues store meterValues).map fun transaction =>
        some ⟨chargingStation, transaction, meterValues.values⟩

/-- The consumptions of the request, before they are priced. -/
def prepareConsumptions (context : MeterValuesContext) (attempt : MeterValuesAttempt) :
    Except String (Transaction × List Consumption) := do
  let transaction ← updateTransactionWithMeterValues attempt.chargingStation attempt.transaction
    attempt.values
  let (transaction, consumptions) ← OCPPUtils.createConsumptionsFromMeterValues
    context.toMeteringContext attempt.chargingStation transaction attempt.values
  let consumptions ← processTransactionCar context consumptions
  return (transaction, consumptions)

/-- The update of the transaction with a consumption, and its pricing. -/
def priceMeterValuesConsumption (context : MeterValuesContext) (chargingStation : ChargingStation)
    (transaction : Transaction) (consumption : Consumption) :
    Except String (Transaction × Consumption) :=
  let transaction := OCPPUtils.updateTransactionWithConsumption context.now chargingStation
    transaction consumption
  if consumption.toPrice = some true then
    OCPPUtils.processTransactionPricing context.pricingImpl transaction consumption .update
  else .ok (transaction, consumption)

/-- The loop over the consumptions. -/
def saveConsumptions (context : MeterValuesHandlerContext) (chargingStation : ChargingStation)
    (consumptions : List Consumption) (transaction : Transaction) : StoreHandler Transaction :=
  consumptions.foldlM (fun transaction consumption => do
    let (transaction, consumption) ← Handler.ofExcept
      (priceMeterValuesConsumption context.toMeterValuesContext chargingStation transaction
        consumption)
    ConsumptionStorage.saveConsumption context.database consumption
    return transaction) transaction

/-- `updateChargingStationWithTransaction`.  The transaction has been read without its
charging station, so the inactivity is judged as on one without connectors. -/
def updateChargingStationWithTransaction (chargingStation : ChargingStation)
    (transaction : Transaction) : ChargingStation :=
  if transaction.stop.isNone then
    { chargingStation with
      connectors := OCPPUtils.updateConnector transaction.connectorId
        (fun connector =>
          { connector with
            currentInstantWatts := transaction.currentInstantWatts.total
            currentTotalConsumptionWh := transaction.currentTotalConsumptionWh
            currentTotalInactivitySecs := transaction.currentTotalInactivitySecs
            currentInactivityStatus := Utils.getInactivityStatusLevel
              { id := transaction.chargeBoxID } transaction.connectorId
              transaction.currentTotalInactivitySecs
            currentStateOfCharge := transaction.currentStateOfCharge
            currentTagID := some transaction.tagID
            currentTransactionID := transaction.id
            currentUserID := transaction.userID })
        chargingStation.connectors }
  else OCPPUtils.clearChargingStationConnectorRuntimeData chargingStation transaction.connectorId

/-- The part of `handleMeterValues` that writes. -/
def applyMeterValues (context : MeterValuesHandlerContext) (attempt : MeterValuesAttempt) :
    StoreHandler Unit := do
  Handler.ofExcept context.saveMeterValues
  let (transaction, consumptions) ← Handler.ofExcept
    (prepareConsumptions context.toMeterValuesContext attempt)
  let transaction ← saveConsumptions context attempt.chargingStation consumptions transaction
  TransactionStorage.saveTransaction context.database transaction
  ChargingStationStorage.saveChargingStation context.database
    (updateChargingStationWithTransaction attempt.chargingStation transaction)

/-- `handleMeterValues`, which answers nothing. -/
def handleMeterValuesRequest (context : MeterValuesHandlerContext) (headers : OCPPHeader)
    (meterValues : OCPPMeterValuesRequest) : Store → Unit × Store :=
  Handler.handle (do
      let attempt ← Handler.read (checkMeterValues headers meterValues)
      match attempt with
      | none => return ()
      | some attempt => applyMeterValues context attempt)
    fun _ => ()

/-! ## What the handler keeps -/

/-- A request that has passed the checks is about a stored transaction that runs. -/
theorem checkMeterValues_ok {headers : OCPPHeader} {meterValues : OCPPMeterValuesRequest}
    {store : Store} {attempt : MeterValuesAttempt}
    (h : checkMeterValues headers meterValues store = .ok (some attempt)) :
    headers.chargingStation = some attempt.chargingStation ∧
      (OCPPValidation.validateMeterValues attempt.chargingStation meterValues).transactionId =
        some attempt.transaction.id ∧
      attempt.transaction.id ≠ 0 ∧
      store.transactions.find attempt.transaction.id = some attempt.transaction ∧
      attempt.transaction.stop = none := by
  unfold checkMeterValues at h
  cases station : headers.chargingStation with
  | none =>
    rw [station] at h
    cases h
  | some chargingStation =>
    rw [station] at h
    dsimp only at h
    split at h
    · cases h
    · obtain ⟨found, hfound, same⟩ := Outcome.map_eq_ok.mp h
      cases same
      unfold getTransactionFromMeterValues at hfound
      split at hfound
      · cases hfound
      · cases hfound
      · rename_i transactionId notZero named
        split at hfound
        · cases hfound
        · rename_i stored hstored
          split at hfound
          · cases hfound
          · rename_i running
            cases hfound
            have sameID : found.id = transactionId := Collection.key_of_find hstored
            subst sameID
            exact ⟨rfl, named, notZero, hstored, by simpa using running⟩

theorem sameSession_updateTransactionWithMeterValues {chargingStation : ChargingStation}
    {transaction updated : Transaction} {meterValues : List OCPPNormalizedMeterValue}
    (h : updateTransactionWithMeterValues chargingStation transaction meterValues = .ok updated) :
    SameSession transaction updated :=
  .of_eq Transaction.unmeasured (fun _ => ⟨rfl, rfl, rfl, rfl⟩)
    (unmeasured_updateTransactionWithMeterValues h)

theorem sameSession_prepareConsumptions {context : MeterValuesContext}
    {attempt : MeterValuesAttempt} {prepared : Transaction × List Consumption}
    (h : prepareConsumptions context attempt = .ok prepared) :
    SameSession attempt.transaction prepared.1 := by
  obtain ⟨updated, hupdated, h⟩ := Outcome.bind_eq_ok.mp h
  obtain ⟨created, hcreated, h⟩ := Outcome.bind_eq_ok.mp h
  obtain ⟨charged, -, h⟩ := Outcome.bind_eq_ok.mp h
  have same := sameSession_updateTransactionWithMeterValues hupdated
  have alsoSame := OCPPUtils.sameSession_createConsumptionsFromMeterValues hcreated
  cases h
  exact same.trans alsoSame

theorem sameSession_priceMeterValuesConsumption {context : MeterValuesContext}
    {chargingStation : ChargingStation} {transaction : Transaction} {consumption : Consumption}
    {priced : Transaction × Consumption}
    (h : priceMeterValuesConsumption context chargingStation transaction consumption =
      .ok priced) : SameSession transaction priced.1 := by
  have updated : SameSession transaction (OCPPUtils.updateTransactionWithConsumption context.now
      chargingStation transaction consumption) := ⟨rfl, rfl, rfl, rfl⟩
  unfold priceMeterValuesConsumption at h
  dsimp only at h
  split at h
  · exact updated.trans (OCPPUtils.sameSession_processTransactionPricing h)
  · cases h
    exact updated

/-- The turn of the loop, with what it collects. -/
theorem applyConsumption_eq (context : MeterValuesContext) (chargingStation : ChargingStation)
    (state : Transaction × List Consumption) (consumption : Consumption) :
    applyConsumption context chargingStation state consumption =
      (priceMeterValuesConsumption context chargingStation state.1 consumption).map
        fun priced => (priced.1, state.2 ++ [priced.2]) := by
  unfold applyConsumption priceMeterValuesConsumption
  dsimp only
  split
  · cases OCPPUtils.processTransactionPricing context.pricingImpl _ consumption .update <;> rfl
  · rfl

/-- The consumptions are saved in the store, and nothing else. -/
def SavesConsumptions (store store' : Store) : Prop :=
  store'.transactions = store.transactions ∧ store'.chargingStations = store.chargingStations

theorem savesConsumptions_refl (store : Store) : SavesConsumptions store store := ⟨rfl, rfl⟩

theorem SavesConsumptions.trans {store between store' : Store}
    (first : SavesConsumptions store between) (second : SavesConsumptions between store') :
    SavesConsumptions store store' :=
  ⟨second.1.trans first.1, second.2.trans first.2⟩

theorem changes_saveConsumption (database : Database) (consumption : Consumption) :
    Handler.Changes SavesConsumptions
      (ConsumptionStorage.saveConsumption database consumption) :=
  (Handler.changes_ofExcept savesConsumptions_refl _).bind SavesConsumptions.trans
    fun _ _ _ _ => Handler.changes_write savesConsumptions_refl fun _ => ⟨rfl, rfl⟩

/-- The loop saves consumptions. -/
theorem changes_saveConsumptions (context : MeterValuesHandlerContext)
    (chargingStation : ChargingStation) (consumptions : List Consumption)
    (transaction : Transaction) :
    Handler.Changes SavesConsumptions
      (saveConsumptions context chargingStation consumptions transaction) := by
  unfold saveConsumptions
  induction consumptions generalizing transaction with
  | nil => exact Handler.changes_pure savesConsumptions_refl transaction
  | cons consumption rest ih =>
      rw [List.foldlM_cons]
      refine Handler.Changes.bind SavesConsumptions.trans ?_ fun transaction _ _ _ => ih transaction
      refine (Handler.changes_ofExcept savesConsumptions_refl _).bind SavesConsumptions.trans ?_
      intro priced _ _ _
      refine (changes_saveConsumption context.database priced.2).bind SavesConsumptions.trans ?_
      intro _ _ _ _
      exact Handler.changes_pure savesConsumptions_refl priced.1

/-- **The loop that gets to its end** has priced the consumptions as `handleMeterValues`
does, and has saved them in their order. -/
theorem saveConsumptions_ok {context : MeterValuesHandlerContext}
    {chargingStation : ChargingStation} {consumptions : List Consumption}
    {transaction transaction' : Transaction} {store store' : Store} (saved : List Consumption)
    (h : saveConsumptions context chargingStation consumptions transaction store =
      (.ok transaction', store')) :
    ∃ priced stored,
      consumptions.foldlM (applyConsumption context.toMeterValuesContext chargingStation)
        (transaction, saved) = .ok (transaction', saved ++ priced) ∧
      List.Forall₂ (fun consumption consumptionMDB =>
        ConsumptionStorage.buildConsumptionMDB consumption = .ok consumptionMDB) priced stored ∧
      store' = { store with consumptions := store.consumptions.saveAll stored } := by
  unfold saveConsumptions at h
  induction consumptions generalizing transaction saved store with
  | nil =>
      cases h
      exact ⟨[], [], by rw [List.foldlM_nil, List.append_nil]; rfl, .nil, rfl⟩
  | cons consumption rest ih =>
      rw [List.foldlM_cons] at h
      obtain ⟨between, _, hfirst, hrest⟩ := Handler.bind_apply_eq_ok.mp h
      obtain ⟨priced, _, hprice, hfirst⟩ := Handler.bind_apply_eq_ok.mp hfirst
      obtain ⟨hpriced, rfl⟩ := Handler.ofExcept_eq_ok.mp hprice
      obtain ⟨_, _, hsave, hfirst⟩ := Handler.bind_apply_eq_ok.mp hfirst
      obtain ⟨consumptionMDB, _, hbuild, hwrite⟩ := Handler.bind_apply_eq_ok.mp hsave
      obtain ⟨hbuilt, rfl⟩ := Handler.ofExcept_eq_ok.mp hbuild
      obtain ⟨-, rfl⟩ := Handler.write_eq_ok.mp hwrite
      cases hfirst
      obtain ⟨others, stored, hothers, built, rfl⟩ := ih (saved ++ [priced.2]) hrest
      refine ⟨priced.2 :: others, consumptionMDB :: stored, ?_, .cons hbuilt built, rfl⟩
      rw [List.foldlM_cons, applyConsumption_eq, hpriced]
      rw [List.append_assoc] at hothers
      exact hothers

/-- The transaction that the loop ends with. -/
theorem sameSession_saveConsumptions {context : MeterValuesHandlerContext}
    {chargingStation : ChargingStation} {consumptions : List Consumption}
    {transaction transaction' : Transaction} {store store' : Store}
    (h : saveConsumptions context chargingStation consumptions transaction store =
      (.ok transaction', store')) : SameSession transaction transaction' := by
  obtain ⟨priced, -, hpriced, -, -⟩ := saveConsumptions_ok [] h
  refine Outcome.foldlM_invariant (I := fun state => SameSession transaction state.1) ?_
    (.refl transaction) hpriced
  intro state consumption next same step
  rw [applyConsumption_eq] at step
  obtain ⟨priced, hpriced, rfl⟩ := Outcome.map_eq_ok.mp step
  exact same.trans (sameSession_priceMeterValuesConsumption hpriced)

/-! ## What the handler leaves -/

/-- Where a request ends, and what is stored then. -/
inductive MeterValuesOutcome (context : MeterValuesHandlerContext) (headers : OCPPHeader)
    (meterValues : OCPPMeterValuesRequest) (store : Store) : Store → Prop
  /-- The checks fail, there is nothing to save, or no consumption is created. -/
  | rejected : MeterValuesOutcome context headers meterValues store store
  /-- The transaction is not saved after the loop. -/
  | cutOff {attempt : MeterValuesAttempt} {transaction : Transaction}
      {consumptions : List Consumption} {loop : Except String Transaction} {between : Store} :
      checkMeterValues headers meterValues store = .ok (some attempt) →
      prepareConsumptions context.toMeterValuesContext attempt = .ok (transaction, consumptions) →
      saveConsumptions context attempt.chargingStation consumptions transaction store =
        (loop, between) →
      (loop.isOk = false ∨ context.database .saveTransaction ≠ .ok ()) →
      MeterValuesOutcome context headers meterValues store between
  /-- The transaction is saved, and perhaps the charging station. -/
  | saved {attempt : MeterValuesAttempt} {transaction transaction' : Transaction}
      {consumptions : List Consumption} {between : Store}
      {chargingStations : Collection ChargingStation.id} :
      checkMeterValues headers meterValues store = .ok (some attempt) →
      prepareConsumptions context.toMeterValuesContext attempt = .ok (transaction, consumptions) →
      saveConsumptions context attempt.chargingStation consumptions transaction store =
        (.ok transaction', between) →
      (chargingStations = between.chargingStations ∨
        chargingStations = between.chargingStations.save
          (updateChargingStationWithTransaction attempt.chargingStation transaction')) →
      MeterValuesOutcome context headers meterValues store
        { between with
          transactions := between.transactions.save (TransactionStorage.transactionMDB transaction')
          chargingStations := chargingStations }

/-- **What a request leaves.** -/
theorem meterValuesOutcome (context : MeterValuesHandlerContext) (headers : OCPPHeader)
    (meterValues : OCPPMeterValuesRequest) (store : Store) :
    MeterValuesOutcome context headers meterValues store
      (handleMeterValuesRequest context headers meterValues store).2 := by
  unfold handleMeterValuesRequest
  rw [Handler.handle_snd]
  cases hcheck : checkMeterValues headers meterValues store with
  | error error =>
    rw [Handler.bind_apply_error (by rw [Handler.read_apply, hcheck])]
    exact .rejected
  | ok attempt =>
    rw [Handler.read_ok_bind hcheck]
    cases attempt with
    | none => exact .rejected
    | some attempt =>
      dsimp only
      unfold applyMeterValues
      cases hvalues : context.saveMeterValues with
      | error error =>
        rw [Handler.ofExcept_error_bind]
        exact .rejected
      | ok _ =>
        rw [Handler.ofExcept_ok_bind]
        cases hprepared : prepareConsumptions context.toMeterValuesContext attempt with
        | error error =>
          rw [Handler.ofExcept_error_bind]
          exact .rejected
        | ok prepared =>
          obtain ⟨transaction, consumptions⟩ := prepared
          rw [Handler.ofExcept_ok_bind]
          dsimp only
          rcases hloop : saveConsumptions context attempt.chargingStation consumptions transaction
              store with ⟨error | transaction', between⟩
          · rw [Handler.bind_apply_error hloop]
            exact .cutOff hcheck hprepared hloop (.inl rfl)
          rw [Handler.bind_apply_ok hloop]
          unfold TransactionStorage.saveTransaction ChargingStationStorage.saveChargingStation
          cases hsave : context.database .saveTransaction with
          | error error =>
            rw [Handler.write_error_bind]
            refine .cutOff hcheck hprepared hloop (.inr ?_)
            rw [hsave]
            exact nofun
          | ok _ =>
            rw [Handler.write_ok_bind]
            cases context.database .saveChargingStation with
            | error error => exact .saved hcheck hprepared hloop (.inl rfl)
            | ok _ => exact .saved hcheck hprepared hloop (.inr rfl)

end OCPPService

end EvServer
