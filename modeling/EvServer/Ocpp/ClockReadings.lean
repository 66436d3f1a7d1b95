import EvServer.Ocpp.SampleClock

/-!
# Requests with and without clock-aligned samples

A clock-aligned sample that is not a reading of the energy register leaves no trace.  One that is
counts as a meter value of the transaction, so that the transaction which is saved is not the one
of the request without it.
-/

namespace EvServer

namespace OCPPService

/-- A reading of the energy register that was taken because of the clock. -/
def isClockReading (meterValue : OCPPNormalizedMeterValue) : Bool :=
  isSampleClock meterValue && OCPPUtils.isEnergyActiveImportMeterValue meterValue

/-- A request with such a reading. -/
def ReadsClock (ocppVersion : OCPPVersion) (meterValues : OCPPMeterValuesRequestExtended) : Prop :=
  ∃ normalizedMeterValues, normalizeMeterValues ocppVersion meterValues =
      .ok normalizedMeterValues ∧
    ∃ meterValue ∈ normalizedMeterValues, isClockReading meterValue = true

instance (ocppVersion : OCPPVersion) (meterValues : OCPPMeterValuesRequestExtended) :
    Decidable (ReadsClock ocppVersion meterValues) :=
  decidable_of_iff
    (((normalizeMeterValues ocppVersion meterValues).toOption.getD []).any isClockReading) (by
      rw [ReadsClock]
      rcases normalizeMeterValues ocppVersion meterValues with error | values
      · simp [Except.toOption]
      · simp [Except.toOption])

/-- The transactions and the consumptions that are stored. -/
def SameSessions (store store' : Store) : Prop :=
  store.transactions = store'.transactions ∧ store.consumptions = store'.consumptions

/-! ## Without a reading -/

section Idle

variable {meterValues : List OCPPNormalizedMeterValue}

/-- Without a reading, the other clock-aligned samples do nothing to what is prepared. -/
theorem prepareConsumptions_withoutSampleClock (context : MeterValuesContext)
    (chargingStation : ChargingStation) (transaction : Transaction)
    (noReading : ∀ meterValue ∈ meterValues, isClockReading meterValue = false) :
    prepareConsumptions context ⟨chargingStation, transaction,
        meterValues.filter fun meterValue => !isSampleClock meterValue⟩ =
      prepareConsumptions context ⟨chargingStation, transaction, meterValues⟩ := by
  have idle : ∀ meterValue ∈ meterValues, (!isSampleClock meterValue) = false →
      isSampleClock meterValue = true ∧
        OCPPUtils.isEnergyActiveImportMeterValue meterValue = false := by
    intro meterValue mem clock
    have none := noReading meterValue mem
    rw [Bool.not_eq_false'] at clock
    rw [isClockReading, clock, Bool.true_and] at none
    exact ⟨clock, none⟩
  have updates : updateTransactionWithMeterValues chargingStation transaction
      (meterValues.filter fun meterValue => !isSampleClock meterValue) =
      updateTransactionWithMeterValues chargingStation transaction meterValues := by
    refine Outcome.foldlM_filter_eq (fun meterValue mem clock transaction => ?_) transaction
    obtain ⟨clock, none⟩ := idle meterValue mem clock
    exact updateTransactionWithMeterValue_sampleClock chargingStation transaction clock none
  have creates : ∀ transaction, OCPPUtils.createConsumptionsFromMeterValues
      context.toMeteringContext chargingStation transaction
        (meterValues.filter fun meterValue => !isSampleClock meterValue) =
      OCPPUtils.createConsumptionsFromMeterValues context.toMeteringContext chargingStation
        transaction meterValues := by
    intro transaction
    rw [OCPPUtils.createConsumptionsFromMeterValues, OCPPUtils.createConsumptionsFromMeterValues,
      Outcome.foldlM_filter_eq]
    intro meterValue mem clock state
    obtain ⟨clock, none⟩ := idle meterValue mem clock
    rw [OCPPUtils.createConsumptionsStep, isValidMeterValue_sampleClock clock none]
    rfl
  rw [prepareConsumptions, prepareConsumptions, updates]
  simp only [creates]

end Idle

/-! ## How many meter values are counted -/

/-- A meter value that `numberOfMeterValues` counts. -/
def isCounted (meterValue : OCPPNormalizedMeterValue) : Bool :=
  OCPPUtils.isEnergyActiveImportMeterValue meterValue &&
    !meterValue.attributes.any fun attributes =>
      attributes.format = some .signedData ∧ attributes.context = some .transactionEnd

theorem isCounted_of_isClockReading {meterValue : OCPPNormalizedMeterValue}
    (reading : isClockReading meterValue = true) : isCounted meterValue = true := by
  rw [isClockReading, Bool.and_eq_true] at reading
  obtain ⟨clock, reading⟩ := reading
  rw [isCounted, reading]
  obtain ⟨timestamp, value, _ | attributes⟩ := meterValue
  · rfl
  · have context : attributes.context = some .sampleClock := of_decide_eq_true clock
    simp [context]

theorem numberOfMeterValues_updateSignedData (transaction : Transaction)
    (attributes : OCPPAttribute) (value : MeterValueData) :
    (OCPPUtils.updateSignedData transaction attributes value).1.numberOfMeterValues =
      transaction.numberOfMeterValues := by
  unfold OCPPUtils.updateSignedData
  dsimp only
  split
  · split <;> rfl
  · rfl

/-- What is signed data is that of the begin or the end of the transaction. -/
theorem updateSignedData_snd_eq_true {transaction : Transaction} {attributes : OCPPAttribute}
    {value : MeterValueData}
    (signed : (OCPPUtils.updateSignedData transaction attributes value).2 = true) :
    attributes.format = some .signedData ∧
      (attributes.context = some .transactionBegin ∨
        attributes.context = some .transactionEnd) := by
  unfold OCPPUtils.updateSignedData at signed
  dsimp only at signed
  split at signed
  · rename_i format
    split at signed
    · rename_i context
      exact ⟨format, .inl context⟩
    · rename_i context
      exact ⟨format, .inr context⟩
    · cases signed
  · cases signed

theorem updateSignedData_snd_of_end {transaction : Transaction} {attributes : OCPPAttribute}
    {value : MeterValueData} (format : attributes.format = some .signedData)
    (context : attributes.context = some .transactionEnd) :
    (OCPPUtils.updateSignedData transaction attributes value).2 = true := by
  simp [OCPPUtils.updateSignedData, format, context]

/-- The values of the end of a transaction are no readings of the energy register. -/
theorem updateTransactionWithTransactionEnd_some {chargingStation : ChargingStation}
    {transaction transaction' : Transaction} {attributes : OCPPAttribute}
    {meterValue : OCPPNormalizedMeterValue}
    (h : updateTransactionWithTransactionEnd chargingStation transaction attributes meterValue =
      some transaction') :
    transaction'.numberOfMeterValues = transaction.numberOfMeterValues ∧
      attributes.measurand ≠ some .energyActiveImportRegister := by
  unfold updateTransactionWithTransactionEnd at h
  dsimp only at h
  split at h <;> cases h <;> rename_i measurand _ <;> exact ⟨rfl, by rw [measurand]; exact nofun⟩

/-- **A meter value.** -/
theorem numberOfMeterValues_updateTransactionWithMeterValue {chargingStation : ChargingStation}
    {transaction transaction' : Transaction} {meterValue : OCPPNormalizedMeterValue}
    (h : updateTransactionWithMeterValue chargingStation transaction meterValue =
      .ok transaction') :
    transaction'.numberOfMeterValues =
      transaction.numberOfMeterValues + if isCounted meterValue then 1 else 0 := by
  obtain ⟨timestamp, value, _ | attributes⟩ := meterValue
  · cases h
  have reading : OCPPUtils.isEnergyActiveImportMeterValue ⟨timestamp, value, some attributes⟩ =
      true → attributes.measurand = some .energyActiveImportRegister ∧
        attributes.context ≠ some .transactionBegin := by
    intro reading
    simp only [OCPPUtils.isEnergyActiveImportMeterValue, OCPPUtils.measures, Bool.and_eq_true,
      decide_eq_true_eq, List.any_eq_true] at reading
    obtain ⟨measurand, context, mem, same⟩ := reading
    refine ⟨measurand, fun begin_ => ?_⟩
    rw [same, Option.some.injEq] at begin_
    subst begin_
    revert mem
    decide
  simp only [updateTransactionWithMeterValue] at h
  generalize hflagged : (if attributes.context = some .transactionEnd ∧
      ¬ transaction.transactionEndReceived then _ else _) = flagged at h
  have same : flagged.numberOfMeterValues = transaction.numberOfMeterValues := by
    rw [← hflagged]
    split <;> rfl
  rw [← same, ← numberOfMeterValues_updateSignedData flagged attributes value]
  split at h
  · rename_i signed
    cases h
    obtain ⟨format, context⟩ := updateSignedData_snd_eq_true signed
    have notCounted : isCounted ⟨timestamp, value, some attributes⟩ = false := by
      rw [isCounted, Bool.and_eq_false_iff]
      rcases context with begin_ | end_
      · exact .inl (Bool.eq_false_iff.mpr fun energy => (reading energy).2 begin_)
      · exact .inr (by simp [format, end_])
    rw [notCounted]
    rfl
  · rename_i unsigned
    split at h
    · rename_i ended
      cases h
      obtain ⟨same, other⟩ := updateTransactionWithTransactionEnd_some ended
      have notCounted : isCounted ⟨timestamp, value, some attributes⟩ = false := by
        rw [isCounted, Bool.and_eq_false_iff]
        exact .inl (Bool.eq_false_iff.mpr fun energy => other (reading energy).1)
      rw [notCounted]
      exact same
    · split at h
      · rename_i energy
        cases h
        have counted : isCounted ⟨timestamp, value, some attributes⟩ = true := by
          rw [isCounted, energy, Bool.true_and, Bool.not_eq_true', Option.any_some,
            decide_eq_false_iff_not]
          rintro ⟨format, context⟩
          exact unsigned (updateSignedData_snd_of_end format context)
        rw [counted]
        rfl
      · rename_i energy
        cases h
        have notCounted : isCounted ⟨timestamp, value, some attributes⟩ = false := by
          rw [isCounted, Bool.eq_false_iff.mpr energy]
          rfl
        rw [notCounted]
        rfl

/-- **The meter values of a request.** -/
theorem numberOfMeterValues_updateTransactionWithMeterValues {chargingStation : ChargingStation}
    {transaction transaction' : Transaction} {meterValues : List OCPPNormalizedMeterValue}
    (h : updateTransactionWithMeterValues chargingStation transaction meterValues =
      .ok transaction') :
    transaction'.numberOfMeterValues =
      transaction.numberOfMeterValues + meterValues.countP isCounted := by
  induction meterValues generalizing transaction with
  | nil =>
      cases h
      rfl
  | cons meterValue rest ih =>
      obtain ⟨between, first, others⟩ := Outcome.foldlM_cons_eq_ok.mp h
      rw [ih others, numberOfMeterValues_updateTransactionWithMeterValue first, List.countP_cons]
      omega

/-- To create and to price consumptions counts no meter value. -/
theorem numberOfMeterValues_saveConsumptions {context : MeterValuesHandlerContext}
    {chargingStation : ChargingStation} {consumptions : List Consumption}
    {transaction transaction' : Transaction} {store store' : Store}
    (h : saveConsumptions context chargingStation consumptions transaction store =
      (.ok transaction', store')) :
    transaction'.numberOfMeterValues = transaction.numberOfMeterValues := by
  obtain ⟨priced, -, hpriced, -, -⟩ := saveConsumptions_ok [] h
  refine Outcome.foldlM_invariant
    (I := fun state => state.1.numberOfMeterValues = transaction.numberOfMeterValues) ?_ rfl hpriced
  intro state consumption next same step
  rw [applyConsumption_eq] at step
  obtain ⟨priced, hpriced, rfl⟩ := Outcome.map_eq_ok.mp step
  unfold priceMeterValuesConsumption at hpriced
  dsimp only at hpriced
  split at hpriced
  · have unpriced := congrArg Transaction.numberOfMeterValues
      (OCPPUtils.unpriced_processTransactionPricing hpriced)
    exact unpriced.trans same
  · cases hpriced
    exact same

theorem numberOfMeterValues_prepareConsumptions {context : MeterValuesContext}
    {attempt : MeterValuesAttempt} {prepared : Transaction × List Consumption}
    (h : prepareConsumptions context attempt = .ok prepared) :
    prepared.1.numberOfMeterValues =
      attempt.transaction.numberOfMeterValues + attempt.values.countP isCounted := by
  obtain ⟨updated, hupdated, h⟩ := Outcome.bind_eq_ok.mp h
  obtain ⟨created, hcreated, h⟩ := Outcome.bind_eq_ok.mp h
  obtain ⟨charged, -, h⟩ := Outcome.bind_eq_ok.mp h
  cases h
  have unmetered := congrArg Transaction.numberOfMeterValues
    (OCPPUtils.unmetered_createConsumptionsFromMeterValues hcreated)
  rw [← numberOfMeterValues_updateTransactionWithMeterValues hupdated]
  exact unmetered

/-! ## What a request leaves -/

section Requests

variable {context : MeterValuesHandlerContext} {headers : OCPPHeader} {store store' : Store}
  {chargingStation : ChargingStation} {attempt : MeterValuesAttempt}

theorem values_of_checkMeterValues_none {meterValues : OCPPMeterValuesRequest}
    (h : checkMeterValues headers meterValues store = .ok none) : meterValues.values = [] := by
  unfold checkMeterValues at h
  split at h
  · cases h
  · dsimp only at h
    split at h
    · rename_i empty
      exact empty
    · obtain ⟨_, _, none⟩ := Outcome.map_eq_ok.mp h
      cases none

theorem values_of_checkMeterValues {meterValues : OCPPMeterValuesRequest}
    (h : checkMeterValues headers meterValues store = .ok (some attempt)) :
    attempt.values = meterValues.values := by
  unfold checkMeterValues at h
  split at h
  · cases h
  · dsimp only at h
    split at h
    · cases h
    · obtain ⟨_, _, same⟩ := Outcome.map_eq_ok.mp h
      cases same
      rfl

/-- Where the transaction is saved, with the number of meter values that it has then. -/
theorem numberOfMeterValues_saved {transaction transaction' : Transaction}
    {consumptions : List Consumption} {between : Store}
    (hprepared : prepareConsumptions context.toMeterValuesContext attempt =
      .ok (transaction, consumptions))
    (hloop : saveConsumptions context attempt.chargingStation consumptions transaction store =
      (.ok transaction', between)) (running : attempt.transaction.stop = none) :
    (TransactionStorage.transactionMDB transaction').id = attempt.transaction.id ∧
      (TransactionStorage.transactionMDB transaction').numberOfMeterValues =
        attempt.transaction.numberOfMeterValues + attempt.values.countP isCounted := by
  have same := (sameSession_prepareConsumptions hprepared).trans
    (sameSession_saveConsumptions hloop)
  have stillRunning : transaction'.stop = none := same.stop.trans running
  constructor
  · rw [TransactionStorage.id_transactionMDB, same.id]
  · rw [← numberOfMeterValues_prepareConsumptions hprepared,
      ← numberOfMeterValues_saveConsumptions hloop, TransactionStorage.transactionMDB, stillRunning]
    rfl

variable (context headers) in
/-- A request counts its own meter values at most. -/
theorem numberOfMeterValues_le (meterValues : OCPPMeterValuesRequest) {transaction : Transaction}
    (stored : store.transactions.find transaction.id = some transaction) :
    ∃ transaction', (handleMeterValuesRequest context headers meterValues store).2.transactions.find
        transaction.id = some transaction' ∧
      transaction'.numberOfMeterValues ≤
        transaction.numberOfMeterValues + meterValues.values.countP isCounted := by
  have unchanged : ∀ {between : Store}, between.transactions = store.transactions →
      ∃ transaction', between.transactions.find transaction.id = some transaction' ∧
        transaction'.numberOfMeterValues ≤
          transaction.numberOfMeterValues + meterValues.values.countP isCounted := by
    intro between same
    rw [same]
    exact ⟨transaction, stored, Nat.le_add_right _ _⟩
  have saves : ∀ {between : Store} {attempt : MeterValuesAttempt} {transaction : Transaction}
      {consumptions : List Consumption} {loop : Except String Transaction},
      saveConsumptions context attempt.chargingStation consumptions transaction store =
        (loop, between) → between.transactions = store.transactions := by
    intro between attempt transaction consumptions loop hloop
    have changed := changes_saveConsumptions context attempt.chargingStation consumptions
      transaction store
    rw [hloop] at changed
    exact changed.1
  have outcome := meterValuesOutcome context headers meterValues store
  generalize (handleMeterValuesRequest context headers meterValues store).2 = left at outcome ⊢
  cases outcome with
  | rejected => exact unchanged rfl
  | cutOff _ _ hloop _ => exact unchanged (saves hloop)
  | @saved attempt prepared transaction' consumptions between chargingStations hcheck hprepared
      hloop stations =>
      obtain ⟨-, -, -, found, running⟩ := checkMeterValues_ok hcheck
      obtain ⟨sameID, number⟩ := numberOfMeterValues_saved hprepared hloop running
      rcases eq_or_ne transaction.id attempt.transaction.id with same | other
      · rw [same, found, Option.some.injEq] at stored
        refine ⟨TransactionStorage.transactionMDB transaction', ?_, ?_⟩
        · rw [same, ← sameID]
          exact Collection.find_save_self
        · rw [number, stored, values_of_checkMeterValues hcheck]
      · refine ⟨transaction, ?_, Nat.le_add_right _ _⟩
        change (between.transactions.save _).find transaction.id = some transaction
        rw [Collection.find_save_of_ne (sameID.symm ▸ other), saves hloop]
        exact stored

/-- A request that does not throw counts all of them, when there is one. -/
theorem numberOfMeterValues_of_ok {meterValues : OCPPMeterValuesRequest} {u : Unit}
    (h : processMeterValues context headers meterValues store = (.ok u, store'))
    (values : meterValues.values ≠ []) :
    ∃ transaction transaction', store.transactions.find transaction.id = some transaction ∧
      store'.transactions.find transaction.id = some transaction' ∧
      transaction'.numberOfMeterValues =
        transaction.numberOfMeterValues + meterValues.values.countP isCounted := by
  obtain ⟨attempt, hcheck, h⟩ := Handler.read_bind_eq_ok.mp h
  cases attempt with
  | none => exact absurd (values_of_checkMeterValues_none hcheck) values
  | some attempt =>
      obtain ⟨-, -, -, found, running⟩ := checkMeterValues_ok hcheck
      obtain ⟨_, _, h⟩ := Handler.ofExcept_bind_eq_ok.mp h
      obtain ⟨⟨prepared, consumptions⟩, hprepared, h⟩ := Handler.ofExcept_bind_eq_ok.mp h
      obtain ⟨transaction', between, hloop, h⟩ := Handler.bind_apply_eq_ok.mp h
      obtain ⟨_, _, hsave, h⟩ := Handler.bind_apply_eq_ok.mp h
      obtain ⟨_, rfl⟩ := Handler.write_eq_ok.mp hsave
      obtain ⟨_, rfl⟩ := Handler.write_eq_ok.mp h
      obtain ⟨sameID, number⟩ := numberOfMeterValues_saved hprepared hloop running
      refine ⟨attempt.transaction, TransactionStorage.transactionMDB transaction', found, ?_, ?_⟩
      · rw [← sameID]
        exact Collection.find_save_self
      · rw [number, values_of_checkMeterValues hcheck]

theorem processMeterValues_nil {meterValues : OCPPMeterValuesRequest}
    (station : headers.chargingStation = some chargingStation) (values : meterValues.values = []) :
    processMeterValues context headers meterValues store = (.ok (), store) := by
  have checked : checkMeterValues headers meterValues store = .ok none := by
    rw [checkMeterValues, station]
    exact if_pos values
  rw [processMeterValues, Handler.read_ok_bind checked]
  rfl

theorem processMeterValues_of_ne {meterValues : OCPPMeterValuesRequest}
    (station : headers.chargingStation = some chargingStation) (values : meterValues.values ≠ []) :
    processMeterValues context headers meterValues store =
      match getTransactionFromMeterValues store
        (OCPPValidation.validateMeterValues chargingStation meterValues) with
      | .error error => (.error error, store)
      | .ok transaction =>
          applyMeterValues context ⟨chargingStation, transaction, meterValues.values⟩ store := by
  have checked : checkMeterValues headers meterValues store =
      (getTransactionFromMeterValues store
        (OCPPValidation.validateMeterValues chargingStation meterValues)).map fun transaction =>
          some ⟨chargingStation, transaction, meterValues.values⟩ := by
    rw [checkMeterValues, station]
    exact if_neg values
  rcases found : getTransactionFromMeterValues store
    (OCPPValidation.validateMeterValues chargingStation meterValues) with error | transaction
  · rw [found] at checked
    rw [processMeterValues, Handler.bind_apply_error (by rw [Handler.read_apply, checked]; rfl)]
  · rw [found] at checked
    rw [processMeterValues, Handler.read_ok_bind checked]

theorem find_of_getTransactionFromMeterValues {meterValues : OCPPMeterValuesRequest}
    {transaction : Transaction}
    (h : getTransactionFromMeterValues store meterValues = .ok transaction) :
    store.transactions.find transaction.id = some transaction := by
  unfold getTransactionFromMeterValues at h
  split at h
  · cases h
  · cases h
  · split at h
    · cases h
    · rename_i stored found
      split at h
      · cases h
      · cases h
        rw [Collection.key_of_find found]
        exact found

/-- A transaction without meter values is saved as it is. -/
theorem sameSessions_applyMeterValues_nil {transaction : Transaction}
    (found : store.transactions.find transaction.id = some transaction)
    (stored : TransactionStorage.transactionMDB transaction = transaction) :
    SameSessions (applyMeterValues context ⟨chargingStation, transaction, []⟩ store).2 store := by
  have saved : store.transactions.save (TransactionStorage.transactionMDB transaction) =
      store.transactions := by
    rw [stored]
    exact Collection.save_eq_self_iff.mpr found
  have prepared : ∀ prepared, prepareConsumptions context.toMeterValuesContext
      ⟨chargingStation, transaction, []⟩ = .ok prepared → prepared = (transaction, []) := by
    intro prepared h
    obtain ⟨updated, hupdated, h⟩ := Outcome.bind_eq_ok.mp h
    cases hupdated
    obtain ⟨created, hcreated, h⟩ := Outcome.bind_eq_ok.mp h
    cases hcreated
    obtain ⟨charged, hcharged, h⟩ := Outcome.bind_eq_ok.mp h
    obtain ⟨soc, _, hcharged⟩ := Outcome.bind_eq_ok.mp hcharged
    cases h
    split at hcharged <;> cases hcharged <;> rfl
  rw [applyMeterValues]
  rcases context.saveMeterValues with _ | _
  · exact ⟨rfl, rfl⟩
  rw [Handler.ofExcept_ok_bind]
  rcases hprepared : prepareConsumptions context.toMeterValuesContext
    ⟨chargingStation, transaction, []⟩ with _ | result
  · exact ⟨rfl, rfl⟩
  obtain rfl := prepared result hprepared
  rw [Handler.ofExcept_ok_bind]
  dsimp only
  rw [saveConsumptions, List.foldlM_nil, pure_bind, TransactionStorage.saveTransaction]
  rcases context.database .saveTransaction with _ | _
  · exact ⟨rfl, rfl⟩
  rw [Handler.write_ok_bind, ChargingStationStorage.saveChargingStation]
  rcases context.database .saveChargingStation with _ | _
  · exact ⟨saved, rfl⟩
  · exact ⟨saved, rfl⟩

/-- Without a reading, the request without clock-aligned samples leaves the same. -/
theorem sameSessions_processMeterValues (meterValues : OCPPMeterValuesRequest)
    (stored : ∀ transaction ∈ store.transactions.docs,
      TransactionStorage.transactionMDB transaction = transaction)
    (noReading : ∀ meterValue ∈ meterValues.values, isClockReading meterValue = false) :
    SameSessions (processMeterValues context headers meterValues store).2
      (processMeterValues context headers
        { meterValues with
          values := meterValues.values.filter fun meterValue => !isSampleClock meterValue }
        store).2 := by
  rcases station : headers.chargingStation with _ | chargingStation
  · have fails : ∀ meterValues,
        (processMeterValues context headers meterValues store).2 = store := by
      intro meterValues
      rw [processMeterValues, Handler.bind_apply_error]
      rw [Handler.read_apply, checkMeterValues, station]
    rw [fails, fails]
    exact ⟨rfl, rfl⟩
  by_cases values : meterValues.values = []
  · rw [processMeterValues_nil station values, processMeterValues_nil station (by rw [values]; rfl)]
    exact ⟨rfl, rfl⟩
  -- What is applied does not depend on the samples that are removed
  have applied : ∀ transaction, applyMeterValues context
      ⟨chargingStation, transaction, meterValues.values⟩ =
      applyMeterValues context ⟨chargingStation, transaction,
        meterValues.values.filter fun meterValue => !isSampleClock meterValue⟩ := by
    intro transaction
    rw [applyMeterValues, applyMeterValues, prepareConsumptions_withoutSampleClock _ _ _ noReading]
  rw [processMeterValues_of_ne station values]
  by_cases kept : (meterValues.values.filter fun meterValue => !isSampleClock meterValue) = []
  · rw [processMeterValues_nil station kept]
    rcases found : getTransactionFromMeterValues store
      (OCPPValidation.validateMeterValues chargingStation meterValues) with error | transaction
    · exact ⟨rfl, rfl⟩
    · dsimp only
      rw [applied, kept]
      have isStored := find_of_getTransactionFromMeterValues found
      exact sameSessions_applyMeterValues_nil isStored
        (stored transaction (Collection.mem_of_find isStored))
  · rw [processMeterValues_of_ne station kept]
    have same : getTransactionFromMeterValues store
        (OCPPValidation.validateMeterValues chargingStation { meterValues with
          values := meterValues.values.filter fun meterValue => !isSampleClock meterValue }) =
        getTransactionFromMeterValues store
          (OCPPValidation.validateMeterValues chargingStation meterValues) := rfl
    rw [same]
    rcases getTransactionFromMeterValues store
      (OCPPValidation.validateMeterValues chargingStation meterValues) with error | transaction
    · exact ⟨rfl, rfl⟩
    · dsimp only
      rw [applied]
      exact ⟨rfl, rfl⟩

end Requests

section Stations

variable {context : MeterValuesHandlerContext} {headers : OCPPHeader} {ocppVersion : OCPPVersion}
  {meterValues : OCPPMeterValuesRequestExtended} {chargingStation : ChargingStation} {store : Store}

theorem handleStationMeterValues_error {error : String}
    (station : headers.chargingStation = some chargingStation)
    (normalized : normalizeMeterValues ocppVersion meterValues = .error error) :
    handleStationMeterValues context headers ocppVersion meterValues store =
      (.error error, store) := by
  rw [handleStationMeterValues, station, normalized]
  rfl

theorem handleStationMeterValues_ok {values : List OCPPNormalizedMeterValue}
    (station : headers.chargingStation = some chargingStation)
    (normalized : normalizeMeterValues ocppVersion meterValues = .ok values) :
    handleStationMeterValues context headers ocppVersion meterValues store =
      processMeterValues context headers
        { connectorId := meterValues.connectorId
          transactionId := meterValues.transactionId
          values := values } store := by
  rw [handleStationMeterValues, station, normalized]
  dsimp only
  rw [Handler.ofExcept_ok_bind, filterMeterValuesOnSpecificChargingStations_eq]

/-- A reading among the samples leaves a transaction with more meter values. -/
theorem not_sameSessions_of_isClockReading {meterValues : OCPPMeterValuesRequest}
    (ok : (processMeterValues context headers meterValues store).1 = .ok ())
    {meterValue : OCPPNormalizedMeterValue} (mem : meterValue ∈ meterValues.values)
    (reading : isClockReading meterValue = true) :
    ¬ SameSessions (processMeterValues context headers meterValues store).2
      (processMeterValues context headers
        { meterValues with
          values := meterValues.values.filter fun meterValue => !isSampleClock meterValue }
        store).2 := by
  rintro ⟨same, -⟩
  obtain ⟨transaction, transaction', found, found', number⟩ :=
    numberOfMeterValues_of_ok (Prod.ext ok rfl) (List.ne_nil_of_mem mem)
  obtain ⟨other, foundOther, atMost⟩ := numberOfMeterValues_le context headers
    { meterValues with
      values := meterValues.values.filter fun meterValue => !isSampleClock meterValue } found
  rw [← snd_processMeterValues, ← same, found', Option.some.injEq] at foundOther
  rw [← foundOther, number] at atMost
  dsimp only at atMost
  have more : (meterValues.values.filter fun meterValue => !isSampleClock meterValue).countP
      isCounted < meterValues.values.countP isCounted := by
    rw [List.countP_eq_countP_filter_add meterValues.values isCounted
      fun meterValue => !isSampleClock meterValue]
    have removed : meterValue ∈ meterValues.values.filter fun meterValue =>
        !!isSampleClock meterValue := by
      rw [isClockReading, Bool.and_eq_true] at reading
      exact List.mem_filter.mpr ⟨mem, by rw [reading.1]; rfl⟩
    have counted := isCounted_of_isClockReading reading
    have positive := List.countP_pos_iff.mpr ⟨meterValue, removed, counted⟩
    omega
  omega

end Stations

/-- A station whose connector runs a transaction. -/
def clockStation : ChargingStation where
  id := "CS-1"
  connectors := [{ connectorId := 1, currentTransactionID := 1 }]

/-- The station and its transaction, whose register was at 1000 Wh. -/
def clockStore : Store where
  chargingStations := ⟨[clockStation], by decide⟩
  transactions := ⟨[{
    id := 1
    chargeBoxID := "CS-1"
    connectorId := 1
    tagID := "TAG-1"
    meterStart := 1000
    timestamp := 0
    lastConsumption := some ⟨1000, 0⟩ }], by decide⟩
  consumptions := .empty

/-- The headers of a request of the station. -/
def clockHeaders : OCPPHeader where
  chargeBoxIdentity := "CS-1"
  chargingStation := some clockStation

/-- A periodic reading and a clock-aligned sample of something, after a minute. -/
def clockRequest (measurand : OCPPMeasurand) : OCPPMeterValuesRequestExtended where
  connectorId := 1
  transactionId := some 1
  meterValue := some (.many [
    { timestamp := 60000
      sampledValue := some (.many [
        { value := "1500" },
        { value := "1600", context := some .sampleClock, measurand := some measurand }]) }])

theorem transactionMDB_clockStore : ∀ transaction ∈ clockStore.transactions.docs,
    TransactionStorage.transactionMDB transaction = transaction := by
  decide +kernel

end OCPPService

end EvServer
