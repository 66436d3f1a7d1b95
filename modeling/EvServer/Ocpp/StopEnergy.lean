import EvServer.Ocpp.StoredEnergy

/-!
# The energy of a stop

The stop reads the energy register a last time: its meter values become one consumption,
which is stored under the time of the stop.  They are not read after `Transaction.End`, or
when the stop is dated before the last reading; the total is then what it was.
-/

namespace EvServer

open Register (Sample)

namespace OCPPUtils

/-! ## The consumption of a stop -/

/-- A meter value of the stop that is no reading of the register. -/
theorem sample_stopMeterValue {timestamp : Timestamp} {attributes : OCPPAttribute} {value : ℚ}
    (other : attributes.measurand ≠ some .energyActiveImportRegister) :
    sample (stopMeterValue timestamp attributes value) = .other timestamp := by
  refine if_neg fun isReading => other ?_
  unfold isEnergyReading isEnergyActiveImportMeterValue measures stopMeterValue at isReading
  simp only [Bool.and_eq_true, decide_eq_true_eq] at isReading
  exact isReading.1.1

/-- What the meter values of a stop say about the register: the first one alone is a
reading. -/
theorem samples_stopMeterValues (chargingStation : ChargingStation) (transaction : Transaction)
    (stopTransaction : OCPPStopTransactionRequest) :
    ∃ others : List (Sample Timestamp ℚ),
      samples (createTransactionStopMeterValues chargingStation transaction stopTransaction) =
        .reading stopTransaction.timestamp (some stopTransaction.meterStop) :: others ∧
      ∀ sample ∈ others, sample = .other stopTransaction.timestamp := by
  have perPhase {attributes : OCPPAttribute} {perTotal : ℚ → ℚ} {values : PerPhase ℚ}
      (other : attributes.measurand ≠ some .energyActiveImportRegister)
      {meterValue : OCPPNormalizedMeterValue}
      (mem : meterValue ∈ stopMeterValuesPerPhase stopTransaction.timestamp attributes perTotal
        values) : sample meterValue = .other stopTransaction.timestamp := by
    simp only [stopMeterValuesPerPhase, List.mem_append, List.mem_ite_nil_right,
      List.mem_singleton] at mem
    rcases mem with ((⟨-, rfl⟩ | ⟨-, rfl⟩) | ⟨-, rfl⟩) | ⟨-, rfl⟩ <;>
      exact sample_stopMeterValue other
  unfold createTransactionStopMeterValues
  dsimp only
  rw [List.append_assoc, List.append_assoc, List.append_assoc, List.singleton_append]
  refine ⟨_, rfl, ?_⟩
  intro sample mem
  obtain ⟨meterValue, hmem, rfl⟩ := List.mem_map.mp mem
  have hmem := List.mem_of_mem_filter hmem
  simp only [List.mem_append] at hmem
  rcases hmem with soc | volts | amps | watts
  · rw [List.mem_ite_nil_right, List.mem_singleton] at soc
    rw [soc.2]
    exact sample_stopMeterValue (by decide)
  · exact perPhase (by decide) volts
  · exact perPhase (by decide) amps
  · exact perPhase (by decide) watts

section Created

variable {context : MeteringContext} {chargingStation : ChargingStation}
variable {transaction transaction' : Transaction} {stopTransaction : OCPPStopTransactionRequest}
variable {consumptions : List Consumption} {date : Timestamp}

/-- A stop that is dated before the last reading adds no consumption. -/
theorem stopConsumptions_of_past
    (h : createConsumptionsFromMeterValues context chargingStation transaction
      (createTransactionStopMeterValues chargingStation transaction stopTransaction) =
        .ok (transaction', consumptions))
    (hdate : transaction.register.time = some date) (past : stopTransaction.timestamp < date) :
    consumptions = [] := by
  have apart := endsApart_of_create h
  have dropped : takenSamples transaction
      (createTransactionStopMeterValues chargingStation transaction stopTransaction) = [] := by
    refine Register.taken_eq_nil fun sample mem admits => ?_
    obtain ⟨meterValue, hmem, rfl⟩ := List.mem_map.mp mem
    have time := admits date hdate
    rw [sample_time, timestamp_of_mem_stopMeterValues (List.mem_of_mem_filter hmem)] at time
    exact absurd past (not_lt.mpr time)
  refine List.eq_nil_iff_forall_not_mem.mpr fun consumption mem => ?_
  obtain ⟨sample, taken, -⟩ := apart.taken _ (List.mem_map_of_mem mem)
  rw [dropped] at taken
  cases taken

/-- A meter value that is taken leaves a consumption. -/
theorem ReadsAll.ne_nil_of_taken {meterValues : List OCPPNormalizedMeterValue}
    {unsorted : List Consumption} {sample : Sample Timestamp ℚ}
    (reads : ReadsAll transaction [] meterValues transaction' unsorted)
    (counts : CountsRegister transaction) (taken : sample ∈ takenSamples transaction meterValues) :
    unsorted ≠ [] := by
  rintro rfl
  obtain ⟨content, hcontent, -⟩ := Register.lookup_of_taken transaction.timestamp [] taken
  have nothing := reads.filed_eq counts
  change [] = Register.fileAll transaction.timestamp transaction.register (samples meterValues) []
    at nothing
  rw [← nothing] at hcontent
  cases hcontent

/-- **The consumption of a stop** has what the meter has moved on since the last reading. -/
theorem stopConsumptions_of_read
    (h : createConsumptionsFromMeterValues context chargingStation transaction
      (createTransactionStopMeterValues chargingStation transaction stopTransaction) =
        .ok (transaction', consumptions))
    (counts : CountsRegister transaction) (hdate : transaction.register.time = some date)
    (read : date ≤ stopTransaction.timestamp)
    (notBelow : transaction.register.value ≤ stopTransaction.meterStop) :
    ∃ consumption, consumptions = [consumption] ∧
      consumption.key = (transaction.id, stopTransaction.timestamp) ∧
      consumption.consumptionWh.getD 0 =
        stopTransaction.meterStop - transaction.register.value ∧
      consumption.cumulatedConsumptionWh.getD 0 =
        stopTransaction.meterStop - transaction.meterStart := by
  obtain ⟨others, hsamples, hothers⟩ :=
    samples_stopMeterValues chargingStation transaction stopTransaction
  have notReading : ∀ sample ∈ others, ¬ sample.isReading := by
    intro sample mem
    rw [hothers sample mem]
    exact Bool.false_ne_true
  have admits : transaction.register.Admits
      (.reading stopTransaction.timestamp (some stopTransaction.meterStop)) := by
    intro time htime
    rw [hdate] at htime
    cases htime
    exact read
  -- The register moves on to the meter of the stop.
  have final : (Register.final transaction.register
      (samples (createTransactionStopMeterValues chargingStation transaction
        stopTransaction))).value = stopTransaction.meterStop := by
    rw [hsamples, Register.final_cons_of_admits admits, Register.final_eq_of_no_reading
      fun sample mem => notReading sample (Register.mem_of_mem_taken mem)]
    rw [Register.Mark.next, if_pos notBelow]
  have first : (Sample.reading stopTransaction.timestamp (some stopTransaction.meterStop)) ∈
      takenSamples transaction
        (createTransactionStopMeterValues chargingStation transaction stopTransaction) := by
    rw [takenSamples, hsamples, Register.taken_cons_of_admits admits]
    exact List.mem_cons_self
  have keeps : KeepsTotal transaction
      (createTransactionStopMeterValues chargingStation transaction stopTransaction) := by
    refine ⟨.inr (.inr (.inl ⟨_, first, rfl⟩)), ?_⟩
    rw [hsamples]
    exact Register.raisesAtNewest_cons notReading
  obtain ⟨unsorted, reads, sorted⟩ := createConsumptions_ok h
  have one := length_stopConsumptions_le_one h
  have length := (perm_of_sortConsumptions sorted).length_eq
  rw [List.length_map] at length
  have some_there : unsorted.length ≠ 0 := fun none_there =>
    reads.ne_nil_of_taken counts first (List.length_eq_zero_iff.mp none_there)
  obtain ⟨consumption, rfl⟩ : ∃ consumption, consumptions = [consumption] :=
    List.length_eq_one_iff.mp (by omega)
  have apart := endsApart_of_create h
  have mem : consumption.key ∈ [consumption].map Consumption.key := List.mem_cons_self
  obtain ⟨sample, taken, time⟩ := apart.taken _ mem
  have sum := sum_consumptionWh_eq_total h
  rw [(Register.total_bookAll_nil_eq_iff _ _).mpr (hsamples ▸
    Register.raisesStandLast_cons notReading), final] at sum
  have cumulated : consumption.cumulatedConsumptionWh.getD 0 =
      transaction'.currentTotalConsumptionWh := total_of_getLast? h counts hdate keeps rfl
  refine ⟨consumption, rfl, ?_, ?_, ?_⟩
  · refine Prod.ext (apart.sameTransaction _ mem) (time.symm.trans ?_)
    have mem := Register.mem_of_mem_taken taken
    rw [hsamples] at mem
    rcases List.mem_cons.mp mem with rfl | other
    · rfl
    · rw [hothers _ other]
      rfl
  · simpa using sum
  · rw [cumulated, reads.countsRegister counts, reads.register_eq, final, reads.meterStart_eq]

end Created

end OCPPUtils

namespace OCPPService

open OCPPUtils

/-! ## The stop -/

/-- The pricing of the consumption of a stop changes neither its energy nor its total. -/
theorem applyStopConsumption_ok {context : StopContext} {chargingStation : ChargingStation}
    {transaction : Transaction} {consumption : Consumption} {applied : Transaction × Consumption}
    (h : applyStopConsumption context chargingStation transaction consumption = .ok applied) :
    applied.1.meterStart = transaction.meterStart ∧
      applied.1.currentTotalConsumptionWh = consumption.cumulatedConsumptionWh.getD 0 ∧
      applied.2.energy = consumption.energy := by
  unfold applyStopConsumption at h
  dsimp only at h
  split at h
  · have same := sameTotal_processTransactionPricing h
    exact ⟨same.meterStart, same.total, energy_processTransactionPricing h⟩
  · cases h
    exact ⟨rfl, rfl, rfl⟩

/-- The stop reads the register: it is of the time of the last reading or later, and no
`Transaction.End` has come before it. -/
def ReadsMeter (transaction : Transaction) (stopTransaction : OCPPStopTransactionRequest) : Prop :=
  transaction.transactionEndReceived = false ∧
    ∀ date ∈ transaction.register.time, date ≤ stopTransaction.timestamp

section Consumed

variable {context : StopContext} {chargingStation : ChargingStation}
variable {transaction : Transaction} {stopTransaction : OCPPStopTransactionRequest}
variable {consumed : Transaction × Option Consumption}

theorem addStopInactivity_ok (transaction : Transaction)
    (stopTransaction : OCPPStopTransactionRequest) :
    SameTotal transaction (addStopInactivity transaction stopTransaction) := by
  unfold addStopInactivity
  split
  · exact .refl transaction
  · dsimp only
    split <;> exact ⟨⟨rfl, rfl⟩, rfl⟩

/-- A stop that does not read the register leaves the total, and has no consumption. -/
theorem lastConsumption_of_not_read
    (h : lastConsumption context chargingStation transaction stopTransaction = .ok consumed)
    (counts : CountsRegister transaction) (dated : transaction.register.time.isSome)
    (unread : ¬ ReadsMeter transaction stopTransaction) :
    consumed.1.meterStart = transaction.meterStart ∧
      consumed.1.currentTotalConsumptionWh = transaction.currentTotalConsumptionWh ∧
      consumed.2 = none := by
  unfold lastConsumption at h
  cases ended : transaction.transactionEndReceived with
  | true =>
      rw [if_pos ended] at h
      cases h
      have same := addStopInactivity_ok transaction stopTransaction
      exact ⟨same.meterStart, same.total, rfl⟩
  | false =>
      rw [if_neg (by rw [ended]; exact Bool.false_ne_true)] at h
      obtain ⟨⟨created, consumptions⟩, hcreated, h⟩ := Outcome.bind_eq_ok.mp h
      obtain ⟨date, hdate⟩ := Option.isSome_iff_exists.mp dated
      have past : stopTransaction.timestamp < date := by
        refine not_le.mp fun read => unread ⟨ended, ?_⟩
        intro date' hdate'
        rw [hdate] at hdate'
        cases hdate'
        exact read
      obtain rfl := stopConsumptions_of_past hcreated hdate past
      obtain ⟨unsorted, reads, sorted⟩ := createConsumptions_ok hcreated
      -- Nothing has been read, so the register stands where it stood.
      have nothing : unsorted = [] := by
        have length := (perm_of_sortConsumptions sorted).length_eq
        rw [List.length_map] at length
        exact List.length_eq_zero_iff.mp length.symm
      subst nothing
      have untaken : takenSamples transaction (createTransactionStopMeterValues chargingStation
          transaction stopTransaction) = [] := by
        refine List.eq_nil_iff_forall_not_mem.mpr fun sample taken => ?_
        exact reads.ne_nil_of_taken counts taken rfl
      cases h
      refine ⟨reads.meterStart_eq, ?_, rfl⟩
      rw [reads.countsRegister counts, counts, reads.meterStart_eq, reads.register_eq,
        Register.final_eq_of_no_reading fun sample taken => ?_]
      rw [show Register.taken transaction.register _ = [] from untaken] at taken
      cases taken

/-- **What a stop reads** is in the total and in the consumption that is stored. -/
theorem lastConsumption_of_read
    (h : lastConsumption context chargingStation transaction stopTransaction = .ok consumed)
    (counts : CountsRegister transaction) (dated : transaction.register.time.isSome)
    (read : ReadsMeter transaction stopTransaction)
    (notBelow : transaction.register.value ≤ stopTransaction.meterStop) :
    consumed.1.meterStart = transaction.meterStart ∧
      consumed.1.currentTotalConsumptionWh = stopTransaction.meterStop - transaction.meterStart ∧
      ∃ consumptionMDB, consumed.2 = some consumptionMDB ∧
        consumptionMDB.key = (transaction.id, stopTransaction.timestamp) ∧
        consumptionMDB.consumptionWh.getD 0 =
          stopTransaction.meterStop - transaction.register.value := by
  unfold lastConsumption at h
  rw [if_neg (by rw [read.1]; exact Bool.false_ne_true)] at h
  obtain ⟨⟨created, consumptions⟩, hcreated, h⟩ := Outcome.bind_eq_ok.mp h
  obtain ⟨date, hdate⟩ := Option.isSome_iff_exists.mp dated
  obtain ⟨consumption, rfl, hkey, wh, cumulated⟩ :=
    stopConsumptions_of_read hcreated counts hdate (read.2 date hdate) notBelow
  obtain ⟨unsorted, reads, -⟩ := createConsumptions_ok hcreated
  obtain ⟨⟨applied, priced⟩, happlied, h⟩ := Outcome.bind_eq_ok.mp h
  obtain ⟨consumptionMDB, built, h⟩ := Outcome.bind_eq_ok.mp h
  cases h
  obtain ⟨meterStart, total, energy⟩ := applyStopConsumption_ok happlied
  have energy := (energy_buildConsumptionMDB built).trans energy
  refine ⟨meterStart.trans reads.meterStart_eq, total.trans cumulated, consumptionMDB, rfl, ?_, ?_⟩
  · exact (congrArg Prod.fst energy).trans hkey
  · exact (congrArg Prod.snd energy).trans wh

end Consumed

theorem sameTotal_signedData (transaction : Transaction)
    (stopTransaction : OCPPStopTransactionRequest) :
    SameTotal transaction
      (checkAndUpdateTransactionWithSignedDataInStopTransaction transaction stopTransaction) :=
  .of_eq Transaction.unmeasured (fun _ => ⟨⟨rfl, rfl⟩, rfl⟩)
    (unmeasured_signedData transaction stopTransaction)

theorem meterStart_transactionMDB (transaction : Transaction) :
    (TransactionStorage.transactionMDB transaction).meterStart = transaction.meterStart := by
  unfold TransactionStorage.transactionMDB
  split <;> rfl

/-- The stop takes over the total, and the meter of the request. -/
theorem stop_stopTransactionWith {context : StopContext} {attempt : StopAttempt}
    {stopTransaction : OCPPStopTransactionRequest} {chargingStation : ChargingStation}
    {isSoftStop : Bool} {transaction stopped : Transaction}
    (h : stopTransactionWith context attempt stopTransaction chargingStation isSoftStop
      transaction = .ok stopped) :
    stopped.meterStart = transaction.meterStart ∧
      ∃ stop, stopped.stop = some stop ∧ stop.meterStop = stopTransaction.meterStop ∧
        stop.totalConsumptionWh = transaction.currentTotalConsumptionWh := by
  obtain ⟨billed, hbilled, h⟩ := Outcome.bind_eq_ok.mp h
  cases h
  have sameStop := (OCPPUtils.sameSession_processTransactionBilling hbilled).stop
  have sameTotal := sameTotal_processTransactionBilling hbilled
  have signed := sameTotal_signedData transaction stopTransaction
  exact ⟨sameTotal.meterStart.trans signed.meterStart, _, sameStop, rfl, signed.total⟩

/-- The consumption of a stop is of its transaction. -/
theorem transactionId_lastConsumption {context : StopContext} {chargingStation : ChargingStation}
    {transaction : Transaction} {stopTransaction : OCPPStopTransactionRequest}
    {consumed : Transaction × Option Consumption}
    (h : lastConsumption context chargingStation transaction stopTransaction = .ok consumed) :
    ∀ consumptionMDB ∈ consumed.2, consumptionMDB.transactionId = transaction.id := by
  unfold lastConsumption at h
  split at h
  · cases h
    intro _ mem
    cases mem
  · obtain ⟨⟨created, consumptions⟩, hcreated, h⟩ := Outcome.bind_eq_ok.mp h
    have apart := endsApart_of_create hcreated
    cases consumptions with
    | nil =>
        cases h
        intro _ mem
        cases mem
    | cons consumption rest =>
        obtain ⟨applied, happlied, h⟩ := Outcome.bind_eq_ok.mp h
        obtain ⟨consumptionMDB, built, h⟩ := Outcome.bind_eq_ok.mp h
        cases h
        intro _ mem
        cases mem
        have energy :=
          (energy_buildConsumptionMDB built).trans (applyStopConsumption_ok happlied).2.2
        rw [← apart.sameTransaction consumption.key List.mem_cons_self]
        exact congrArg (fun energy => energy.1.1) energy

/-- Unless a step fails, the stopped transaction is there to be saved. -/
theorem exists_stopped {attempt : StopAttempt} {context : StopContext} {isSoftStop : Bool}
    (h : attempt.failure context isSoftStop = none ∨
      attempt.failure context isSoftStop = some .deletingChargingProfiles) :
    ∃ consumed stopped, attempt.consumed context isSoftStop = .ok consumed ∧
      attempt.stopped context isSoftStop consumed.1 = .ok stopped := by
  unfold StopAttempt.failure at h
  split at h
  · exact absurd h (by simp)
  · exact absurd h (by simp)
  · rename_i transaction consumption _ hconsumed
    have reached : attempt.failureToStop context isSoftStop transaction = none ∨
        attempt.failureToStop context isSoftStop transaction =
          some .deletingChargingProfiles := by
      split at h
      · exact absurd h (by simp)
      · exact h
    unfold StopAttempt.failureToStop at reached
    split at reached
    · exact absurd reached (by simp)
    · rename_i stopped hstopped
      exact ⟨_, stopped, hconsumed, hstopped⟩

end OCPPService

open OCPPService

namespace StopAttempt

variable {attempt : StopAttempt} {context : StopContext} {isSoftStop : Bool} {store : Store}

/-- What is stored when the stopped transaction has been saved. -/
theorem storeAfter_of_stopped {consumed : Transaction × Option Consumption} {stopped : Transaction}
    (ended : attempt.failure context isSoftStop = none ∨
      attempt.failure context isSoftStop = some .deletingChargingProfiles)
    (hconsumed : attempt.consumed context isSoftStop = .ok consumed)
    (hstopped : attempt.stopped context isSoftStop consumed.1 = .ok stopped) :
    attempt.storeAfter context isSoftStop store (attempt.failure context isSoftStop) =
      ⟨store.chargingStations.save attempt.freed,
        store.transactions.save (TransactionStorage.transactionMDB stopped),
        store.consumptions.saveAll consumed.2.toList⟩ := by
  have consumption : attempt.consumption context isSoftStop = consumed.2 := by
    rw [StopAttempt.consumption, hconsumed]
    rfl
  have transaction : attempt.stoppedTransaction context isSoftStop = some stopped := by
    rw [StopAttempt.stoppedTransaction, hconsumed, Outcome.toOption_eq_some.mpr]
    · rw [Option.bind_some, hstopped]
      rfl
    · rfl
  have after : attempt.storeAfter context isSoftStop store (attempt.failure context isSoftStop) =
      saveStopped (attempt.stoppedTransaction context isSoftStop)
        (addConsumption (attempt.consumption context isSoftStop) (attempt.freeConnector store)) := by
    rcases ended with failure | failure <;> rw [failure] <;> rfl
  rw [after, transaction, consumption]
  cases consumed.2 <;> rfl

/-- What is stored of a stop that has been saved. -/
theorem storedWh_storeAfter {consumed : Transaction × Option Consumption} {stopped : Transaction}
    (ended : attempt.failure context isSoftStop = none ∨
      attempt.failure context isSoftStop = some .deletingChargingProfiles)
    (hconsumed : attempt.consumed context isSoftStop = .ok consumed)
    (hstopped : attempt.stopped context isSoftStop consumed.1 = .ok stopped) (id : ℕ) :
    (attempt.storeAfter context isSoftStop store
      (attempt.failure context isSoftStop)).storedWh id =
      store.storedWh id +
        if id = attempt.transaction.id then
          (consumed.2.map fun consumption =>
            consumption.consumptionWh.getD 0 - store.whAt consumption.key).getD 0
        else 0 := by
  rw [storeAfter_of_stopped ended hconsumed hstopped]
  have sameTransaction := transactionId_lastConsumption hconsumed
  cases hconsumption : consumed.2 with
  | none =>
      rw [Option.map_none, Option.getD_none, ite_self, add_zero]
      rfl
  | some consumption =>
      rw [@Store.storedWh_saveAll _ attempt.transaction.id _ ?_ ?_]
      · simp
      · intro key mem
        obtain rfl := List.mem_singleton.mp mem
        exact sameTransaction consumption (by rw [hconsumption]; rfl)
      · exact List.nodup_singleton _

end StopAttempt

/-- **A stop keeps the balance** unless it fails after its consumption has been saved. -/
theorem Balanced.stop {store : Store} (balanced : Balanced store) {context : StopContext}
    {headers : OCPPHeader} {stopTransaction : OCPPStopTransactionRequest}
    {isSoftStop isStoppedByCentralSystem : Bool}
    (keeps : ∀ attempt,
      checkStopTransaction context headers stopTransaction isStoppedByCentralSystem store =
        .ok (some attempt) → attempt.failure context isSoftStop ≠ some .savingTransaction) :
    Balanced (handleStopTransaction context headers stopTransaction isSoftStop
      isStoppedByCentralSystem store).2 := by
  cases checked : checkStopTransaction context headers stopTransaction isStoppedByCentralSystem
      store with
  | error error =>
      rw [handleStopTransaction_of_error checked]
      exact balanced
  | ok checkedAttempt =>
    cases checkedAttempt with
    | none =>
        rw [handleStopTransaction_of_bypass checked]
        exact balanced
    | some attempt =>
      rw [handleStopTransaction_of_attempt checked]
      dsimp only
      have saves (ended : attempt.failure context isSoftStop = none ∨
          attempt.failure context isSoftStop = some .deletingChargingProfiles) :
          Balanced (attempt.storeAfter context isSoftStop store
            (attempt.failure context isSoftStop)) := by
        obtain ⟨consumed, stopped, hconsumed, hstopped⟩ := exists_stopped ended
        have same : (TransactionStorage.transactionMDB stopped).id = attempt.transaction.id :=
          (TransactionStorage.id_transactionMDB stopped).trans
            ((stopTransactionWith_ok hstopped).1.trans (sameSession_lastConsumption hconsumed).id)
        have after := @StopAttempt.storedWh_storeAfter _ _ _ store _ _ ended hconsumed hstopped
        have store' := @StopAttempt.storeAfter_of_stopped _ _ _ store _ _ ended hconsumed hstopped
        refine balanced.save (TransactionStorage.transactionMDB stopped) (by rw [store']) ?_ ?_ ?_
        · intro running
          have stop := TransactionStorage.isSome_stop_transactionMDB stopped
          rw [running, (stopTransactionWith_ok hstopped).2] at stop
          cases stop
        · intro id other
          rw [after, if_neg (same ▸ other), add_zero]
        · intro consumption mem
          rw [store'] at mem
          rcases Collection.mem_saveAll mem with new | old
          · refine .inr (same ▸ ?_)
            exact transactionId_lastConsumption hconsumed consumption (Option.mem_toList.mp new)
          · exact .inl old
      cases failure : attempt.failure context isSoftStop with
      | none => exact failure ▸ saves (.inl failure)
      | some failed =>
        cases failed with
        | savingChargingStation => exact balanced
        | addingConsumption => exact balanced.setChargingStations _
        | savingTransaction => exact absurd failure (keeps attempt checked)
        | deletingChargingProfiles => exact failure ▸ saves (.inr failure)

/-! ## Runs -/

/-- What is asked of the server. -/
inductive SessionEvent
  | startTransaction (context : StartContext) (headers : OCPPHeader)
      (startTransaction : OCPPStartTransactionRequest)
  | meterValues (context : MeterValuesHandlerContext) (headers : OCPPHeader)
      (meterValues : OCPPMeterValuesRequest)
  | stopTransaction (context : StopContext) (headers : OCPPHeader)
      (stopTransaction : OCPPStopTransactionRequest) (isSoftStop isStoppedByCentralSystem : Bool)

namespace Store

/-- The database after a request; the clean-up of a start never takes a third turn. -/
def handle (store : Store) : SessionEvent → Store
  | .startTransaction context headers startTransaction =>
      (handleStartTransaction context 2 headers startTransaction store).2
  | .meterValues context headers meterValues =>
      (handleMeterValuesRequest context headers meterValues store).2
  | .stopTransaction context headers stopTransaction isSoftStop isStoppedByCentralSystem =>
      (handleStopTransaction context headers stopTransaction isSoftStop isStoppedByCentralSystem
        store).2

/-- The step relation. -/
def Handles (store : Store) (event : SessionEvent) (store' : Store) : Prop :=
  store' = store.handle event

/-- **The condition on a run**: no request loses energy that is stored, or leaves some of it
behind when it fails. -/
def KeepsBalance (store : Store) : SessionEvent → Prop
  | .startTransaction .. => True
  | .meterValues context headers meterValues =>
      ∀ attempt transaction consumptions,
        checkMeterValues headers meterValues store = .ok (some attempt) →
        prepareConsumptions context.toMeterValuesContext attempt =
          .ok (transaction, consumptions) →
        attempt.KeepsBalance context store transaction consumptions
  | .stopTransaction context headers stopTransaction isSoftStop isStoppedByCentralSystem =>
      ∀ attempt,
        checkStopTransaction context headers stopTransaction isStoppedByCentralSystem store =
          .ok (some attempt) → attempt.failure context isSoftStop ≠ some .savingTransaction

/-- The database before anything has been charged. -/
def uncharged (chargingStations : Collection ChargingStation.id) : Store :=
  ⟨chargingStations, Collection.empty, Collection.empty⟩

theorem balanced_uncharged (chargingStations : Collection ChargingStation.id) :
    Balanced (uncharged chargingStations) where
  running _ _ found _ := by cases found
  known _ mem := by cases mem

/-- A request that meets the condition keeps the balance. -/
theorem balanced_handle {store store' : Store} {event : SessionEvent} (balanced : Balanced store)
    (keeps : store.KeepsBalance event) (step : store.Handles event store') : Balanced store' := by
  subst step
  cases event with
  | startTransaction context headers startTransaction =>
      exact balanced.start context 0 headers startTransaction
  | meterValues context headers meterValues => exact balanced.meterValues keeps
  | stopTransaction context headers stopTransaction isSoftStop isStoppedByCentralSystem =>
      exact balanced.stop keeps

/-- The transaction is stopped at what is stored for it, which is what the meter shows. -/
def IsStoppedAsMetered (store : Store) (transactionId : ℕ) : Prop :=
  ∃ transaction ∈ store.transactions.find transactionId, ∃ stop ∈ transaction.stop,
    store.storedWh transactionId = stop.totalConsumptionWh ∧
      stop.totalConsumptionWh = stop.meterStop - transaction.meterStart

end Store

namespace StopAttempt

/-- **The condition on a stop**: what it reads replaces no energy that is stored; a stop that
does not read the meter shows the last reading. -/
def AddsUp (attempt : StopAttempt) (isSoftStop : Bool) (store : Store) : Prop :=
  (ReadsMeter attempt.transaction (attempt.request isSoftStop) →
      store.whAt (attempt.transaction.id, (attempt.request isSoftStop).timestamp) = 0) ∧
    (¬ ReadsMeter attempt.transaction (attempt.request isSoftStop) →
      (attempt.request isSoftStop).meterStop = OCPPUtils.highestReading attempt.transaction)

end StopAttempt

namespace Store

/-- **The energy of a session.**  After a run whose requests all meet the condition, an
accepted stop that is not below the last reading leaves the energy stored that was metered,
just when it adds up. -/
theorem isStoppedAsMetered_iff_of_run {chargingStations : Collection ChargingStation.id}
    {events : List SessionEvent} {store : Store} {context : StopContext} {headers : OCPPHeader}
    {stopTransaction : OCPPStopTransactionRequest} {isSoftStop isStoppedByCentralSystem : Bool}
    {attempt : StopAttempt}
    (run : Transition.Run (Transition.guarded KeepsBalance Handles) (uncharged chargingStations)
      events store)
    (checked : checkStopTransaction context headers stopTransaction isStoppedByCentralSystem store =
      .ok (some attempt))
    (accepted : (handleStopTransaction context headers stopTransaction isSoftStop
      isStoppedByCentralSystem store).1 = .accepted)
    (notBelow : OCPPUtils.highestReading attempt.transaction ≤
      (attempt.request isSoftStop).meterStop) :
    (store.handle (.stopTransaction context headers stopTransaction isSoftStop
        isStoppedByCentralSystem)).IsStoppedAsMetered stopTransaction.transactionId ↔
      attempt.AddsUp isSoftStop store := by
  have balanced : Balanced store := run.invariant (balanced_uncharged chargingStations)
    fun _ _ _ balanced step => balanced_handle balanced step.1 step.2
  obtain ⟨-, found, running⟩ := checkStopTransaction_ok checked
  have sameID : attempt.transaction.id = stopTransaction.transactionId :=
    Collection.key_of_find found
  obtain ⟨dated, counts, stored⟩ := balanced.running _ _ found running
  rw [OCPPUtils.highestReading_eq_register] at notBelow
  have ended : attempt.failure context isSoftStop = none := by
    rw [handleStopTransaction_of_attempt checked] at accepted
    by_contra failed
    rw [if_neg failed] at accepted
    cases accepted
  obtain ⟨consumed, stopped, hconsumed, hstopped⟩ := exists_stopped (.inl ended)
  obtain ⟨meterStart, stop, hstop, meterStop, total⟩ := stop_stopTransactionWith hstopped
  have stoppedID : stopped.id = stopTransaction.transactionId :=
    ((stopTransactionWith_ok hstopped).1.trans (sameSession_lastConsumption hconsumed).id).trans
      sameID
  -- What the stop leaves.
  have after : store.handle (.stopTransaction context headers stopTransaction isSoftStop
      isStoppedByCentralSystem) =
        attempt.storeAfter context isSoftStop store (attempt.failure context isSoftStop) :=
    congrArg Prod.snd (handleStopTransaction_of_attempt checked)
  have found' : (attempt.storeAfter context isSoftStop store
      (attempt.failure context isSoftStop)).transactions.find stopTransaction.transactionId =
        some (TransactionStorage.transactionMDB stopped) := by
    rw [StopAttempt.storeAfter_of_stopped (.inl ended) hconsumed hstopped, ← stoppedID,
      ← TransactionStorage.id_transactionMDB]
    exact Collection.find_save_self
  have metered : (store.handle (.stopTransaction context headers stopTransaction isSoftStop
      isStoppedByCentralSystem)).IsStoppedAsMetered stopTransaction.transactionId ↔
        (attempt.storeAfter context isSoftStop store
            (attempt.failure context isSoftStop)).storedWh attempt.transaction.id =
          consumed.1.currentTotalConsumptionWh ∧
        consumed.1.currentTotalConsumptionWh =
          (attempt.request isSoftStop).meterStop - consumed.1.meterStart := by
    rw [after, sameID, ← total, ← meterStop, ← meterStart]
    constructor
    · rintro ⟨transaction, mem, stop', hstop', storedWh, meteredWh⟩
      obtain rfl := Option.some.inj (found'.symm.trans mem)
      rw [TransactionStorage.stop_transactionMDB, hstop] at hstop'
      cases hstop'
      rw [meterStart_transactionMDB] at meteredWh
      exact ⟨storedWh, meteredWh⟩
    · rintro ⟨storedWh, meteredWh⟩
      refine ⟨_, found', { stop with priceUnit := stopped.priceUnit }, ?_, storedWh, ?_⟩
      · rw [TransactionStorage.stop_transactionMDB, hstop]
        rfl
      · rw [meterStart_transactionMDB]
        exact meteredWh
  rw [metered, StopAttempt.storedWh_storeAfter (.inl ended) hconsumed hstopped, if_pos rfl, stored,
    StopAttempt.AddsUp, OCPPUtils.highestReading_eq_register]
  rcases em (ReadsMeter attempt.transaction (attempt.request isSoftStop)) with read | unread
  · obtain ⟨meterStart', total', consumption, hconsumption, key, wh⟩ :=
      lastConsumption_of_read hconsumed counts dated read notBelow
    rw [hconsumption, Option.map_some, Option.getD_some, key, wh, total', meterStart', counts]
    constructor
    · rintro ⟨addsUp, -⟩
      exact ⟨fun _ => by linarith, fun unread => absurd read unread⟩
    · rintro ⟨nothing, -⟩
      exact ⟨by rw [nothing read]; ring, rfl⟩
  · obtain ⟨meterStart', total', hconsumption⟩ :=
      lastConsumption_of_not_read hconsumed counts dated unread
    rw [hconsumption, Option.map_none, Option.getD_none, total', meterStart', counts]
    constructor
    · rintro ⟨-, meteredWh⟩
      exact ⟨fun read => absurd read unread, fun _ => by linarith⟩
    · rintro ⟨-, last⟩
      exact ⟨add_zero _, by rw [last unread]⟩

/-! ## A session of one reading -/

/-- The header of a request: the station is read from the database. -/
def exampleHeaders (store : Store) : OCPPHeader :=
  { chargeBoxIdentity := "CS-1", chargingStation := store.chargingStations.find "CS-1" }

/-- Transaction 7 starts at 1000 Wh. -/
def exampleStarted : Store :=
  (uncharged (exampleStartStore 0).chargingStations).handle
    (.startTransaction exampleStartContext exampleStartHeaders exampleStartRequest)

/-- The meter shows 2000 Wh after a minute. -/
def exampleReading : SessionEvent :=
  .meterValues {} (exampleHeaders exampleStarted)
    { connectorId := 1, values := [OCPPUtils.energyValue .samplePeriodic 3660000 2000] }

/-- The database after the reading. -/
def exampleMetered : Store := exampleStarted.handle exampleReading

/-- A stop of transaction 7. -/
def exampleStop (meterStop : ℚ) (timestamp : Timestamp) : OCPPStopTransactionRequest :=
  { idTag := "TAG-2", meterStop := meterStop, timestamp := timestamp, transactionId := 7 }

/-- The reading adds 1000 Wh to what is stored and to the total. -/
theorem keepsBalance_exampleReading : exampleStarted.KeepsBalance exampleReading := by
  intro attempt transaction consumptions checked prepared
  have computed : ((checkMeterValues (exampleHeaders exampleStarted)
      { connectorId := 1, values := [OCPPUtils.energyValue .samplePeriodic 3660000 2000] }
      exampleStarted).toOption.join).all fun attempt : MeterValuesAttempt =>
        decide ((∃ sample ∈ OCPPUtils.takenSamples attempt.transaction attempt.values,
            sample.isReading) ∧
          Register.RaisesAtNewest attempt.transaction.register []
            (OCPPUtils.samples attempt.values) ∧
          Register.RaisesStandLast attempt.transaction.register
            (OCPPUtils.samples attempt.values) ∧
          ∀ sample ∈ OCPPUtils.takenSamples attempt.transaction attempt.values,
            exampleStarted.whAt (attempt.transaction.id, sample.time) = 0) &&
        (prepareConsumptions {} attempt).toOption.all fun prepared =>
          (prepared.2.foldlM (applyConsumption {} attempt.chargingStation)
            (prepared.1, [])).isOk := by
    decide +kernel
  rw [checked] at computed
  change (_ && _) = true at computed
  rw [Bool.and_eq_true, decide_eq_true_eq] at computed
  obtain ⟨⟨reads, raises, raisesStandLast, endsAnew⟩, whole⟩ := computed
  rw [show prepareConsumptions {} attempt = .ok (transaction, consumptions) from prepared] at whole
  refine ⟨⟨.inr (.inr (.inl reads)), raises⟩, raisesStandLast, endsAnew, ?_⟩
  cases consumptions with
  | nil => exact trivial
  | cons consumption rest => exact fun _ _ => ⟨whole, rfl⟩

/-- The run of the start and the reading. -/
theorem run_exampleMetered :
    Transition.Run (Transition.guarded KeepsBalance Handles)
      (uncharged (exampleStartStore 0).chargingStations)
      [.startTransaction exampleStartContext exampleStartHeaders exampleStartRequest,
        exampleReading] exampleMetered :=
  .snoc (.single ⟨trivial, rfl⟩) ⟨keepsBalance_exampleReading, rfl⟩

/-- A stop of transaction 7 by the station. -/
def exampleStopEvent (meterStop : ℚ) (timestamp : Timestamp) : SessionEvent :=
  .stopTransaction exampleStartContext.stopContext (exampleHeaders exampleMetered)
    (exampleStop meterStop timestamp) false false

/-- A stop at 3000 Wh a minute after the reading. -/
theorem isStoppedAsMetered_iff_of_run_later :
    (exampleMetered.handle (exampleStopEvent 3000 3720000)).IsStoppedAsMetered 7 := by
  have computed : (checkStopTransaction exampleStartContext.stopContext
      (exampleHeaders exampleMetered) (exampleStop 3000 3720000) false
      exampleMetered).toOption.join.any fun attempt =>
        OCPPUtils.highestReading attempt.transaction ≤ (attempt.request false).meterStop ∧
          attempt.transaction.transactionEndReceived = false ∧
          (∀ date ∈ attempt.transaction.register.time,
            date ≤ (attempt.request false).timestamp) ∧
          exampleMetered.whAt (attempt.transaction.id, (attempt.request false).timestamp) = 0 := by
    decide +kernel
  have accepted : (handleStopTransaction exampleStartContext.stopContext
      (exampleHeaders exampleMetered) (exampleStop 3000 3720000) false false exampleMetered).1 =
        .accepted := by
    decide +kernel
  obtain ⟨attempt, hattempt, holds⟩ := (Option.any_eq_true _ _).mp computed
  obtain ⟨notBelow, notEnded, later, nothing⟩ := of_decide_eq_true holds
  have checked := Outcome.toOption_eq_some.mp (Option.join_eq_some_iff.mp hattempt)
  refine (isStoppedAsMetered_iff_of_run run_exampleMetered checked accepted notBelow).mpr ?_
  exact ⟨fun _ => nothing, fun unread => absurd ⟨notEnded, later⟩ unread⟩

/-- A stop at the instant of the last reading, and at its meter: its consumption takes the
place of that of the reading. -/
theorem not_isStoppedAsMetered_at_last_reading :
    ∃ attempt,
      Transition.Run Handles (uncharged (exampleStartStore 0).chargingStations)
        [.startTransaction exampleStartContext exampleStartHeaders exampleStartRequest,
          exampleReading] exampleMetered ∧
      checkStopTransaction exampleStartContext.stopContext (exampleHeaders exampleMetered)
        (exampleStop 2000 3660000) false exampleMetered = .ok (some attempt) ∧
      (handleStopTransaction exampleStartContext.stopContext (exampleHeaders exampleMetered)
        (exampleStop 2000 3660000) false false exampleMetered).1 = .accepted ∧
      OCPPUtils.highestReading attempt.transaction ≤ (attempt.request false).meterStop ∧
      (exampleMetered.handle (exampleStopEvent 2000 3660000)).storedWh 7 = 0 ∧
      ¬ (exampleMetered.handle (exampleStopEvent 2000 3660000)).IsStoppedAsMetered 7 := by
  have computed : (checkStopTransaction exampleStartContext.stopContext
      (exampleHeaders exampleMetered) (exampleStop 2000 3660000) false
      exampleMetered).toOption.join.any fun attempt =>
        OCPPUtils.highestReading attempt.transaction ≤ (attempt.request false).meterStop := by
    decide +kernel
  obtain ⟨attempt, hattempt, notBelow⟩ := (Option.any_eq_true _ _).mp computed
  have stored : (exampleMetered.handle (exampleStopEvent 2000 3660000)).storedWh 7 = 0 := by
    decide +kernel
  have stopped : (((exampleMetered.handle (exampleStopEvent 2000 3660000)).transactions.find
      7).bind Transaction.stop).map TransactionStop.totalConsumptionWh = some 1000 := by
    decide +kernel
  refine ⟨attempt, run_exampleMetered.of_guarded,
    Outcome.toOption_eq_some.mp (Option.join_eq_some_iff.mp hattempt), by decide +kernel,
    of_decide_eq_true notBelow, stored, ?_⟩
  rintro ⟨transaction, found, stop, hstop, same, -⟩
  rw [Option.mem_def.mp found, Option.bind_some, Option.mem_def.mp hstop, Option.map_some,
    Option.some.injEq, ← same, stored] at stopped
  exact absurd stopped (by decide)

end Store

end EvServer
