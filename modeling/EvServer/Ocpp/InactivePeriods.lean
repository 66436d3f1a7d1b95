import EvServer.Ocpp.Frames

/-!
# The periods counted as inactivity

A reading of the energy register that is not above the register counts the time since the date
of the register as inactivity, unless a charging profile holds the connector back.  What the
code reads and changes while it does so is the `Inactivity` of the transaction; the periods
that it counts are `inactivePeriods`.
-/

namespace EvServer

open Register (Mark Sample)

/-- What a transaction holds for the inactivity. -/
structure Inactivity where
  register : Mark Timestamp ℚ
  timestamp : Timestamp
  connectorId : ℕ
  totalInactivitySecs : ℚ

/-- The inactivity of a transaction. -/
def Transaction.inactivity (transaction : Transaction) : Inactivity where
  register := transaction.register
  timestamp := transaction.timestamp
  connectorId := transaction.connectorId
  totalInactivitySecs := transaction.currentTotalInactivitySecs

/-- The seconds of periods. -/
def inactivitySecs (periods : List (Timestamp × Timestamp)) : ℚ :=
  (periods.map fun period => Utils.durationSecs period.2 period.1).sum

theorem inactivitySecs_append (periods periods' : List (Timestamp × Timestamp)) :
    inactivitySecs (periods ++ periods') = inactivitySecs periods + inactivitySecs periods' := by
  rw [inactivitySecs, List.map_append, List.sum_append]
  rfl

/-- The seconds are the thousandth part of the milliseconds. -/
theorem inactivitySecs_eq (periods : List (Timestamp × Timestamp)) :
    inactivitySecs periods =
      ((periods.map fun period => period.2 - period.1).sum : ℤ) / 1000 := by
  induction periods with
  | nil => simp [inactivitySecs]
  | cons period rest ih =>
      rw [← List.singleton_append, inactivitySecs_append, ih, List.map_append, List.sum_append]
      simp only [inactivitySecs, Utils.durationSecs, List.map_cons, List.map_nil, List.sum_cons,
        List.sum_nil, Int.cast_add, Int.cast_zero, Int.cast_sub]
      ring

/-- Periods that end after they start. -/
theorem inactivitySecs_nonneg {periods : List (Timestamp × Timestamp)}
    (le : ∀ period ∈ periods, period.1 ≤ period.2) : 0 ≤ inactivitySecs periods := by
  refine List.sum_nonneg fun secs mem => ?_
  obtain ⟨period, isPeriod, rfl⟩ := List.mem_map.mp mem
  have nonneg : 0 ≤ period.2 - period.1 := sub_nonneg.mpr (le period isPeriod)
  exact div_nonneg (Int.cast_nonneg nonneg) (by norm_num)

namespace OCPPUtils

/-- The limitation that `addConnectorLimitationToConsumption` gives a consumption, if it does
not throw. -/
def connectorLimitation (context : MeteringContext) (chargingStation : ChargingStation)
    (connectorID : ℕ) (meterValue : OCPPNormalizedMeterValue) : Option ConnectorLimitation :=
  match context.chargingStationVendor with
  | some getCurrentConnectorLimit => (getCurrentConnectorLimit meterValue).toOption
  | none =>
      let connector := Utils.getConnectorFromID chargingStation connectorID
      some
        { limitAmps := connector.bind Connector.amperageLimit
          limitWatts := connector.bind Connector.power
          limitSource := .connector }

theorem addConnectorLimitation_eq {context : MeteringContext} {chargingStation : ChargingStation}
    {connectorID : ℕ} {meterValue : OCPPNormalizedMeterValue} {consumption limited : Consumption}
    (h : addConnectorLimitationToConsumption context chargingStation connectorID meterValue
      consumption = .ok limited) :
    limited = { consumption with
      limitation := connectorLimitation context chargingStation connectorID meterValue } := by
  unfold addConnectorLimitationToConsumption at h
  unfold connectorLimitation
  cases vendor : context.chargingStationVendor with
  | some getCurrentConnectorLimit =>
      rw [vendor] at h
      obtain ⟨limitation, hlimit, h⟩ := Outcome.bind_eq_ok.mp h
      dsimp only
      rw [hlimit]
      exact (Outcome.pure_eq_ok_iff.mp h).symm
  | none =>
      rw [vendor] at h
      exact (Outcome.pure_eq_ok_iff.mp h).symm

/-- The period that a meter value counts as inactivity. -/
def inactivePeriod (context : MeteringContext) (chargingStation : ChargingStation)
    (inactivity : Inactivity) (meterValue : OCPPNormalizedMeterValue) :
    Option (Timestamp × Timestamp) :=
  if isEnergyReading meterValue ∧
      JsNumber.isAbove inactivity.register.value (some (meterValueWh meterValue)) = false ∧
      isNotHeldBack chargingStation inactivity.connectorId
        (connectorLimitation context chargingStation inactivity.connectorId meterValue) then
    some (inactivity.register.time.getD inactivity.timestamp, meterValue.timestamp)
  else none

end OCPPUtils

open OCPPUtils

namespace Inactivity

/-- A meter value that is taken. -/
def read (context : MeteringContext) (chargingStation : ChargingStation) (inactivity : Inactivity)
    (meterValue : OCPPNormalizedMeterValue) : Inactivity :=
  { inactivity with
    register := inactivity.register.next (sample meterValue)
    totalInactivitySecs := inactivity.totalInactivitySecs +
      inactivitySecs (inactivePeriod context chargingStation inactivity meterValue).toList }

/-- The meter values of a request, and the periods that they count. -/
def readAll (context : MeteringContext) (chargingStation : ChargingStation) :
    Inactivity → List OCPPNormalizedMeterValue → Inactivity × List (Timestamp × Timestamp)
  | inactivity, [] => (inactivity, [])
  | inactivity, meterValue :: rest =>
      if isValidMeterValue meterValue ∧ inactivity.register.Admits (sample meterValue) then
        let (after, periods) :=
          readAll context chargingStation (inactivity.read context chargingStation meterValue) rest
        (after, (inactivePeriod context chargingStation inactivity meterValue).toList ++ periods)
      else readAll context chargingStation inactivity rest

variable {context : MeteringContext} {chargingStation : ChargingStation} {inactivity : Inactivity}
variable {meterValues : List OCPPNormalizedMeterValue}

/-- What is counted is added to the total. -/
theorem totalInactivitySecs_readAll :
    (inactivity.readAll context chargingStation meterValues).1.totalInactivitySecs =
      inactivity.totalInactivitySecs +
        inactivitySecs (inactivity.readAll context chargingStation meterValues).2 := by
  induction meterValues generalizing inactivity with
  | nil => exact (add_zero _).symm
  | cons meterValue rest ih =>
      rw [readAll]
      split
      · rw [ih, inactivitySecs_append, ← add_assoc]
        rfl
      · exact ih

/-- The dates of the register, and the periods, are from the start on, and the periods end with
readings. -/
theorem readAll_within {date : Timestamp} (hdate : inactivity.register.time = some date)
    (started : inactivity.timestamp ≤ date) :
    (inactivity.readAll context chargingStation meterValues).1.timestamp = inactivity.timestamp ∧
      (∃ date', (inactivity.readAll context chargingStation meterValues).1.register.time =
        some date' ∧ inactivity.timestamp ≤ date') ∧
      ∀ period ∈ (inactivity.readAll context chargingStation meterValues).2,
        inactivity.timestamp ≤ period.1 ∧ period.1 ≤ period.2 ∧
          ∃ meterValue ∈ meterValues, isEnergyReading meterValue ∧
            period.2 = meterValue.timestamp := by
  induction meterValues generalizing inactivity date with
  | nil => exact ⟨rfl, ⟨date, hdate, started⟩, nofun⟩
  | cons meterValue rest ih =>
      rw [readAll]
      split
      next taken =>
        have admits : date ≤ meterValue.timestamp := by
          rw [← sample_time]
          exact taken.2 date hdate
        obtain ⟨date', hdate', started'⟩ : ∃ date',
            (inactivity.register.next (sample meterValue)).time = some date' ∧
              inactivity.timestamp ≤ date' := by
          rcases Mark.time_next inactivity.register (sample meterValue) with same | moved
          · exact ⟨date, same.trans hdate, started⟩
          · rw [sample_time] at moved
            exact ⟨_, moved, started.trans admits⟩
        obtain ⟨timestamp, dated, within⟩ :=
          @ih (inactivity.read context chargingStation meterValue) date' hdate' started'
        refine ⟨timestamp, dated, fun period mem => ?_⟩
        rcases List.mem_append.mp mem with first | later
        · rw [Option.mem_toList, inactivePeriod, Option.ite_none_right_eq_some] at first
          obtain ⟨⟨isReading, -⟩, ⟨⟩⟩ := first
          rw [hdate]
          exact ⟨started, admits, meterValue, List.mem_cons_self, isReading, rfl⟩
        · obtain ⟨after, le, last, isLast, rest⟩ := within period later
          exact ⟨after, le, last, List.mem_cons_of_mem _ isLast, rest⟩
      next =>
        obtain ⟨timestamp, dated, within⟩ := ih hdate started
        refine ⟨timestamp, dated, fun period mem => ?_⟩
        obtain ⟨after, le, last, isLast, rest⟩ := within period mem
        exact ⟨after, le, last, List.mem_cons_of_mem _ isLast, rest⟩

end Inactivity

namespace OCPPUtils

variable {context : MeteringContext} {chargingStation : ChargingStation}
variable {transaction transaction' : Transaction}

/-- A reading of the register. -/
theorem totalInactivitySecs_applyEnergyReading {meterValue : OCPPNormalizedMeterValue}
    {consumption : Consumption} (isReading : isEnergyReading meterValue)
    (limitation : consumption.limitation =
      connectorLimitation context chargingStation transaction.connectorId meterValue) :
    (applyEnergyReading chargingStation transaction
        (transaction.lastConsumption.getD ⟨transaction.meterStart, transaction.timestamp⟩)
        meterValue consumption).1.currentTotalInactivitySecs =
      transaction.currentTotalInactivitySecs +
        inactivitySecs (inactivePeriod context chargingStation transaction.inactivity
          meterValue).toList := by
  obtain ⟨value, timestamp⟩ := register_eq_getD transaction
  unfold applyEnergyReading inactivePeriod
  dsimp only
  rw [value]
  split
  next above =>
    have notCounted : ¬ (isEnergyReading meterValue ∧
        JsNumber.isAbove transaction.inactivity.register.value (some (meterValueWh meterValue)) =
            false ∧
        isNotHeldBack chargingStation transaction.inactivity.connectorId
          (connectorLimitation context chargingStation transaction.inactivity.connectorId
            meterValue)) := by
      rintro ⟨-, notAbove, -⟩
      rw [Transaction.inactivity, above] at notAbove
      cases notAbove
    rw [if_neg notCounted]
    exact (add_zero _).symm
  next notAbove =>
    rw [Bool.not_eq_true] at notAbove
    unfold applyNoConsumption
    dsimp only
    rw [limitation, timestamp]
    by_cases counts : isNotHeldBack chargingStation transaction.connectorId
        (connectorLimitation context chargingStation transaction.connectorId meterValue)
    · rw [if_pos counts, if_pos ⟨isReading, notAbove, counts⟩]
      simp [inactivitySecs, Transaction.inactivity]
    · rw [if_neg counts, if_neg fun counted => counts counted.2.2]
      exact (add_zero _).symm

/-- **One meter value** is read as its inactivity says. -/
theorem inactivity_createConsumption {meterValue : OCPPNormalizedMeterValue}
    {consumption : Consumption}
    (h : createConsumptionFromMeterValue context chargingStation transaction
      transaction.lastConsumption meterValue = .ok (transaction', consumption)) :
    transaction'.inactivity =
      transaction.inactivity.read context chargingStation meterValue := by
  have reads := createConsumption_spec h
  have unmetered := unmetered_createConsumptionFromMeterValue h
  have connectorId : transaction'.connectorId = transaction.connectorId := by
    show transaction'.unmetered.connectorId = _
    rw [unmetered]
    rfl
  suffices total : transaction'.currentTotalInactivitySecs = transaction.currentTotalInactivitySecs +
      inactivitySecs (inactivePeriod context chargingStation transaction.inactivity
        meterValue).toList by
    unfold Transaction.inactivity Inactivity.read
    rw [reads.register, reads.timestamp, connectorId, total]
    rfl
  rcases createConsumption_cases h with
    ⟨other, -, -, -, -, ⟨⟩⟩ | ⟨isReading, limited, _, hconnector, same⟩
  · rw [inactivePeriod, if_neg fun counts => other counts.1]
    exact (add_zero _).symm
  · obtain rfl := addConnectorLimitation_eq hconnector
    change (transaction', consumption).1.currentTotalInactivitySecs = _
    rw [same]
    exact totalInactivitySecs_applyEnergyReading isReading rfl

/-- The loop over the meter values. -/
theorem inactivity_foldlM {meterValues : List OCPPNormalizedMeterValue}
    {consumptions : List Consumption} {looped : Transaction × List Consumption}
    (h : meterValues.foldlM (createConsumptionsStep context chargingStation)
      (transaction, consumptions) = .ok looped) :
    looped.1.inactivity =
      (transaction.inactivity.readAll context chargingStation meterValues).1 := by
  induction meterValues generalizing transaction consumptions with
  | nil =>
      cases h
      rfl
  | cons meterValue rest ih =>
      obtain ⟨⟨between, consumptions'⟩, hstep, hrest⟩ := Outcome.foldlM_cons_eq_ok.mp h
      have past := isInThePast_eq_false_iff transaction meterValue
      rw [ih hrest, Inactivity.readAll]
      unfold createConsumptionsStep at hstep
      split at hstep
      next taken =>
        obtain ⟨created, hcreated, hstep⟩ := Outcome.bind_eq_ok.mp hstep
        cases hstep
        rw [Bool.and_eq_true, Bool.not_eq_true'] at taken
        rw [if_pos ⟨taken.1, past.mp taken.2⟩, inactivity_createConsumption hcreated]
      next notTaken =>
        cases hstep
        rw [if_neg]
        rintro ⟨valid, admits⟩
        exact notTaken (by rw [valid, past.mpr admits]; rfl)

/-- **The consumptions of a request.** -/
theorem inactivity_createConsumptions {meterValues : List OCPPNormalizedMeterValue}
    {consumptions : List Consumption}
    (h : createConsumptionsFromMeterValues context chargingStation transaction meterValues =
      .ok (transaction', consumptions)) :
    transaction'.inactivity =
      (transaction.inactivity.readAll context chargingStation meterValues).1 := by
  obtain ⟨looped, hloop, h⟩ := Outcome.bind_eq_ok.mp h
  obtain ⟨sorted, -, h⟩ := Outcome.bind_eq_ok.mp h
  cases h
  exact inactivity_foldlM hloop

end OCPPUtils

end EvServer
