import EvServer.Ocpp.InactivePeriods
import EvServer.Ocpp.TimedSession

/-!
# The inactivity of a session

`currentTotalInactivitySecs` is the length of the periods that have been counted as inactivity,
and no request lowers it.  A reading below the energy register counts the time since the date
of the register, and leaves this date where it is, so that the next reading may count the same
time again.  `isWithinElapsed_of_run` says that there are no more seconds in the total than have
passed up to the latest reading as long as no time is counted twice.
-/

namespace EvServer

open OCPPUtils

/-- A session: its transaction as it is stored, the timestamp of its latest reading of the energy
register, or its start, and the periods that have been counted as inactivity. -/
structure InactiveSession where
  transaction : Transaction
  lastReading : Timestamp
  counted : List (Timestamp × Timestamp) := []

namespace InactiveSession

/-- The periods that a request counts. -/
def inactivePeriods (session : InactiveSession) (request : MeterValuesRequest) :
    List (Timestamp × Timestamp) :=
  (session.transaction.inactivity.readAll request.context.toMeteringContext
    request.chargingStation request.meterValues).2

/-- A request either saves the transaction or, when it throws, leaves the stored one. -/
def handle (session : InactiveSession) (request : MeterValuesRequest) : InactiveSession :=
  match OCPPService.handleMeterValues request.context request.chargingStation
      session.transaction request.meterValues with
  | .ok (transaction, _) =>
      { transaction := transaction
        lastReading := ((request.meterValues.filter isEnergyReading).map
          OCPPNormalizedMeterValue.timestamp).foldl max session.lastReading
        counted := session.counted ++ session.inactivePeriods request }
  | .error _ => session

/-- The step relation of a session. -/
def Step (session : InactiveSession) (request : MeterValuesRequest) (session' : InactiveSession) :
    Prop :=
  session' = session.handle request

/-- The condition on a request: the time that a reading counts as inactivity begins where all
that has been counted before has ended, or later. -/
def CountsOnce (session : InactiveSession) (request : MeterValuesRequest) : Prop :=
  (session.counted ++ session.inactivePeriods request).Pairwise
    fun period period' => period.2 ≤ period'.1

instance (session : InactiveSession) : DecidablePred session.CountsOnce := fun _ =>
  inferInstanceAs (Decidable (List.Pairwise _ _))

/-- A session that has just started. -/
structure Starts (context : StartContext) (chargingStation : ChargingStation)
    (newTransaction : Transaction) (session : InactiveSession) : Prop where
  created : ∃ id startTransaction userID userIssuer, newTransaction =
    { OCPPService.createTransaction id startTransaction with
      userID := userID
      userIssuer := userIssuer }
  started : OCPPService.startTransactionWith context chargingStation newTransaction =
    .ok session.transaction
  lastReading : session.lastReading = session.transaction.timestamp
  counted : session.counted = []

/-- The claim on a session: the inactivity is within the time that has passed, and no request
lowers it. -/
structure IsWithinElapsed (session : InactiveSession) : Prop where
  within : session.transaction.currentTotalInactivitySecs ≤
    Utils.durationSecs session.lastReading session.transaction.timestamp
  neverDecreases : ∀ request session', Step session request session' →
    session.transaction.currentTotalInactivitySecs ≤
      session'.transaction.currentTotalInactivitySecs

end InactiveSession

namespace OCPPService

/-- **A `MeterValues` request** reads its values as their inactivity says. -/
theorem inactivity_handleMeterValues {context : MeterValuesContext}
    {chargingStation : ChargingStation} {transaction transaction' : Transaction}
    {meterValues : List OCPPNormalizedMeterValue} {saved : List Consumption}
    (h : handleMeterValues context chargingStation transaction meterValues =
      .ok (transaction', saved)) :
    transaction'.inactivity = (transaction.inactivity.readAll context.toMeteringContext
      chargingStation meterValues).1 := by
  obtain ⟨updated, created, consumptions, charged, hupdated, hcreated, -, h⟩ :=
    handleMeterValues_steps h
  have measured : updated.inactivity = transaction.inactivity := by
    show updated.unmeasured.inactivity = _
    rw [unmeasured_updateTransactionWithMeterValues hupdated]
    rfl
  rw [← measured, ← inactivity_createConsumptions hcreated]
  refine Outcome.foldlM_invariant
    (I := fun state : Transaction × List Consumption => state.1.inactivity = created.inactivity)
    ?_ rfl h
  intro state consumption next same step
  rw [applyConsumption_eq] at step
  obtain ⟨priced, hpriced, rfl⟩ := Outcome.map_eq_ok.mp step
  rw [← same]
  unfold priceMeterValuesConsumption at hpriced
  dsimp only at hpriced
  split at hpriced
  · show priced.1.unpriced.inactivity = _
    rw [unpriced_processTransactionPricing hpriced]
    rfl
  · cases hpriced
    rfl

/-- The first consumption takes no time. -/
theorem totalInactivitySecs_createFirstConsumption {context : MeteringContext}
    {chargingStation : ChargingStation} {transaction created : Transaction} {first : Consumption}
    (h : createFirstConsumption context chargingStation transaction = .ok (created, first))
    (last : transaction.lastConsumption = some ⟨transaction.meterStart, transaction.timestamp⟩)
    (none : transaction.currentTotalInactivitySecs = 0) :
    created.currentTotalInactivitySecs = 0 := by
  unfold createFirstConsumption at h
  rw [← last] at h
  have read := congrArg Inactivity.totalInactivitySecs (inactivity_createConsumption h)
  change created.currentTotalInactivitySecs = transaction.currentTotalInactivitySecs + _ at read
  have date : transaction.inactivity.register.time = some transaction.timestamp := by
    rw [Transaction.inactivity, Transaction.register, last]
  rw [read, none, inactivePeriod, date]
  split
  · simp [inactivitySecs, Utils.durationSecs]
  · exact add_zero _

/-- **The start** of a transaction counts no inactivity. -/
theorem inactivity_startTransactionWith {context : StartContext}
    {chargingStation : ChargingStation} {newTransaction started : Transaction}
    (h : startTransactionWith context chargingStation newTransaction = .ok started)
    (last : newTransaction.lastConsumption =
      some ⟨newTransaction.meterStart, newTransaction.timestamp⟩)
    (none : newTransaction.currentTotalInactivitySecs = 0) :
    started.register.time = some started.timestamp ∧ started.currentTotalInactivitySecs = 0 := by
  obtain ⟨soc, -, h⟩ := Outcome.bind_eq_ok.mp h
  obtain ⟨⟨created, first⟩, hfirst, h⟩ := Outcome.bind_eq_ok.mp h
  obtain ⟨⟨priced, firstPriced⟩, hpriced, h⟩ := Outcome.bind_eq_ok.mp h
  obtain ⟨⟨billed, isBilled⟩, hbilled, h⟩ := Outcome.bind_eq_ok.mp h
  obtain ⟨_, -, h⟩ := Outcome.bind_eq_ok.mp h
  cases h
  obtain ⟨date, -, -⟩ := createFirstConsumption_ok hfirst last
  have timestamp : created.timestamp = newTransaction.timestamp := by
    show created.unmetered.timestamp = _
    rw [unmetered_createConsumptionFromMeterValue hfirst]
    rfl
  have total : created.currentTotalInactivitySecs = 0 :=
    totalInactivitySecs_createFirstConsumption hfirst last none
  have same : started.inactivity = created.inactivity := by
    show started.unbilled.inactivity = _
    have sameBilling : started.unbilled = priced.unbilled :=
      unbilled_processTransactionBilling hbilled
    rw [sameBilling]
    show priced.unpriced.inactivity = _
    have samePricing : priced.unpriced = created.unpriced :=
      unpriced_processTransactionPricing hpriced
    rw [samePricing]
    rfl
  change started.inactivity.register.time = some started.inactivity.timestamp ∧
    started.inactivity.totalInactivitySecs = 0
  rw [same]
  exact ⟨date.trans (congrArg some timestamp.symm), total⟩

end OCPPService

namespace InactiveSession

variable {session session' : InactiveSession} {request : MeterValuesRequest} {start : Timestamp}

/-- The invariant of a session: its total is what has been counted, between its start and its
latest reading. -/
structure Counts (start : Timestamp) (session : InactiveSession) : Prop where
  timestamp : session.transaction.timestamp = start
  dated : ∃ date, session.transaction.register.time = some date ∧ start ≤ date
  reached : start ≤ session.lastReading
  total : session.transaction.currentTotalInactivitySecs = inactivitySecs session.counted
  within : ∀ period ∈ session.counted,
    start ≤ period.1 ∧ period.1 ≤ period.2 ∧ period.2 ≤ session.lastReading

theorem Counts.of_starts {context : StartContext} {chargingStation : ChargingStation}
    {newTransaction : Transaction}
    (starts : session.Starts context chargingStation newTransaction) :
    Counts session.transaction.timestamp session := by
  obtain ⟨id, startTransaction, userID, userIssuer, rfl⟩ := starts.created
  obtain ⟨date, none⟩ := OCPPService.inactivity_startTransactionWith starts.started rfl rfl
  refine ⟨rfl, ⟨_, date, le_rfl⟩, starts.lastReading.ge, ?_, ?_⟩
  · rw [none, starts.counted]
    rfl
  · rw [starts.counted]
    exact nofun

/-- **One request.**  It adds what it counts to the total. -/
theorem Counts.step (inv : Counts start session) (step : Step session request session') :
    Counts start session' ∧ session.transaction.currentTotalInactivitySecs ≤
      session'.transaction.currentTotalInactivitySecs := by
  unfold Step handle at step
  split at step
  · rename_i transaction saved hhandled
    subst step
    have read := OCPPService.inactivity_handleMeterValues hhandled
    obtain ⟨date, hdate, started⟩ := inv.dated
    rw [← inv.timestamp] at started
    obtain ⟨timestamp, dated, within⟩ := @Inactivity.readAll_within
      request.context.toMeteringContext request.chargingStation session.transaction.inactivity
      request.meterValues date hdate started
    rw [← read] at timestamp dated
    have counted : transaction.inactivity.totalInactivitySecs = _ :=
      (congrArg Inactivity.totalInactivitySecs read).trans
        Inactivity.totalInactivitySecs_readAll
    have periods : ∀ period ∈ session.inactivePeriods request,
        start ≤ period.1 ∧ period.1 ≤ period.2 ∧
          period.2 ≤ ((request.meterValues.filter isEnergyReading).map
            OCPPNormalizedMeterValue.timestamp).foldl max session.lastReading := by
      intro period mem
      obtain ⟨after, le, meterValue, isMember, isReading, last⟩ := within period mem
      refine ⟨inv.timestamp.symm.trans_le after, le, last.trans_le ?_⟩
      exact Register.le_foldl_max_of_mem
        (List.mem_map_of_mem (List.mem_filter.mpr ⟨isMember, isReading⟩))
    refine ⟨⟨timestamp.trans inv.timestamp, ?_, ?_, ?_, ?_⟩, ?_⟩
    · obtain ⟨date', hdate', started'⟩ := dated
      exact ⟨date', hdate', inv.timestamp.symm.trans_le started'⟩
    · exact inv.reached.trans (Register.le_foldl_max _ _)
    · rw [inactivitySecs_append, ← inv.total]
      exact counted
    · intro period mem
      rcases List.mem_append.mp mem with old | new
      · obtain ⟨after, le, last⟩ := inv.within period old
        exact ⟨after, le, last.trans (Register.le_foldl_max _ _)⟩
      · exact periods period new
    · refine (le_add_of_nonneg_right ?_).trans_eq counted.symm
      exact inactivitySecs_nonneg fun period mem => (periods period mem).2.1
  · subst step
    exact ⟨inv, le_rfl⟩

/-- What is counted once is within the time that has passed. -/
theorem Counts.within_elapsed (inv : Counts start session)
    (apart : session.counted.Pairwise fun period period' => period.2 ≤ period'.1) :
    session.transaction.currentTotalInactivitySecs ≤
      Utils.durationSecs session.lastReading session.transaction.timestamp := by
  have follows := Periods.Follow.of_pairwise inv.reached inv.within apart
  rw [inv.total, inactivitySecs_eq, inv.timestamp, Utils.durationSecs]
  exact div_le_div_of_nonneg_right (Int.cast_le.mpr follows.sum_length_le) (by norm_num)

/-- **The inactivity of a session.**  In every run in which no time is counted twice, the
inactivity is within the time between the start of the transaction and its latest reading, and
no request lowers it. -/
theorem isWithinElapsed_of_run {context : StartContext} {chargingStation : ChargingStation}
    {newTransaction : Transaction} {started : InactiveSession} {requests : List MeterValuesRequest}
    (starts : started.Starts context chargingStation newTransaction)
    (run : Transition.Run (Transition.guarded CountsOnce Step) started requests session) :
    session.IsWithinElapsed := by
  obtain ⟨inv, apart⟩ : Counts started.transaction.timestamp session ∧
      session.counted.Pairwise fun period period' => period.2 ≤ period'.1 := by
    refine run.invariant (I := fun session => Counts started.transaction.timestamp session ∧
      session.counted.Pairwise fun period period' => period.2 ≤ period'.1)
      ⟨.of_starts starts, ?_⟩ ?_
    · rw [starts.counted]
      exact .nil
    · rintro before request after ⟨inv, apart⟩ ⟨once, step⟩
      refine ⟨(inv.step step).1, ?_⟩
      unfold Step handle at step
      split at step <;> subst step
      · exact once
      · exact apart
  exact ⟨inv.within_elapsed apart, fun _ _ step => (inv.step step).2⟩

/-- A session that starts at 1000 Wh. -/
def exampleStarted : InactiveSession where
  transaction := ((OCPPService.startTransactionWith OCPPService.exampleStartContext
    Session.exampleStation TimedSession.exampleNew).toOption).getD TimedSession.exampleNew
  lastReading := 0

theorem exampleStarted_starts : exampleStarted.Starts OCPPService.exampleStartContext
    Session.exampleStation TimedSession.exampleNew := by
  have ok : (OCPPService.startTransactionWith OCPPService.exampleStartContext
      Session.exampleStation TimedSession.exampleNew).isOk := by
    decide +kernel
  obtain ⟨transaction, hstarted⟩ := Outcome.isOk_iff.mp ok
  refine ⟨⟨1, Session.exampleStart, none, none, rfl⟩, ?_, ?_, rfl⟩
  · rw [exampleStarted, hstarted]
    rfl
  · decide +kernel

/-- A request with one reading, after so many minutes. -/
def exampleReading (minutes : ℤ) (wattHours : ℚ) : MeterValuesRequest :=
  { chargingStation := Session.exampleStation
    meterValues := [energyValue .samplePeriodic (60000 * minutes) wattHours] }

/-- A lower reading and, a minute later, a higher one. -/
theorem isWithinElapsed_of_run_fall_and_rise :
    ((exampleStarted.handle (exampleReading 1 500)).handle
      (exampleReading 2 2000)).IsWithinElapsed := by
  have first : exampleStarted.CountsOnce (exampleReading 1 500) := by decide +kernel
  have second : (exampleStarted.handle (exampleReading 1 500)).CountsOnce
      (exampleReading 2 2000) := by
    decide +kernel
  exact isWithinElapsed_of_run exampleStarted_starts
    (.snoc (.single ⟨first, rfl⟩) ⟨second, rfl⟩)

/-- Two lower readings: the first minute is counted twice, and there are 180 seconds of
inactivity in two minutes. -/
theorem not_isWithinElapsed_two_falls :
    exampleStarted.Starts OCPPService.exampleStartContext Session.exampleStation
        TimedSession.exampleNew ∧
      ∃ session, Transition.Run Step exampleStarted [exampleReading 1 500, exampleReading 2 500]
          session ∧
        session.transaction.currentTotalInactivitySecs = 180 ∧
        Utils.durationSecs session.lastReading session.transaction.timestamp = 120 ∧
        ¬ session.IsWithinElapsed := by
  have total : ((exampleStarted.handle (exampleReading 1 500)).handle
      (exampleReading 2 500)).transaction.currentTotalInactivitySecs = 180 := by
    decide +kernel
  have elapsed : Utils.durationSecs ((exampleStarted.handle (exampleReading 1 500)).handle
        (exampleReading 2 500)).lastReading
      ((exampleStarted.handle (exampleReading 1 500)).handle
        (exampleReading 2 500)).transaction.timestamp = 120 := by
    decide +kernel
  refine ⟨exampleStarted_starts, _, .snoc (.single rfl) rfl, total, elapsed, fun claim => ?_⟩
  have within := claim.within
  rw [total, elapsed] at within
  norm_num at within

end InactiveSession

end EvServer
