import EvServer.Ocpp.ExistingTransactions
import EvServer.Ocpp.TimedPricing
import EvServer.Pricing.EnergyBudget

/-!
# The time priced in a session

The comments of the pricer want a second to be absorbed once it is priced, "to avoid pricing
it twice".  `pricesTimeOnce_of_run` says that it is in every run in which the meter values come
in order of time and no reading is below the energy register: the periods that are priced have
no time in common, and there are no more seconds in them than have passed since the start of
the session.

A reading below the register is turned into a consumption, but `lastConsumption` stays where
it is.  The next consumption takes the same time once more (`not_pricesTimeOnce_after_fall`).
-/

namespace EvServer

open BuiltInPricingIntegration

/-- What feeds a session with meter values. -/
inductive TimedEvent
  | meterValues (request : MeterValuesRequest)
  | stop (context : StopContext) (attempt : StopAttempt) (isSoftStop : Bool)

/-- A session: its transaction as it is stored, the timestamp of its last meter value, and the
time that has been priced. -/
structure TimedSession where
  transaction : Transaction
  lastTimestamp : Timestamp
  log : List PricedTime := []

namespace TimedSession

/-- The meter values that an event feeds the session with. -/
def meterValues (session : TimedSession) : TimedEvent → List OCPPNormalizedMeterValue
  | .meterValues request => request.meterValues
  | .stop _ attempt isSoftStop =>
      { attempt with transaction := session.transaction }.meterValues isSoftStop

/-- The transaction that an event saves, and the consumptions that have been priced for it. -/
def outcome (settings : Settings) (session : TimedSession) :
    TimedEvent → Option (Transaction × List Consumption)
  | .meterValues request =>
      (OCPPService.handleMeterValues
        { request.context with pricingImpl := some (pricingImpl settings) }
        request.chargingStation session.transaction request.meterValues).toOption
  | .stop context attempt isSoftStop =>
      let context := { context with pricingImpl := some (pricingImpl settings) }
      let attempt := { attempt with transaction := session.transaction }
      if session.transaction.stop.isSome then none
      else (attempt.stoppedTransaction context isSoftStop).map fun stopped =>
        (stopped, attempt.createdConsumptions context isSoftStop)

/-- An event that throws leaves the stored transaction. -/
def handle (settings : Settings) (session : TimedSession) (event : TimedEvent) : TimedSession :=
  match session.outcome settings event with
  | none => session
  | some (transaction, consumptions) =>
      { transaction := transaction
        lastTimestamp := ((session.meterValues event).map
          OCPPNormalizedMeterValue.timestamp).foldl max session.lastTimestamp
        log := session.log ++ session.transaction.timeLog settings.zoneTime
          (consumptions.flatMap Consumption.chunks) }

/-- The step relation of a session. -/
def Step (settings : Settings) (session : TimedSession) (event : TimedEvent)
    (session' : TimedSession) : Prop :=
  session' = session.handle settings event

/-- The condition on an event: the values that are taken come in order of time, and no reading
among them is below the energy register, or no number. -/
def IsSteady (session : TimedSession) (event : TimedEvent) : Prop :=
  Register.Steady session.transaction.register (OCPPUtils.samples (session.meterValues event))

instance (session : TimedSession) (event : TimedEvent) : Decidable (session.IsSteady event) :=
  inferInstanceAs (Decidable (Register.Steady _ _))

/-- A session that has just started with the built-in pricing. -/
structure Starts (settings : Settings) (context : StartContext)
    (chargingStation : ChargingStation) (newTransaction : Transaction) (session : TimedSession) :
    Prop where
  builtIn : context.stopContext.pricingImpl = some (pricingImpl settings)
  created : ∃ id startTransaction userID userIssuer, newTransaction =
    { OCPPService.createTransaction id startTransaction with
      userID := userID
      userIssuer := userIssuer }
  started : OCPPService.startTransactionWith context chargingStation newTransaction =
    .ok session.transaction
  lastTimestamp : session.lastTimestamp = session.transaction.timestamp
  log : session.log = []

/-- The claim on a session: what is priced fits into the time that has passed, and no second
is priced twice. -/
structure PricesTimeOnce (session : TimedSession) (model : ResolvedPricingModel) : Prop where
  fits : model.pricedQuantity .chargingTime + model.pricedQuantity .parkingTime ≤
    Utils.durationSecs session.lastTimestamp session.transaction.timestamp
  apart : session.log.Pairwise fun time later => time.endedAt ≤ later.startedAt
  within : ∀ time ∈ session.log, time.IsWithin
  counted : ∀ d ∈ DimensionType.times, model.pricedQuantity d = PricedTime.secondsOf d session.log

end TimedSession

/-- The first consumption of a session is at its start. -/
theorem OCPPUtils.createFirstConsumption_ok {context : MeteringContext}
    {chargingStation : ChargingStation} {transaction created : Transaction} {first : Consumption}
    (h : createFirstConsumption context chargingStation transaction = .ok (created, first))
    (last : transaction.lastConsumption = some ⟨transaction.meterStart, transaction.timestamp⟩) :
    created.register.time = some transaction.timestamp ∧
      first.startedAt = some transaction.timestamp ∧ first.endedAt = transaction.timestamp := by
  unfold createFirstConsumption at h
  rw [← last] at h
  have reads := createConsumption_spec h
  have register : transaction.register =
      ⟨some transaction.timestamp, transaction.meterStart⟩ := by
    rw [Transaction.register, last]
  refine ⟨?_, ?_, reads.endedAt⟩
  · rw [reads.register]
    change (Register.Mark.next transaction.register
      (.reading transaction.timestamp (some transaction.meterStart))).time = _
    rw [register, Register.Mark.next, if_pos le_rfl]
  · have startedAt := reads.startedAt
    change first.startedAt = some (transaction.register.time.getD _) at startedAt
    rw [register] at startedAt
    exact startedAt

namespace OCPPService

variable {settings : Settings} {context : StartContext} {chargingStation : ChargingStation}
variable {newTransaction started : Transaction}

/-- **The start** of a transaction prices no time. -/
theorem pricesOnce_startTransactionWith
    (h : startTransactionWith context chargingStation newTransaction = .ok started)
    (builtIn : context.stopContext.pricingImpl = some (pricingImpl settings))
    (resolves : ∀ transaction, (settings.resolvePricingContext transaction).StartsAt
      transaction.timestamp)
    (last : newTransaction.lastConsumption =
      some ⟨newTransaction.meterStart, newTransaction.timestamp⟩)
    (unpriced : newTransaction.pricingModel = none) :
    started.PricesOnce [] started.timestamp := by
  obtain ⟨_, created, first, priced, firstPriced, _, hfirst, hpriced, hbilled⟩ :=
    startTransactionWith_steps h
  obtain ⟨date, startedAt, endedAt⟩ := OCPPUtils.createFirstConsumption_ok hfirst last
  have unmetered := OCPPUtils.unmetered_createConsumptionFromMeterValue hfirst
  have timestamp : created.timestamp = newTransaction.timestamp := by
    show created.unmetered.timestamp = _
    rw [unmetered]
    rfl
  have sameModel : created.pricingModel = none := by
    show created.unmetered.pricingModel = _
    rw [unmetered]
    exact unpriced
  have billing := SamePricing.of_eq Transaction.unbilled (fun _ => ⟨rfl, rfl, rfl, rfl⟩)
    (OCPPUtils.unbilled_processTransactionBilling hbilled)
  change created.register.time = some newTransaction.timestamp at date
  change first.startedAt = some newTransaction.timestamp at startedAt
  change first.endedAt = newTransaction.timestamp at endedAt
  rw [← timestamp] at date startedAt endedAt
  -- The model is resolved, and prices a consumption that takes no time.
  rw [builtIn] at hpriced
  obtain ⟨pricedConsumption, hcall, hpriced⟩ := Outcome.bind_eq_ok.mp hpriced
  obtain ⟨pricedData, hprice, hcall⟩ := Outcome.bind_eq_ok.mp hcall
  obtain ⟨state, hstate, hprice⟩ := Outcome.bind_eq_ok.mp hprice
  cases hprice
  cases hcall
  cases hpriced
  rw [sameModel, Option.getD_none] at hstate
  have input : first.pricerInput.startedAt = created.timestamp := by
    rw [Consumption.pricerInput, startedAt]
    rfl
  have once := ConsumptionPricer.pricesOnce_priceConsumption hstate (resolves created).pricesOnce
    input.symm.le (input.trans endedAt.symm).le
  rw [(resolves created).timeLog_eq_nil input endedAt, List.append_nil] at once
  change state.2.PricesOnce _ _ first.endedAt at once
  rw [endedAt] at once
  rw [billing.timestamp]
  refine Transaction.PricesOnce.of_samePricing ?_ billing
  exact ⟨date, state.2, rfl, once⟩

end OCPPService

namespace TimedSession

variable {settings : Settings} {session session' : TimedSession} {event : TimedEvent}

/-- The invariant of a session: its model has priced no time twice, and none after its last
meter value. -/
structure PricesOnce (start : Timestamp) (session : TimedSession) : Prop where
  timestamp : session.transaction.timestamp = start
  once : ∃ date, date ≤ session.lastTimestamp ∧ session.transaction.PricesOnce session.log date

variable {start : Timestamp}

/-- What an event saves keeps the invariant when it is steady. -/
theorem PricesOnce.outcome (inv : PricesOnce start session) (steady : session.IsSteady event)
    {transaction : Transaction} {consumptions : List Consumption}
    (h : session.outcome settings event = some (transaction, consumptions)) :
    transaction.timestamp = start ∧
      ∃ date, (date ≤ session.lastTimestamp ∨
          ∃ meterValue ∈ session.meterValues event, date = meterValue.timestamp) ∧
        transaction.PricesOnce (session.log ++ session.transaction.timeLog settings.zoneTime
          (consumptions.flatMap Consumption.chunks)) date := by
  obtain ⟨sameStart, date, reached, once⟩ := inv
  have moves {date' : Timestamp} (h : date' = date ∨
      ∃ meterValue ∈ session.meterValues event, date' = meterValue.timestamp) :
      date' ≤ session.lastTimestamp ∨
        ∃ meterValue ∈ session.meterValues event, date' = meterValue.timestamp :=
    h.imp (fun same => same.trans_le reached) id
  cases event with
  | meterValues request =>
      obtain ⟨timestamp, date', hdate', once'⟩ := OCPPService.pricesOnce_handleMeterValues
        (Outcome.toOption_eq_some.mp h) rfl once steady
      exact ⟨timestamp.trans sameStart, date', moves hdate', once'⟩
  | stop context attempt isSoftStop =>
      unfold TimedSession.outcome at h
      dsimp only at h
      split at h
      · cases h
      · obtain ⟨stopped, hstopped, h⟩ := Option.map_eq_some_iff.mp h
        cases h
        obtain ⟨timestamp, date', hdate', once'⟩ :=
          StopAttempt.pricesOnce_stoppedTransaction hstopped rfl once steady
        exact ⟨timestamp.trans sameStart, date', moves hdate', once'⟩

/-- **A steady event** keeps the invariant. -/
theorem PricesOnce.step (inv : PricesOnce start session) (steady : session.IsSteady event)
    (step : Step settings session event session') : PricesOnce start session' := by
  unfold Step handle at step
  split at step
  · exact step ▸ inv
  · rename_i transaction consumptions houtcome
    subst step
    obtain ⟨timestamp, date, hdate, once⟩ := inv.outcome steady houtcome
    refine ⟨timestamp, date, ?_, once⟩
    rcases hdate with before | ⟨meterValue, mem, rfl⟩
    · exact before.trans (Register.le_foldl_max _ _)
    · exact Register.le_foldl_max_of_mem (List.mem_map_of_mem mem)

theorem PricesOnce.of_starts {context : StartContext} {chargingStation : ChargingStation}
    {newTransaction : Transaction}
    (starts : session.Starts settings context chargingStation newTransaction)
    (resolves : ∀ transaction, (settings.resolvePricingContext transaction).StartsAt
      transaction.timestamp) : PricesOnce session.transaction.timestamp session := by
  obtain ⟨id, startTransaction, userID, userIssuer, rfl⟩ := starts.created
  refine ⟨rfl, session.transaction.timestamp, starts.lastTimestamp.symm.le, ?_⟩
  rw [starts.log]
  exact OCPPService.pricesOnce_startTransactionWith starts.started starts.builtIn resolves rfl rfl

/-- What the invariant says about what has been priced. -/
theorem PricesOnce.pricesTimeOnce (inv : PricesOnce start session) :
    ∃ model, session.transaction.pricingModel = some model ∧ session.PricesTimeOnce model := by
  obtain ⟨-, date, reached, once⟩ := inv
  obtain ⟨model, hmodel, once⟩ := once.model
  have once := once.mono reached
  refine ⟨model, hmodel, once.seconds_le, ?_, once.within, once.quantity⟩
  obtain ⟨finish, follows, -⟩ := once.follows
  exact List.pairwise_map.mp follows.pairwise

/-- **The time priced in a session.**  In every run in which the meter values come in order of
time and no reading is below the energy register, the charging time and the parking time that
are priced fit between the start of the session and its last meter value, and no second is
priced twice. -/
theorem pricesTimeOnce_of_run {context : StartContext} {chargingStation : ChargingStation}
    {newTransaction : Transaction} {started : TimedSession} {events : List TimedEvent}
    (resolves : ∀ transaction, (settings.resolvePricingContext transaction).StartsAt
      transaction.timestamp)
    (starts : started.Starts settings context chargingStation newTransaction)
    (run : Transition.Run (Transition.guarded IsSteady (Step settings)) started events session) :
    session.transaction.timestamp = started.transaction.timestamp ∧
      ∃ model, session.transaction.pricingModel = some model ∧ session.PricesTimeOnce model := by
  have inv : PricesOnce started.transaction.timestamp session :=
    run.invariant (.of_starts starts resolves) fun _ _ _ inv step => inv.step step.1 step.2
  exact ⟨inv.timestamp, inv.pricesTimeOnce⟩

/-- Charging and parking have a price by the hour. -/
def exampleSettings : Settings where
  zoneTime := PricedSession.exampleZone
  currency := "EUR"
  resolvePricingContext transaction :=
    { pricingDefinitions :=
        [{ name := "By the hour"
           dimensions :=
            { chargingTime := some { active := true, price := 3 }
              parkingTime := some { active := true, price := 6 } } }]
      pricerContext := { sessionStartDate := transaction.timestamp } }

theorem exampleSettings_resolves (transaction : Transaction) :
    (exampleSettings.resolvePricingContext transaction).StartsAt transaction.timestamp where
  notPriced := by
    intro definition mem d
    obtain rfl := List.mem_singleton.mp mem
    cases d <;> rfl
  notAbsorbed := rfl
  sessionStartDate := rfl
  notAbsorbedTime := by
    intro d
    cases d <;> rfl

def exampleContext : StartContext :=
  { OCPPService.exampleStartContext with
    stopContext := { OCPPService.exampleStartContext.stopContext with
      pricingImpl := some (pricingImpl exampleSettings) } }

/-- A start at 1000 Wh. -/
def exampleNew : Transaction := OCPPService.createTransaction 1 Session.exampleStart

def exampleStarted : TimedSession where
  transaction := ((OCPPService.startTransactionWith exampleContext Session.exampleStation
    exampleNew).toOption).getD exampleNew
  lastTimestamp := 0

theorem exampleStarted_starts :
    exampleStarted.Starts exampleSettings exampleContext Session.exampleStation exampleNew := by
  have ok : (OCPPService.startTransactionWith exampleContext Session.exampleStation
      exampleNew).isOk := by
    decide +kernel
  obtain ⟨transaction, hstarted⟩ := Outcome.isOk_iff.mp ok
  refine ⟨rfl, ⟨1, Session.exampleStart, none, none, rfl⟩, ?_, ?_, rfl⟩
  · rw [exampleStarted, hstarted]
    rfl
  · decide +kernel

/-- A request with one reading, after so many minutes. -/
def exampleReading (minutes : ℤ) (wattHours : ℚ) : TimedEvent :=
  .meterValues
    { chargingStation := Session.exampleStation
      meterValues := [OCPPUtils.energyValue .samplePeriodic (60000 * minutes) wattHours] }

/-- A minute of charging, and a minute of parking after it. -/
theorem pricesTimeOnce_of_run_charged_and_parked :
    let charged := exampleStarted.handle exampleSettings (exampleReading 1 2000)
    let parked := charged.handle exampleSettings (exampleReading 2 2000)
    parked.transaction.timestamp = exampleStarted.transaction.timestamp ∧
      ∃ model, parked.transaction.pricingModel = some model ∧ parked.PricesTimeOnce model := by
  intro charged parked
  have first : exampleStarted.IsSteady (exampleReading 1 2000) := by decide +kernel
  have second : charged.IsSteady (exampleReading 2 2000) := by decide +kernel
  exact pricesTimeOnce_of_run exampleSettings_resolves exampleStarted_starts
    (.snoc (.single ⟨first, rfl⟩) ⟨second, rfl⟩)

/-- A minute of charging, a lower reading, and a reading a minute later: the second minute is
priced as parking and as charging, and there are 240 seconds in three minutes. -/
theorem not_pricesTimeOnce_after_fall :
    (∀ transaction, (exampleSettings.resolvePricingContext transaction).StartsAt
        transaction.timestamp) ∧
      exampleStarted.Starts exampleSettings exampleContext Session.exampleStation exampleNew ∧
      ∃ session model, Transition.Run (Step exampleSettings) exampleStarted
          [exampleReading 1 2000, exampleReading 2 1500, exampleReading 3 3000] session ∧
        session.transaction.pricingModel = some model ∧
        model.pricedQuantity .chargingTime + model.pricedQuantity .parkingTime = 240 ∧
        Utils.durationSecs session.lastTimestamp session.transaction.timestamp = 180 ∧
        ¬ session.PricesTimeOnce model := by
  refine ⟨exampleSettings_resolves, exampleStarted_starts, ?_⟩
  have priced : (((exampleStarted.handle exampleSettings (exampleReading 1 2000)).handle
      exampleSettings (exampleReading 2 1500)).handle exampleSettings
        (exampleReading 3 3000)).transaction.pricingModel.map (fun model =>
          model.pricedQuantity .chargingTime + model.pricedQuantity .parkingTime) =
      some 240 := by
    decide +kernel
  obtain ⟨model, hmodel, seconds⟩ := Option.map_eq_some_iff.mp priced
  have elapsed : Utils.durationSecs
      (((exampleStarted.handle exampleSettings (exampleReading 1 2000)).handle
        exampleSettings (exampleReading 2 1500)).handle exampleSettings
          (exampleReading 3 3000)).lastTimestamp
      (((exampleStarted.handle exampleSettings (exampleReading 1 2000)).handle
        exampleSettings (exampleReading 2 1500)).handle exampleSettings
          (exampleReading 3 3000)).transaction.timestamp = 180 := by
    decide +kernel
  refine ⟨_, model, .snoc (.snoc (.single rfl) rfl) rfl, hmodel, seconds, elapsed, ?_⟩
  intro once
  have fits := once.fits
  rw [seconds, elapsed] at fits
  norm_num at fits

end TimedSession

end EvServer
