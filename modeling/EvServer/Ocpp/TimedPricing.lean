import EvServer.Ocpp.ConsumptionPeriods
import EvServer.Ocpp.MeterValuesHandler
import EvServer.Ocpp.StopFailure
import EvServer.Pricing.TimeLog

/-!
# The time that a request is priced for

A session is priced with the consumptions that its `MeterValues` requests and its stop are
turned into.  Each of them takes the time from the date of the energy register on, and the
model prices no time twice as long as this date moves on with every reading
(`Register.Steady`).
-/

namespace EvServer

open BuiltInPricingIntegration (Settings pricingImpl)

/-- The chunks that a consumption is priced in. -/
def Consumption.chunks (consumption : Consumption) : List ConsumptionChunk :=
  if consumption.toPrice = some true then
    ConsumptionPricer.generateChunk consumption.pricerInput
  else []

/-- The chunks of consumptions that follow one another do so too. -/
theorem follow_chunks {start finish : Timestamp} {consumptions : List Consumption}
    (follows : Periods.Follow start (OCPPUtils.periods consumptions) finish)
    (started : ∀ c ∈ consumptions, OCPPUtils.IsPricedWithStart c) :
    Periods.Follow start
      ((consumptions.flatMap Consumption.chunks).map ConsumptionChunk.period) finish := by
  induction consumptions generalizing start with
  | nil => exact follows
  | cons consumption rest ih =>
      rw [List.forall_mem_cons] at started
      rw [← List.singleton_append, OCPPUtils.periods_append, OCPPUtils.periods_singleton]
        at follows
      rw [List.flatMap_cons, List.map_append]
      unfold Consumption.chunks
      split
      · rename_i priced
        obtain ⟨startedAt, hstarted⟩ := Option.isSome_iff_exists.mp (started.1 priced)
        have period : consumption.period = some (startedAt, consumption.endedAt) := by
          rw [Consumption.period, hstarted]
          rfl
        have input : consumption.pricerInput.startedAt = startedAt := by
          rw [Consumption.pricerInput, hstarted]
          rfl
        rw [period] at follows
        cases follows with
        | cons le le' follows =>
            have chunks := ConsumptionPricer.follow_generateChunk
              (input.trans_le le' : _ ≤ consumption.pricerInput.endedAt)
            exact (chunks.mono (le.trans_eq input.symm) le_rfl).append (ih follows started.2)
      · rw [List.map_nil, List.nil_append]
        exact ih ((follows.sublist (List.sublist_append_right _ _))) started.2

/-! ## What is priced, and when -/

/-- What the pricing of time depends on is the same. -/
structure SamePricing (transaction transaction' : Transaction) : Prop where
  lastConsumption : transaction'.lastConsumption = transaction.lastConsumption
  meterStart : transaction'.meterStart = transaction.meterStart
  timestamp : transaction'.timestamp = transaction.timestamp
  pricingModel : transaction'.pricingModel = transaction.pricingModel

namespace SamePricing

variable {transaction transaction' transaction'' : Transaction}

theorem refl (transaction : Transaction) : SamePricing transaction transaction :=
  ⟨rfl, rfl, rfl, rfl⟩

theorem trans (first : SamePricing transaction transaction')
    (second : SamePricing transaction' transaction'') : SamePricing transaction transaction'' :=
  ⟨second.lastConsumption.trans first.lastConsumption, second.meterStart.trans first.meterStart,
    second.timestamp.trans first.timestamp, second.pricingModel.trans first.pricingModel⟩

/-- Transactions that are the same without some other properties. -/
theorem of_eq (without : Transaction → Transaction)
    (keeps : ∀ transaction, SamePricing transaction (without transaction))
    (same : without transaction' = without transaction) : SamePricing transaction transaction' := by
  have before := keeps transaction
  have after := keeps transaction'
  rw [same] at after
  exact ⟨after.lastConsumption.symm.trans before.lastConsumption,
    after.meterStart.symm.trans before.meterStart, after.timestamp.symm.trans before.timestamp,
    after.pricingModel.symm.trans before.pricingModel⟩

theorem register_eq (same : SamePricing transaction transaction') :
    transaction'.register = transaction.register := by
  rw [Transaction.register, Transaction.register, same.lastConsumption, same.meterStart]

end SamePricing

/-- The invariant of a priced transaction: its model has priced no time twice, and none after
the date of the register. -/
structure Transaction.PricesOnce (transaction : Transaction) (log : List PricedTime)
    (date : Timestamp) : Prop where
  register : transaction.register.time = some date
  model : ∃ model, transaction.pricingModel = some model ∧
    model.PricesOnce transaction.timestamp log date

theorem Transaction.PricesOnce.of_samePricing {transaction transaction' : Transaction}
    {log : List PricedTime} {date : Timestamp} (once : transaction.PricesOnce log date)
    (same : SamePricing transaction transaction') : transaction'.PricesOnce log date := by
  obtain ⟨model, hmodel, modelOnce⟩ := once.model
  refine ⟨same.register_eq ▸ once.register, model, same.pricingModel.trans hmodel, ?_⟩
  rw [same.timestamp]
  exact modelOnce

/-- The time that the model of a transaction prices of chunks. -/
def Transaction.timeLog (zoneTime : String → Timestamp → LocalTime) (transaction : Transaction)
    (chunks : List ConsumptionChunk) : List PricedTime :=
  (transaction.pricingModel.map fun model =>
    ConsumptionPricer.timeLog zoneTime model chunks).getD []

namespace BuiltInPricingIntegration

variable {settings : Settings} {transaction transaction' : Transaction}
variable {consumption consumption' : Consumption} {model : ResolvedPricingModel}

/-- A call after the first one prices the chunks of the consumption with the model. -/
theorem processTransactionPricing_ok {action : TransactionAction}
    (h : OCPPUtils.processTransactionPricing (some (pricingImpl settings)) transaction consumption
      action = .ok (transaction', consumption'))
    (later : action ≠ .start) (hmodel : transaction.pricingModel = some model)
    (priced : consumption.toPrice = some true) :
    ∃ state, consumption.chunks.foldlM (ConsumptionPricer.priceNextChunk settings.zoneTime)
      ({}, model) = .ok state ∧ transaction'.pricingModel = some state.2 := by
  obtain ⟨pricedConsumption, hcall, hresult⟩ := priceTransaction_of_later h later
  obtain ⟨pricedData, hprice, hcall⟩ := Outcome.bind_eq_ok.mp hcall
  obtain ⟨state, hstate, hprice⟩ := Outcome.bind_eq_ok.mp hprice
  rw [hmodel] at hstate
  cases hprice
  cases hcall
  cases hresult
  refine ⟨state, ?_, ?_⟩
  · rw [Consumption.chunks, if_pos priced]
    exact hstate
  · show transaction.pricingModel.map _ = some state.2
    rw [hmodel]
    rfl

/-- What the pricing of chunks does to a transaction: they are priced with its model, and the
dates stay as they are. -/
structure PricesChunks (settings : Settings) (chunks : List ConsumptionChunk)
    (transaction transaction' : Transaction) : Prop where
  register : transaction'.register = transaction.register
  timestamp : transaction'.timestamp = transaction.timestamp
  model : ∀ model, transaction.pricingModel = some model →
    ∃ state, chunks.foldlM (ConsumptionPricer.priceNextChunk settings.zoneTime) ({}, model) =
      .ok state ∧ transaction'.pricingModel = some state.2

/-- Nothing is priced. -/
theorem PricesChunks.of_same (same : SamePricing transaction transaction') :
    PricesChunks settings [] transaction transaction' :=
  ⟨same.register_eq, same.timestamp, fun model hmodel =>
    ⟨({}, model), rfl, same.pricingModel.trans hmodel⟩⟩

/-- The chunks are priced after what leaves the pricing alone. -/
theorem PricesChunks.of_samePricing {chunks : List ConsumptionChunk} {between : Transaction}
    (same : SamePricing transaction between)
    (prices : PricesChunks settings chunks between transaction') :
    PricesChunks settings chunks transaction transaction' := by
  refine ⟨prices.register.trans same.register_eq, prices.timestamp.trans same.timestamp, ?_⟩
  intro model hmodel
  exact prices.model model (same.pricingModel.trans hmodel)

/-- A consumption that is priced if it is to be. -/
theorem pricesChunks_consumption {action : TransactionAction}
    (h : (if consumption.toPrice = some true then
        OCPPUtils.processTransactionPricing (some (pricingImpl settings)) transaction consumption
          action
      else .ok (transaction, consumption)) = .ok (transaction', consumption'))
    (later : action ≠ .start) :
    PricesChunks settings consumption.chunks transaction transaction' ∧
      consumption'.chunks = consumption.chunks := by
  split at h
  · rename_i priced
    have unpriced := OCPPUtils.unpriced_processTransactionPricing h
    have register := (OCPPService.sameTotal_processTransactionPricing h).register_eq
    have timestamp : transaction'.timestamp = transaction.timestamp := by
      show transaction'.unpriced.timestamp = _
      rw [unpriced]
      rfl
    refine ⟨⟨register, timestamp, fun model hmodel => ?_⟩, ?_⟩
    · exact processTransactionPricing_ok h later hmodel priced
    · change consumption'.unpriced.chunks = consumption.unpriced.chunks
      rw [OCPPUtils.unpriced_consumption_processTransactionPricing h]
  · rename_i unpriced
    cases h
    rw [Consumption.chunks, if_neg unpriced]
    exact ⟨.of_same (.refl transaction), rfl⟩

/-- What is priced does not depend on what has been added up before. -/
theorem foldlM_priceNextChunk_congr {zoneTime : String → Timestamp → LocalTime}
    {chunks : List ConsumptionChunk} {state state' : PricedConsumptionData × ResolvedPricingModel}
    (h : chunks.foldlM (ConsumptionPricer.priceNextChunk zoneTime) state = .ok state')
    (pricedData : PricedConsumptionData) :
    ∃ pricedData', chunks.foldlM (ConsumptionPricer.priceNextChunk zoneTime)
      (pricedData, state.2) = .ok (pricedData', state'.2) := by
  induction chunks generalizing state pricedData with
  | nil =>
      cases h
      exact ⟨pricedData, rfl⟩
  | cons chunk rest ih =>
      obtain ⟨between, hchunk, h⟩ := Outcome.foldlM_cons_eq_ok.mp h
      obtain ⟨⟨added, model⟩, hpriced, hbetween⟩ := Outcome.bind_eq_ok.mp hchunk
      obtain rfl := Outcome.pure_eq_ok_iff.mp hbetween
      obtain ⟨pricedData', hrest⟩ :=
        ih h (PricingHelper.accumulatePricedConsumption [pricedData, added])
      refine ⟨pricedData', Outcome.foldlM_cons_eq_ok.mpr ⟨_, ?_, hrest⟩⟩
      exact Outcome.bind_eq_ok.mpr ⟨(added, model), hpriced, rfl⟩

/-- Chunks are priced after chunks. -/
theorem PricesChunks.append {chunks chunks' : List ConsumptionChunk} {between : Transaction}
    (first : PricesChunks settings chunks transaction between)
    (second : PricesChunks settings chunks' between transaction') :
    PricesChunks settings (chunks ++ chunks') transaction transaction' := by
  refine ⟨second.register.trans first.register, second.timestamp.trans first.timestamp, ?_⟩
  intro model hmodel
  obtain ⟨state, hstate, hbetween⟩ := first.model model hmodel
  obtain ⟨state', hstate', hmodel'⟩ := second.model state.2 hbetween
  obtain ⟨pricedData, hrest⟩ := foldlM_priceNextChunk_congr hstate' state.1
  refine ⟨(pricedData, state'.2), ?_, hmodel'⟩
  rw [List.foldlM_append, hstate]
  exact hrest

/-- Chunks that follow one another are priced once. -/
theorem PricesChunks.pricesOnce {chunks : List ConsumptionChunk} {log : List PricedTime}
    {start now last : Timestamp} (prices : PricesChunks settings chunks transaction transaction')
    (hmodel : transaction.pricingModel = some model) (once : model.PricesOnce start log now)
    (follows : Periods.Follow now (chunks.map ConsumptionChunk.period) last) :
    ∃ model', transaction'.pricingModel = some model' ∧
      model'.PricesOnce start (log ++ transaction.timeLog settings.zoneTime chunks) last := by
  obtain ⟨state, hstate, hmodel'⟩ := prices.model model hmodel
  refine ⟨state.2, hmodel', ?_⟩
  rw [Transaction.timeLog, hmodel]
  exact ConsumptionPricer.pricesOnce_foldlM hstate once follows

/-- **The consumptions of meter values.**  When the values come in order and do not fall, no
time is priced twice, and none after the last value that is taken. -/
theorem pricesOnce_of_created {context : MeteringContext} {chargingStation : ChargingStation}
    {meterValues : List OCPPNormalizedMeterValue} {created : Transaction}
    {consumptions : List Consumption} {log : List PricedTime} {date : Timestamp}
    (h : OCPPUtils.createConsumptionsFromMeterValues context chargingStation transaction
      meterValues = .ok (created, consumptions))
    (prices : PricesChunks settings (consumptions.flatMap Consumption.chunks) created transaction')
    (once : transaction.PricesOnce log date)
    (steady : Register.Steady transaction.register (OCPPUtils.samples meterValues)) :
    transaction'.timestamp = transaction.timestamp ∧
      ∃ date', (date' = date ∨ ∃ meterValue ∈ meterValues, date' = meterValue.timestamp) ∧
        transaction'.PricesOnce (log ++ transaction.timeLog settings.zoneTime
          (consumptions.flatMap Consumption.chunks)) date' := by
  have unmetered := OCPPUtils.unmetered_createConsumptionsFromMeterValues h
  have sameStart : created.timestamp = transaction.timestamp := by
    show created.unmetered.timestamp = _
    rw [unmetered]
    rfl
  have sameModel : created.pricingModel = transaction.pricingModel := by
    show created.unmetered.pricingModel = _
    rw [unmetered]
    rfl
  obtain ⟨⟨date', hdate', follows⟩, started⟩ :=
    OCPPUtils.follow_createConsumptions h once.register steady
  obtain ⟨model, hmodel, modelOnce⟩ := once.model
  obtain ⟨model', hmodel', once'⟩ := prices.pricesOnce (sameModel.trans hmodel) modelOnce
    (follow_chunks follows started)
  refine ⟨prices.timestamp.trans sameStart, date', ?_, ?_, model', hmodel', ?_⟩
  · obtain ⟨unsorted, reads, -⟩ := OCPPUtils.createConsumptions_ok h
    rw [reads.register_eq] at hdate'
    rcases Register.time_final_cases transaction.register (OCPPUtils.samples meterValues) with
      same | ⟨sample, mem, moved⟩
    · rw [same, once.register] at hdate'
      exact .inl (Option.some.inj hdate').symm
    · obtain ⟨meterValue, hmem, rfl⟩ := List.mem_map.mp mem
      rw [moved, OCPPUtils.sample_time] at hdate'
      exact .inr ⟨meterValue, List.mem_of_mem_filter hmem, (Option.some.inj hdate').symm⟩
  · rw [prices.register, hdate']
  · rw [prices.timestamp, sameStart]
    have sameLog : created.timeLog settings.zoneTime = transaction.timeLog settings.zoneTime := by
      funext chunks
      rw [Transaction.timeLog, Transaction.timeLog, sameModel]
    rw [← sameLog]
    exact once'

end BuiltInPricingIntegration

namespace OCPPService

open BuiltInPricingIntegration

variable {settings : Settings} {transaction transaction' : Transaction}

/-! ## The request and the stop -/

/-- The loop of a request prices its consumptions. -/
theorem pricesChunks_applyConsumption {context : MeterValuesContext}
    {chargingStation : ChargingStation} {consumptions : List Consumption}
    {state state' : Transaction × List Consumption}
    (h : consumptions.foldlM (applyConsumption context chargingStation) state = .ok state')
    (builtIn : context.pricingImpl = some (pricingImpl settings)) :
    PricesChunks settings (consumptions.flatMap Consumption.chunks) state.1 state'.1 ∧
      state'.2.flatMap Consumption.chunks =
        state.2.flatMap Consumption.chunks ++ consumptions.flatMap Consumption.chunks := by
  induction consumptions generalizing state with
  | nil =>
      cases h
      exact ⟨.of_same (.refl _), (List.append_nil _).symm⟩
  | cons consumption rest ih =>
      obtain ⟨between, hfirst, hrest⟩ := Outcome.foldlM_cons_eq_ok.mp h
      rw [applyConsumption_eq] at hfirst
      obtain ⟨⟨priced, pricedConsumption⟩, hpriced, rfl⟩ := Outcome.map_eq_ok.mp hfirst
      unfold priceMeterValuesConsumption at hpriced
      rw [builtIn] at hpriced
      obtain ⟨prices, same⟩ := pricesChunks_consumption hpriced (by decide)
      obtain ⟨prices', same'⟩ := ih hrest
      have updated : SamePricing state.1 (OCPPUtils.updateTransactionWithConsumption context.now
          chargingStation state.1 consumption) := ⟨rfl, rfl, rfl, rfl⟩
      rw [List.flatMap_cons]
      refine ⟨(prices.of_samePricing updated).append prices', ?_⟩
      rw [same', List.flatMap_append, List.flatMap_singleton, same, List.append_assoc]

theorem chunks_processTransactionCar {context : MeterValuesContext}
    {consumptions consumptions' : List Consumption}
    (h : processTransactionCar context consumptions = .ok consumptions') :
    consumptions'.flatMap Consumption.chunks = consumptions.flatMap Consumption.chunks := by
  obtain ⟨soc, -, h⟩ := Outcome.bind_eq_ok.mp h
  split at h
  · rw [Outcome.pure_eq_ok_iff.mp h]
  · rw [← Outcome.pure_eq_ok_iff.mp h]
    rcases List.eq_nil_or_concat consumptions with rfl | ⟨init, last, rfl⟩
    · rfl
    · rw [List.concat_eq_append, List.modifyLast_concat, List.flatMap_append, List.flatMap_append]
      rfl

/-- **A `MeterValues` request** whose values come in order and do not fall. -/
theorem pricesOnce_handleMeterValues {context : MeterValuesContext}
    {chargingStation : ChargingStation} {meterValues : List OCPPNormalizedMeterValue}
    {saved : List Consumption} {log : List PricedTime} {date : Timestamp}
    (h : handleMeterValues context chargingStation transaction meterValues =
      .ok (transaction', saved))
    (builtIn : context.pricingImpl = some (pricingImpl settings))
    (once : transaction.PricesOnce log date)
    (steady : Register.Steady transaction.register (OCPPUtils.samples meterValues)) :
    transaction'.timestamp = transaction.timestamp ∧
      ∃ date', (date' = date ∨ ∃ meterValue ∈ meterValues, date' = meterValue.timestamp) ∧
        transaction'.PricesOnce (log ++ transaction.timeLog settings.zoneTime
          (saved.flatMap Consumption.chunks)) date' := by
  obtain ⟨updated, created, consumptions, charged, hupdated, hcreated, hcar, h⟩ :=
    handleMeterValues_steps h
  obtain ⟨prices, same⟩ := pricesChunks_applyConsumption h builtIn
  rw [chunks_processTransactionCar hcar] at prices same
  have measured : SamePricing transaction updated :=
    .of_eq Transaction.unmeasured (fun _ => ⟨rfl, rfl, rfl, rfl⟩)
      (unmeasured_updateTransactionWithMeterValues hupdated)
  obtain ⟨timestamp, date', hdate', once'⟩ := pricesOnce_of_created hcreated prices
    (once.of_samePricing measured) (measured.register_eq ▸ steady)
  refine ⟨timestamp.trans measured.timestamp, date', hdate', ?_⟩
  rw [Transaction.timeLog, measured.pricingModel] at once'
  rw [same]
  exact once'

end OCPPService

namespace StopAttempt

open BuiltInPricingIntegration OCPPService

/-- The meter values of the stop; after `Transaction.End` there are none. -/
def meterValues (attempt : StopAttempt) (isSoftStop : Bool) : List OCPPNormalizedMeterValue :=
  if attempt.transaction.transactionEndReceived then []
  else OCPPUtils.createTransactionStopMeterValues attempt.freed attempt.transaction
    (attempt.request isSoftStop)

/-- The consumptions that the meter values of the stop are turned into. -/
def createdConsumptions (attempt : StopAttempt) (context : StopContext) (isSoftStop : Bool) :
    List Consumption :=
  ((OCPPUtils.createConsumptionsFromMeterValues context.metering attempt.freed
    attempt.transaction (attempt.meterValues isSoftStop)).toOption.map Prod.snd).getD []

variable {settings : Settings} {attempt : StopAttempt} {context : StopContext} {isSoftStop : Bool}

/-- The last consumption is priced. -/
theorem pricesChunks_consumed {consumed : Transaction × Option Consumption}
    (h : attempt.consumed context isSoftStop = .ok consumed)
    (builtIn : context.pricingImpl = some (pricingImpl settings)) :
    ∃ created consumptions,
      OCPPUtils.createConsumptionsFromMeterValues context.metering attempt.freed
        attempt.transaction (attempt.meterValues isSoftStop) = .ok (created, consumptions) ∧
      PricesChunks settings (consumptions.flatMap Consumption.chunks) created consumed.1 := by
  unfold StopAttempt.consumed lastConsumption at h
  unfold meterValues
  split at h
  · rename_i ended
    cases h
    rw [if_pos ended]
    refine ⟨attempt.transaction, [], rfl, .of_same ?_⟩
    unfold addStopInactivity
    split
    · exact .refl _
    · dsimp only
      split <;> exact ⟨rfl, rfl, rfl, rfl⟩
  · rename_i running
    rw [if_neg running]
    obtain ⟨⟨created, consumptions⟩, hcreated, h⟩ := Outcome.bind_eq_ok.mp h
    refine ⟨created, consumptions, hcreated, ?_⟩
    have one := OCPPUtils.length_stopConsumptions_le_one hcreated
    rcases consumptions with _ | ⟨consumption, _ | ⟨_, _⟩⟩
    · cases h
      exact .of_same (.refl _)
    · obtain ⟨⟨applied, priced⟩, happlied, h⟩ := Outcome.bind_eq_ok.mp h
      obtain ⟨consumptionMDB, -, h⟩ := Outcome.bind_eq_ok.mp h
      cases h
      unfold applyStopConsumption at happlied
      rw [builtIn] at happlied
      have updated : SamePricing created (OCPPUtils.updateTransactionWithConsumption
        context.metering.now attempt.freed created consumption) := ⟨rfl, rfl, rfl, rfl⟩
      rw [List.flatMap_singleton]
      exact (pricesChunks_consumption happlied (by decide)).1.of_samePricing updated
    · simp at one

theorem samePricing_stopped {transaction stopped : Transaction}
    (h : attempt.stopped context isSoftStop transaction = .ok stopped) :
    SamePricing transaction stopped := by
  obtain ⟨billed, hbilled, h⟩ := Outcome.bind_eq_ok.mp h
  cases h
  have signed : SamePricing transaction
      (checkAndUpdateTransactionWithSignedDataInStopTransaction transaction
        (attempt.request isSoftStop)) :=
    .of_eq Transaction.unmeasured (fun _ => ⟨rfl, rfl, rfl, rfl⟩) (unmeasured_signedData _ _)
  have billed := SamePricing.of_eq Transaction.unbilled (fun _ => ⟨rfl, rfl, rfl, rfl⟩)
    (OCPPUtils.unbilled_processTransactionBilling hbilled)
  refine signed.trans (SamePricing.trans ?_ billed)
  exact ⟨rfl, rfl, rfl, rfl⟩

/-- **A stop** whose meter value does not fall. -/
theorem pricesOnce_stoppedTransaction {stopped : Transaction} {log : List PricedTime}
    {date : Timestamp} (h : attempt.stoppedTransaction context isSoftStop = some stopped)
    (builtIn : context.pricingImpl = some (pricingImpl settings))
    (once : attempt.transaction.PricesOnce log date)
    (steady : Register.Steady attempt.transaction.register
      (OCPPUtils.samples (attempt.meterValues isSoftStop))) :
    stopped.timestamp = attempt.transaction.timestamp ∧
      ∃ date', (date' = date ∨ ∃ meterValue ∈ attempt.meterValues isSoftStop,
          date' = meterValue.timestamp) ∧
        stopped.PricesOnce (log ++ attempt.transaction.timeLog settings.zoneTime
          ((attempt.createdConsumptions context isSoftStop).flatMap Consumption.chunks)) date' := by
  obtain ⟨consumed, hconsumed, hstopped⟩ := Option.bind_eq_some_iff.mp h
  have hconsumed := Outcome.toOption_eq_some.mp hconsumed
  have same := samePricing_stopped (Outcome.toOption_eq_some.mp hstopped)
  obtain ⟨created, consumptions, hcreated, prices⟩ := pricesChunks_consumed hconsumed builtIn
  obtain ⟨timestamp, date', hdate', once'⟩ := pricesOnce_of_created hcreated prices once steady
  refine ⟨same.timestamp.trans timestamp, date', hdate', ?_⟩
  rw [createdConsumptions, hcreated]
  exact once'.of_samePricing same

end StopAttempt

end EvServer
