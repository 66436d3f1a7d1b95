import EvServer.Lib.Periods
import EvServer.Pricing.TimePriced
import Mathlib.Algebra.BigOperators.Ring.Finset

/-!
# The time priced in a session

As long as the chunks of a session follow one another, so do the periods that are priced: of
the two dimensions of time one skips the chunk and is absorbed with it, so that at most the
other one lags behind (`PricesOnce`).  `timeLog` collects the periods.
-/

namespace EvServer

/-- Both dimensions of time have been absorbed up to a date or later, and neither beyond
`now`. -/
def ResolvedPricingModel.AbsorbedBetween (model : ResolvedPricingModel) (finish now : Timestamp) :
    Prop :=
  ∀ d ∈ DimensionType.times,
    finish ≤ model.pricerContext.lastStepDate d ∧ model.pricerContext.lastStepDate d ≤ now

namespace ConsumptionChunkPricer

/-! ## What follows what has been priced -/

section Follow

variable {chunk : ConsumptionChunk} {state : PricerState} {start finish : Timestamp}
variable {log : List PricedTime}

/-- What one dimension prices of a chunk follows what has been priced. -/
theorem follow_timeOutcome {lastStepDate lastStepDate' : Timestamp} {time : Option PricedTime}
    (follows : Periods.Follow start (log.map PricedTime.period) finish)
    (outcome : TimeOutcome chunk lastStepDate time lastStepDate') (behind : finish ≤ lastStepDate)
    (reached : lastStepDate ≤ chunk.startedAt) (forth : chunk.startedAt ≤ chunk.endedAt) :
    ∃ finish', Periods.Follow start ((log ++ time.toList).map PricedTime.period) finish' ∧
      finish' ≤ lastStepDate' ∧ lastStepDate' ≤ chunk.endedAt ∧
      ∀ priced ∈ time.toList, priced.IsWithin := by
  have nothing : log ++ (none : Option PricedTime).toList = log := List.append_nil log
  cases outcome with
  | skipped =>
      rw [nothing]
      exact ⟨finish, follows, behind.trans (reached.trans forth), le_rfl, by simp⟩
  | waiting =>
      rw [nothing]
      exact ⟨finish, follows, behind, reached.trans forth, by simp⟩
  | @priced time started ended isWithin =>
      refine ⟨chunk.endedAt, ?_, le_rfl, le_rfl, ?_⟩
      · rw [List.map_append, ← ended]
        refine follows.append (.cons ?_ ?_ (.nil le_rfl))
        · rcases started with started | started
          · exact behind.trans_eq started.symm
          · exact (behind.trans reached).trans_eq started.symm
        · show time.startedAt ≤ time.endedAt
          rw [ended]
          rcases started with started | started
          · exact started.trans_le (reached.trans forth)
          · exact started.trans_le forth
      · intro priced mem
        obtain rfl := List.mem_singleton.mp mem
        exact isWithin (reached.trans forth) forth

/-- What a chunk prices follows what has been priced: one of the two dimensions skips the
chunk, and the other one says what is priced. -/
theorem follow_pricedTimesIn
    (follows : Periods.Follow start (log.map PricedTime.period) finish)
    (absorbed : ∀ d ∈ DimensionType.times, finish ≤ state.context.lastStepDate d ∧
      state.context.lastStepDate d ≤ chunk.startedAt)
    (forth : chunk.startedAt ≤ chunk.endedAt) :
    ∃ finish', Periods.Follow start
        ((log ++ pricedTimesIn chunk state).map PricedTime.period) finish' ∧
      (∀ d ∈ DimensionType.times,
        finish' ≤ (priceDimensions chunk state).2.context.lastStepDate d ∧
          (priceDimensions chunk state).2.context.lastStepDate d ≤ chunk.endedAt) ∧
      ∀ priced ∈ pricedTimesIn chunk state, priced.IsWithin := by
  have charging := priceDimensions_time chunk state .chargingTime (by decide)
  have parking := priceDimensions_time chunk state .parkingTime (by decide)
  have chargingAbsorbed := absorbed .chargingTime (by decide)
  have parkingAbsorbed := absorbed .parkingTime (by decide)
  rw [pricedTimesIn_eq]
  rcases timeApplies_exclusive chunk with skips | skips
  · obtain ⟨nothing, absorbed'⟩ := charging.skips skips
    obtain ⟨finish', follows', behind, ahead, within⟩ := follow_timeOutcome follows
      parking.outcome parkingAbsorbed.1 parkingAbsorbed.2 forth
    rw [nothing, Option.toList_none, List.nil_append]
    refine ⟨finish', follows', List.forall_mem_cons.mpr ⟨⟨?_, absorbed'.le⟩, ?_⟩, within⟩
    · exact (behind.trans ahead).trans_eq absorbed'.symm
    · exact List.forall_mem_singleton.mpr ⟨behind, ahead⟩
  · obtain ⟨nothing, absorbed'⟩ := parking.skips skips
    obtain ⟨finish', follows', behind, ahead, within⟩ := follow_timeOutcome follows
      charging.outcome chargingAbsorbed.1 chargingAbsorbed.2 forth
    rw [nothing, Option.toList_none, List.append_nil]
    refine ⟨finish', follows', List.forall_mem_cons.mpr ⟨⟨behind, ahead⟩, ?_⟩, within⟩
    refine List.forall_mem_singleton.mpr ⟨?_, absorbed'.le⟩
    exact (behind.trans ahead).trans_eq absorbed'.symm

end Follow

/-- The time that is priced of a chunk. -/
def pricedTimes (zoneTime : String → Timestamp → LocalTime) (model : ResolvedPricingModel)
    (chunk : ConsumptionChunk) : List PricedTime :=
  match actualPricingDefinitions zoneTime model chunk with
  | none => []
  | some (_, definition) => pricedTimesIn chunk ⟨definition, model.pricerContext⟩

end ConsumptionChunkPricer

/-! ## One session -/

namespace ResolvedPricingModel

open ConsumptionChunkPricer

/-- The invariant of a session at a point in time: the periods priced follow one another, both
dimensions have been absorbed up to the last of them, and the model has priced what the log
says. -/
structure PricesOnce (model : ResolvedPricingModel) (start : Timestamp) (log : List PricedTime)
    (now : Timestamp) : Prop where
  follows : ∃ finish, Periods.Follow start (log.map PricedTime.period) finish ∧
    model.AbsorbedBetween finish now
  within : ∀ time ∈ log, time.IsWithin
  quantity : ∀ d ∈ DimensionType.times, model.pricedQuantity d = PricedTime.secondsOf d log

namespace PricesOnce

variable {zoneTime : String → Timestamp → LocalTime} {model model' : ResolvedPricingModel}
variable {start now now' : Timestamp} {log : List PricedTime} {chunk : ConsumptionChunk}

theorem mono (once : model.PricesOnce start log now) (later : now ≤ now') :
    model.PricesOnce start log now' := by
  obtain ⟨finish, follows, absorbed⟩ := once.follows
  refine ⟨⟨finish, follows, ?_⟩, once.within, once.quantity⟩
  intro d mem
  exact ⟨(absorbed d mem).1, (absorbed d mem).2.trans later⟩

/-- **A chunk that follows** what has been priced keeps the invariant. -/
theorem priceConsumptionChunk {pricedData : PricedConsumptionData}
    (once : model.PricesOnce start log now)
    (h : ConsumptionChunkPricer.priceConsumptionChunk zoneTime model chunk =
      .ok (pricedData, model'))
    (reached : now ≤ chunk.startedAt) (forth : chunk.startedAt ≤ chunk.endedAt) :
    model'.PricesOnce start (log ++ pricedTimes zoneTime model chunk) chunk.endedAt := by
  obtain ⟨index, definition, actual, rfl, -⟩ := priceConsumptionChunk_ok h
  have times : pricedTimes zoneTime model chunk =
      pricedTimesIn chunk ⟨definition, model.pricerContext⟩ := by
    rw [pricedTimes, actual]
  rw [times]
  obtain ⟨finish, follows, absorbed⟩ := once.follows
  obtain ⟨finish', follows', absorbed', within⟩ := @follow_pricedTimesIn chunk
    ⟨definition, model.pricerContext⟩ _ _ _ follows
    (fun d mem => ⟨(absorbed d mem).1, (absorbed d mem).2.trans reached⟩) forth
  refine ⟨⟨finish', follows', absorbed'⟩, ?_, ?_⟩
  · intro priced mem
    rcases List.mem_append.mp mem with old | new
    · exact once.within priced old
    · exact within priced new
  · intro d mem
    rw [pricedQuantity_set (getElem?_of_actualPricingDefinitions actual) _ model.pricerContext,
      (priceDimensions_time chunk ⟨definition, model.pricerContext⟩ d mem).quantity,
      PricedTime.secondsOf_append, secondsOf_pricedTimesIn chunk _ d mem, ← once.quantity d mem]
    dsimp only
    ring

/-- **The time priced** fits between the start of the session and now. -/
theorem seconds_le (once : model.PricesOnce start log now) :
    model.pricedQuantity .chargingTime + model.pricedQuantity .parkingTime ≤
      Utils.durationSecs now start := by
  obtain ⟨finish, follows, absorbed⟩ := once.follows
  have reached : finish ≤ now :=
    (absorbed .chargingTime (by decide)).1.trans (absorbed .chargingTime (by decide)).2
  rw [once.quantity .chargingTime (by decide), once.quantity .parkingTime (by decide)]
  have counted : PricedTime.secondsOf .chargingTime log + PricedTime.secondsOf .parkingTime log =
      ((log.filter fun time => time.dimension ∈ DimensionType.times).map
        PricedTime.seconds).sum :=
    PricedTime.secondsOf_add log
  set times := log.filter fun time => time.dimension ∈ DimensionType.times
  have sub : (times.map PricedTime.period).Sublist (log.map PricedTime.period) :=
    List.filter_sublist.map _
  have long := (follows.sublist sub).sum_length_le
  have short : (times.map fun time => time.seconds * 1000).sum ≤
      (times.map fun time => ((time.endedAt - time.startedAt : ℤ) : ℚ)).sum :=
    List.sum_le_sum fun time mem => once.within time (List.mem_of_mem_filter mem)
  have lengths : (times.map fun time => ((time.endedAt - time.startedAt : ℤ) : ℚ)).sum =
      (((times.map PricedTime.period).map fun period => period.2 - period.1).sum : ℤ) := by
    rw [List.map_map, Int.cast_list_sum, List.map_map]
    rfl
  have inside : (((times.map PricedTime.period).map fun period => period.2 - period.1).sum : ℤ) ≤
      now - start := long.trans (sub_le_sub_right reached start)
  rw [List.sum_map_mul_right, lengths] at short
  rw [Utils.durationSecs, le_div_iff₀ (by norm_num), counted]
  exact short.trans (Int.cast_le.mpr inside)

end PricesOnce

end ResolvedPricingModel

/-! ## Chunks after chunks -/

namespace ConsumptionPricer

open ConsumptionChunkPricer (priceConsumptionChunk pricedTimes)

variable {zoneTime : String → Timestamp → LocalTime} {start now last : Timestamp}
variable {log : List PricedTime} {chunks chunks' : List ConsumptionChunk}

/-- The time that is priced of chunks, each in the model that the ones before it have left. -/
def timeLog (zoneTime : String → Timestamp → LocalTime) :
    ResolvedPricingModel → List ConsumptionChunk → List PricedTime
  | _, [] => []
  | model, chunk :: rest =>
      pricedTimes zoneTime model chunk ++
        match priceConsumptionChunk zoneTime model chunk with
        | .ok (_, model') => timeLog zoneTime model' rest
        | .error _ => []

theorem timeLog_cons {model model' : ResolvedPricingModel} {chunk : ConsumptionChunk}
    {pricedData : PricedConsumptionData}
    (h : priceConsumptionChunk zoneTime model chunk = .ok (pricedData, model')) :
    timeLog zoneTime model (chunk :: chunks) =
      pricedTimes zoneTime model chunk ++ timeLog zoneTime model' chunks := by
  rw [timeLog, h]

/-- **Chunks that follow one another** keep the invariant. -/
theorem pricesOnce_foldlM {state state' : PricedConsumptionData × ResolvedPricingModel}
    (h : chunks.foldlM (priceNextChunk zoneTime) state = .ok state')
    (once : state.2.PricesOnce start log now)
    (follows : Periods.Follow now (chunks.map ConsumptionChunk.period) last) :
    state'.2.PricesOnce start (log ++ timeLog zoneTime state.2 chunks) last := by
  induction chunks generalizing state log now with
  | nil =>
      cases h
      rw [timeLog, List.append_nil]
      exact once.mono follows.le
  | cons chunk rest ih =>
      obtain ⟨between, hchunk, h⟩ := Outcome.foldlM_cons_eq_ok.mp h
      obtain ⟨⟨pricedData, model⟩, hpriced, hbetween⟩ := Outcome.bind_eq_ok.mp hchunk
      obtain rfl := Outcome.pure_eq_ok_iff.mp hbetween
      cases follows with
      | cons reached forth follows =>
          rw [timeLog_cons hpriced, ← List.append_assoc]
          exact ih h (once.priceConsumptionChunk hpriced reached forth) follows

/-- The chunks of the loop follow one another. -/
theorem follow_chunksFrom (consumptionData : PricerInput) (nbSeconds : ℤ) (turns : ℕ)
    (state : ChunkState) (within : state.secondsAlreadyPriced ≤ nbSeconds) :
    Periods.Follow (consumptionData.startedAt + 1000 * state.secondsAlreadyPriced)
      ((chunksFrom consumptionData nbSeconds turns state).map ConsumptionChunk.period)
      (consumptionData.startedAt + 1000 * nbSeconds) := by
  induction turns generalizing state with
  | zero => exact .nil (by linarith)
  | succ turns ih =>
      rw [chunksFrom]
      split
      · rename_i more
        have next : state.secondsAlreadyPriced + min (nbSeconds - state.secondsAlreadyPriced) 60 ≤
            nbSeconds := by omega
        refine .cons le_rfl ?_ (ih _ next)
        show consumptionData.startedAt + 1000 * state.secondsAlreadyPriced ≤
          consumptionData.startedAt + 1000 *
            (state.secondsAlreadyPriced + min (nbSeconds - state.secondsAlreadyPriced) 60)
        have seconds : 0 ≤ min (nbSeconds - state.secondsAlreadyPriced) 60 := by omega
        linarith
      · exact .nil (by linarith)

/-- **The chunks of a consumption** follow one another from its start to its end. -/
theorem follow_generateChunk {consumptionData : PricerInput}
    (forth : consumptionData.startedAt ≤ consumptionData.endedAt) :
    Periods.Follow consumptionData.startedAt
      ((generateChunk consumptionData).map ConsumptionChunk.period) consumptionData.endedAt := by
  have whole := Utils.diffSeconds_mul_le forth
  simp only [generateChunk]
  split
  · exact .cons le_rfl forth (.nil le_rfl)
  · refine (follow_chunksFrom consumptionData _ _ _ ?_).mono ?_ ?_
    · show (0 : ℤ) ≤ _
      omega
    · show consumptionData.startedAt ≤ consumptionData.startedAt + 1000 * 0
      linarith
    · linarith

/-- **A consumption that follows** what has been priced keeps the invariant. -/
theorem pricesOnce_priceConsumption {model : ResolvedPricingModel} {consumptionData : PricerInput}
    {priced : PricedConsumptionData × ResolvedPricingModel}
    (h : priceConsumption zoneTime model consumptionData = .ok priced)
    (once : model.PricesOnce start log now) (reached : now ≤ consumptionData.startedAt)
    (forth : consumptionData.startedAt ≤ consumptionData.endedAt) :
    priced.2.PricesOnce start (log ++ timeLog zoneTime model (generateChunk consumptionData))
      consumptionData.endedAt :=
  pricesOnce_foldlM h once ((follow_generateChunk forth).mono reached le_rfl)

end ConsumptionPricer

/-! ## The start of a session -/

/-- A model as it is resolved at the start of a session: the session has a start, and no time
has been absorbed either. -/
structure ResolvedPricingModel.StartsAt (model : ResolvedPricingModel) (start : Timestamp) : Prop
    extends model.Fresh where
  sessionStartDate : model.pricerContext.sessionStartDate = start
  notAbsorbedTime : ∀ d, model.pricerContext.absorbedTime d = none

namespace ResolvedPricingModel.StartsAt

open ConsumptionChunkPricer ConsumptionPricer

variable {zoneTime : String → Timestamp → LocalTime} {model : ResolvedPricingModel}
variable {start : Timestamp}

theorem lastStepDate_eq (starts : model.StartsAt start) (d : DimensionType) :
    model.pricerContext.lastStepDate d = start := by
  rw [ConsumptionPricerContext.lastStepDate, starts.notAbsorbedTime, Option.getD_none,
    starts.sessionStartDate]

theorem pricesOnce (starts : model.StartsAt start) : model.PricesOnce start [] start := by
  refine ⟨⟨start, .nil le_rfl, ?_⟩, by simp, ?_⟩
  · intro d _
    rw [starts.lastStepDate_eq]
    exact ⟨le_rfl, le_rfl⟩
  · intro d _
    refine List.sum_eq_zero ?_
    intro quantity mem
    obtain ⟨definition, hdefinition, rfl⟩ := List.mem_map.mp mem
    rw [ResolvedPricingDefinition.pricedQuantity, starts.notPriced definition hdefinition]
    rfl

/-- A consumption that takes no time prices none. -/
theorem timeLog_eq_nil (starts : model.StartsAt start) {consumptionData : PricerInput}
    (started : consumptionData.startedAt = start) (ended : consumptionData.endedAt = start) :
    timeLog zoneTime model (generateChunk consumptionData) = [] := by
  have noSeconds : Utils.diffSeconds start start = 0 := by
    rw [Utils.diffSeconds, sub_self, Int.zero_tdiv]
  have one : generateChunk consumptionData = [consumptionData.toConsumptionChunk] := by
    unfold generateChunk
    dsimp only
    rw [started, ended, noSeconds]
    rfl
  have nothing (dimension : PricingDimension) :
      priceTimeDimension consumptionData.toConsumptionChunk dimension start = none := by
    unfold priceTimeDimension
    dsimp only
    rw [started, ended, noSeconds, Int.cast_zero, zero_div, Rounding.truncate_of_nonneg le_rfl,
      Int.floor_zero]
    simp
  have times : pricedTimes zoneTime model consumptionData.toConsumptionChunk = [] := by
    unfold pricedTimes
    split
    · rfl
    · rename_i definition _
      refine List.filterMap_eq_nil_iff.mpr fun d _ => ?_
      unfold pricedTime
      dsimp only
      rw [starts.lastStepDate_eq]
      cases (activeDimension definition d).filter _ with
      | none => rfl
      | some dimensionToPrice =>
          rw [Option.bind_some, nothing, Option.map_none]
  rw [one, timeLog, times]
  split <;> rfl

end ResolvedPricingModel.StartsAt

end EvServer
