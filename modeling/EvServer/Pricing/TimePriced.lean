import EvServer.Pricing.ConsumptionPricer

/-!
# The time that a chunk is priced for

Charging and parking time each have a date up to which they have been absorbed.  By steps a
dimension prices from that date on, and without steps it prices the chunk.  A dimension that
does not apply to a chunk is absorbed with it; one that applies but has no whole step yet
waits.

`pricedTime` is the period that a dimension prices, and `priceDimensions_time` says what
becomes of it in the four dimensions that the pricer goes through.
-/

namespace EvServer

/-- Time that is priced in a dimension. -/
structure PricedTime where
  dimension : DimensionType
  startedAt : Timestamp
  endedAt : Timestamp
  seconds : ℚ
  deriving DecidableEq, Repr

namespace PricedTime

def period (time : PricedTime) : Timestamp × Timestamp := (time.startedAt, time.endedAt)

/-- No more seconds are priced than the period has. -/
def IsWithin (time : PricedTime) : Prop :=
  time.seconds * 1000 ≤ ((time.endedAt - time.startedAt : ℤ) : ℚ)

/-- The seconds priced in a dimension. -/
def secondsOf (d : DimensionType) (log : List PricedTime) : ℚ :=
  ((log.filter fun time => time.dimension = d).map PricedTime.seconds).sum

theorem secondsOf_cons (d : DimensionType) (time : PricedTime) (rest : List PricedTime) :
    secondsOf d (time :: rest) =
      (if time.dimension = d then time.seconds else 0) + secondsOf d rest := by
  rw [secondsOf, secondsOf, List.filter_cons]
  by_cases counts : time.dimension = d <;> simp [counts]

theorem secondsOf_append (d : DimensionType) (log log' : List PricedTime) :
    secondsOf d (log ++ log') = secondsOf d log + secondsOf d log' := by
  rw [secondsOf, List.filter_append, List.map_append, List.sum_append]
  rfl

end PricedTime

def ConsumptionChunk.period (chunk : ConsumptionChunk) : Timestamp × Timestamp :=
  (chunk.startedAt, chunk.endedAt)

/-- The dimensions of time. -/
def DimensionType.times : List DimensionType := [.chargingTime, .parkingTime]

/-- The seconds of both dimensions. -/
theorem PricedTime.secondsOf_add (log : List PricedTime) :
    secondsOf .chargingTime log + secondsOf .parkingTime log =
      ((log.filter fun time => time.dimension ∈ DimensionType.times).map seconds).sum := by
  induction log with
  | nil => exact add_zero _
  | cons time rest ih =>
      rw [secondsOf_cons, secondsOf_cons, add_add_add_comm, ih, List.filter_cons]
      cases hdimension : time.dimension <;> simp [DimensionType.times]

/-- The quantity that a definition has priced in a dimension. -/
def ResolvedPricingDefinition.pricedQuantity (definition : ResolvedPricingDefinition)
    (d : DimensionType) : ℚ :=
  ((definition.pricedData d).map PricedDimensionData.quantity).getD 0

/-- The quantity that all definitions have priced in a dimension. -/
def ResolvedPricingModel.pricedQuantity (model : ResolvedPricingModel) (d : DimensionType) : ℚ :=
  (model.pricingDefinitions.map fun definition => definition.pricedQuantity d).sum

/-- Pricing with one definition changes the quantity by what it changes there. -/
theorem ResolvedPricingModel.pricedQuantity_set {definitions : List ResolvedPricingDefinition}
    {index : ℕ} {definition : ResolvedPricingDefinition}
    (present : definitions[index]? = some definition) (definition' : ResolvedPricingDefinition)
    (context context' : ConsumptionPricerContext) (d : DimensionType) :
    pricedQuantity ⟨definitions.set index definition', context'⟩ d =
      pricedQuantity ⟨definitions, context⟩ d +
        (definition'.pricedQuantity d - definition.pricedQuantity d) :=
  sum_map_set present definition' fun definition => definition.pricedQuantity d

namespace ConsumptionPricerContext

/-- The date up to which a dimension of time has been absorbed, if one is set. -/
def absorbedTime (context : ConsumptionPricerContext) : DimensionType → Option Timestamp
  | .chargingTime => context.lastAbsorbedChargingTime
  | .parkingTime => context.lastAbsorbedParkingTime
  | .flatFee | .energy => none

/-- `getAbsorbedChargingTime` and `getAbsorbedParkingTime`. -/
def lastStepDate (context : ConsumptionPricerContext) (d : DimensionType) : Timestamp :=
  (context.absorbedTime d).getD context.sessionStartDate

end ConsumptionPricerContext

theorem Utils.diffSeconds_mul_le {finish start : Timestamp} (le : start ≤ finish) :
    diffSeconds finish start * 1000 ≤ finish - start := by
  have nonneg : 0 ≤ finish - start := sub_nonneg.mpr le
  rw [diffSeconds, Int.tdiv_eq_ediv_of_nonneg nonneg]
  exact Int.ediv_mul_le _ (by decide)

namespace ConsumptionChunkPricer

/-! ## One dimension of a chunk -/

/-- What a dimension prices of a chunk that it applies to. -/
def pricedTime (chunk : ConsumptionChunk) (d : DimensionType) (applies : Bool)
    (state : PricerState) : Option PricedTime :=
  ((activeDimension state.definition d).filter fun _ => applies).bind fun dimensionToPrice =>
    let lastStepDate := state.context.lastStepDate d
    (priceTimeDimension chunk dimensionToPrice lastStepDate).map fun pricedData =>
      { dimension := d
        startedAt := if dimensionToPrice.stepSize ≠ 0 then lastStepDate else chunk.startedAt
        endedAt := chunk.endedAt
        seconds := pricedData.quantity }

theorem dimension_of_pricedTime {chunk : ConsumptionChunk} {d : DimensionType} {applies : Bool}
    {state : PricerState} {time : PricedTime} (h : time ∈ pricedTime chunk d applies state) :
    time.dimension = d := by
  obtain ⟨dimensionToPrice, -, h⟩ := Option.bind_eq_some_iff.mp h
  obtain ⟨pricedData, -, rfl⟩ := Option.map_eq_some_iff.mp h
  rfl

/-- What a dimension of time does with a chunk: it skips the chunk, waits for a whole step, or
prices a period that ends with the chunk. -/
inductive TimeOutcome (chunk : ConsumptionChunk) (lastStepDate : Timestamp) :
    Option PricedTime → Timestamp → Prop
  | skipped : TimeOutcome chunk lastStepDate none chunk.endedAt
  | waiting : TimeOutcome chunk lastStepDate none lastStepDate
  | priced {time : PricedTime} :
      time.startedAt = lastStepDate ∨ time.startedAt = chunk.startedAt →
      time.endedAt = chunk.endedAt →
      (lastStepDate ≤ chunk.endedAt → chunk.startedAt ≤ chunk.endedAt → time.IsWithin) →
      TimeOutcome chunk lastStepDate (some time) chunk.endedAt

/-- The seconds priced fit into the period. -/
theorem isWithin_of_priceTimeDimension {chunk : ConsumptionChunk} {dimension : PricingDimension}
    {lastStepDate : Timestamp} {pricedData : PricedDimensionData} {time : PricedTime}
    (h : priceTimeDimension chunk dimension lastStepDate = some pricedData)
    (started : time.startedAt = if dimension.stepSize ≠ 0 then lastStepDate else chunk.startedAt)
    (ended : time.endedAt = chunk.endedAt) (seconds : time.seconds = pricedData.quantity)
    (ahead : lastStepDate ≤ chunk.endedAt) (forth : chunk.startedAt ≤ chunk.endedAt) :
    time.IsWithin := by
  have inSeconds {start : Timestamp} (le : start ≤ chunk.endedAt) :
      (Utils.diffSeconds chunk.endedAt start : ℚ) * 1000 ≤ ((chunk.endedAt - start : ℤ) : ℚ) := by
    exact_mod_cast Utils.diffSeconds_mul_le le
  unfold PricedTime.IsWithin
  rw [started, ended, seconds]
  unfold priceTimeDimension at h
  split at h
  · rename_i bySteps
    rw [if_pos bySteps]
    dsimp only at h
    split at h
    · rename_i steps
      cases h
      have nonneg : (0 : ℚ) ≤ (Utils.diffSeconds chunk.endedAt lastStepDate : ℚ) := by
        have := Int.tdiv_nonneg (sub_nonneg.mpr ahead) (by decide : (0 : ℤ) ≤ 1000)
        exact_mod_cast this
      -- A whole step has passed, so the step size is positive.
      have pos : 0 < dimension.stepSize := by
        by_contra notPos
        have := Rounding.one_le_of_truncate_pos steps
        have := div_nonpos_of_nonneg_of_nonpos nonneg (not_lt.mp notPos)
        linarith
      have whole := Rounding.floor_div_mul_le pos (Utils.diffSeconds chunk.endedAt lastStepDate : ℚ)
      rw [← Rounding.truncate_eq_floor_of_pos steps] at whole
      calc _ ≤ (Utils.diffSeconds chunk.endedAt lastStepDate : ℚ) * 1000 :=
            mul_le_mul_of_nonneg_right whole (by norm_num)
        _ ≤ _ := inSeconds ahead
    · cases h
  · rename_i notBySteps
    rw [if_neg notBySteps]
    dsimp only at h
    split at h
    · cases h
      exact inSeconds forth
    · cases h

/-- Adding priced data adds its quantity. -/
theorem pricedQuantity_add {state : PricerState} {d : DimensionType}
    {pricingDimension : PricingDimension}
    (active : activeDimension state.definition d = some pricingDimension)
    (pricedData : PricedDimensionData) :
    (state.add d pricingDimension pricedData).definition.pricedQuantity d =
      state.definition.pricedQuantity d + pricedData.quantity := by
  rw [ResolvedPricingDefinition.pricedQuantity, state.pricedData_add_self,
    ResolvedPricingDefinition.pricedQuantity, pricedData_of_activeDimension active, addPricedData]
  cases pricingDimension.pricedData with
  | none => exact (zero_add _).symm
  | some previousData => rfl

/-- **A dimension of time.** -/
theorem priceTimeConsumption_spec {chunk : ConsumptionChunk} {d : DimensionType} {applies : Bool}
    {state : PricerState} {absorb : PricerState → PricerState}
    (definition : ∀ state, (absorb state).definition = state.definition)
    (absorbed : ∀ state, (absorb state).context.lastStepDate d = chunk.endedAt) :
    let after :=
      (priceTimeConsumption chunk d applies (state.context.lastStepDate d) absorb state).2
    TimeOutcome chunk (state.context.lastStepDate d) (pricedTime chunk d applies state)
        (after.context.lastStepDate d) ∧
      after.definition.pricedQuantity d = state.definition.pricedQuantity d +
        ((pricedTime chunk d applies state).map PricedTime.seconds).getD 0 ∧
      (applies = false → pricedTime chunk d applies state = none ∧
        after.context.lastStepDate d = chunk.endedAt) := by
  unfold priceTimeConsumption pricedTime
  cases active : (activeDimension state.definition d).filter fun _ => applies with
  | none =>
      dsimp only [Option.bind_none]
      rw [absorbed, definition]
      exact ⟨.skipped, (add_zero _).symm, fun _ => ⟨rfl, rfl⟩⟩
  | some dimensionToPrice =>
      obtain ⟨active, does⟩ := Option.filter_eq_some_iff.mp active
      have notSkipped : applies ≠ false := by
        intro skips
        rw [skips] at does
        cases does
      dsimp only [Option.bind_some]
      cases priced : priceTimeDimension chunk dimensionToPrice (state.context.lastStepDate d) with
      | none => exact ⟨.waiting, (add_zero _).symm, fun skips => absurd skips notSkipped⟩
      | some pricedData =>
          dsimp only [Option.map_some]
          rw [absorbed, definition, pricedQuantity_add active]
          refine ⟨.priced ?_ rfl ?_, rfl, fun skips => absurd skips notSkipped⟩
          · dsimp only
            split
            · exact .inl rfl
            · exact .inr rfl
          · exact isWithin_of_priceTimeDimension priced rfl rfl rfl

/-! ## The four dimensions of a chunk -/

/-- The figures that pricing a dimension of time is about. -/
structure SameTime (d : DimensionType) (state state' : PricerState) : Prop where
  dimension : state'.definition.dimensions.get d = state.definition.dimensions.get d
  absorbed : state'.context.absorbedTime d = state.context.absorbedTime d
  started : state'.context.sessionStartDate = state.context.sessionStartDate

namespace SameTime

variable {d : DimensionType} {state state' : PricerState}

theorem trans {between : PricerState} (first : SameTime d state between)
    (second : SameTime d between state') : SameTime d state state' :=
  ⟨second.dimension.trans first.dimension, second.absorbed.trans first.absorbed,
    second.started.trans first.started⟩

theorem lastStepDate_eq (same : SameTime d state state') :
    state'.context.lastStepDate d = state.context.lastStepDate d := by
  rw [ConsumptionPricerContext.lastStepDate, same.absorbed, same.started]
  rfl

theorem pricedQuantity_eq (same : SameTime d state state') :
    state'.definition.pricedQuantity d = state.definition.pricedQuantity d := by
  rw [ResolvedPricingDefinition.pricedQuantity, ResolvedPricingDefinition.pricedData,
    same.dimension]
  rfl

theorem pricedTime_eq (same : SameTime d state state') (chunk : ConsumptionChunk)
    (applies : Bool) : pricedTime chunk d applies state' = pricedTime chunk d applies state := by
  rw [pricedTime, activeDimension, same.dimension, same.lastStepDate_eq]
  rfl

end SameTime

theorem sameTime_priceFlatFeeConsumption {d : DimensionType} (time : d ≠ .flatFee)
    (chunk : ConsumptionChunk) (state : PricerState) :
    SameTime d state (priceFlatFeeConsumption chunk state).2 := by
  have context (state : PricerState) : SameTime d state
      { state with context := { state.context with flatFeeAlreadyPriced := true } } := by
    cases d <;> exact ⟨rfl, rfl, rfl⟩
  unfold priceFlatFeeConsumption
  split
  · exact ⟨rfl, rfl, rfl⟩
  · split
    · simp only
      split
      · exact context state
      · exact (context state).trans ⟨PricerState.get_add_of_ne _ time _ _, rfl, rfl⟩
    · exact ⟨rfl, rfl, rfl⟩

theorem sameTime_priceEnergyConsumption {d : DimensionType} (time : d ≠ .energy)
    (chunk : ConsumptionChunk) (state : PricerState) :
    SameTime d state (priceEnergyConsumption chunk state).2 := by
  have absorb (absorbed : ℚ) (state : PricerState) :
      SameTime d state (absorbConsumption absorbed state) := by
    cases d <;> exact ⟨rfl, rfl, rfl⟩
  have add (pricingDimension : PricingDimension) (pricedData : PricedDimensionData) :
      SameTime d state (state.add .energy pricingDimension pricedData) :=
    ⟨PricerState.get_add_of_ne _ time _ _, rfl, rfl⟩
  unfold priceEnergyConsumption
  split
  · exact absorb _ state
  · dsimp only
    split
    · split
      · exact (add _ _).trans (absorb _ _)
      · exact ⟨rfl, rfl, rfl⟩
    · split
      · exact (add _ _).trans (absorb _ _)
      · exact ⟨rfl, rfl, rfl⟩

theorem sameTime_priceTimeConsumption {chunk : ConsumptionChunk} {d d' : DimensionType}
    (other : d ≠ d') {applies : Bool} {lastStepDate : Timestamp} {absorb : PricerState → PricerState}
    (keeps : ∀ state, SameTime d state (absorb state)) (state : PricerState) :
    SameTime d state (priceTimeConsumption chunk d' applies lastStepDate absorb state).2 := by
  unfold priceTimeConsumption
  split
  · exact keeps state
  · split
    · exact ⟨rfl, rfl, rfl⟩
    · exact SameTime.trans ⟨PricerState.get_add_of_ne _ other _ _, rfl, rfl⟩ (keeps _)

/-- The time of a chunk counts in a dimension: it charges, or it parks after a charge. -/
def timeApplies (chunk : ConsumptionChunk) : DimensionType → Bool
  | .chargingTime => 0 < chunk.consumptionWh
  | .parkingTime =>
      0 < chunk.totalInactivitySecs ∧ 0 < chunk.cumulatedConsumptionWh ∧ chunk.consumptionWh ≤ 0
  | .flatFee | .energy => false

/-- A chunk does not both charge and park. -/
theorem timeApplies_exclusive (chunk : ConsumptionChunk) :
    timeApplies chunk .chargingTime = false ∨ timeApplies chunk .parkingTime = false := by
  rcases le_or_gt chunk.consumptionWh 0 with idle | charging
  · exact .inl (by simpa [timeApplies] using idle)
  · exact .inr (by simp [timeApplies, charging])

/-- What a chunk does in a dimension of time, from one state of the pricer to another. -/
structure PricesDimension (chunk : ConsumptionChunk) (d : DimensionType)
    (state state' : PricerState) : Prop where
  outcome : TimeOutcome chunk (state.context.lastStepDate d)
    (pricedTime chunk d (timeApplies chunk d) state) (state'.context.lastStepDate d)
  quantity : state'.definition.pricedQuantity d = state.definition.pricedQuantity d +
    ((pricedTime chunk d (timeApplies chunk d) state).map PricedTime.seconds).getD 0
  skips : timeApplies chunk d = false →
    pricedTime chunk d (timeApplies chunk d) state = none ∧
      state'.context.lastStepDate d = chunk.endedAt

/-- What comes before and after a dimension does not change it. -/
theorem PricesDimension.congr {chunk : ConsumptionChunk} {d : DimensionType}
    {before state state' after : PricerState} (h : PricesDimension chunk d state state')
    (same : SameTime d before state) (same' : SameTime d state' after) :
    PricesDimension chunk d before after := by
  refine ⟨?_, ?_, ?_⟩
  · rw [same'.lastStepDate_eq, ← same.lastStepDate_eq, ← same.pricedTime_eq]
    exact h.outcome
  · rw [same'.pricedQuantity_eq, ← same.pricedQuantity_eq, ← same.pricedTime_eq]
    exact h.quantity
  · rw [same'.lastStepDate_eq, ← same.pricedTime_eq]
    exact h.skips

/-- **The dimensions of time** are each priced once for a chunk. -/
theorem priceDimensions_time (chunk : ConsumptionChunk) (state : PricerState) :
    ∀ d ∈ DimensionType.times,
      PricesDimension chunk d state (priceDimensions chunk state).2 := by
  have before {d : DimensionType} (notFee : d ≠ .flatFee) (notEnergy : d ≠ .energy) :
      SameTime d state
        (priceEnergyConsumption chunk (priceFlatFeeConsumption chunk state).2).2 :=
    (sameTime_priceFlatFeeConsumption notFee chunk state).trans
      (sameTime_priceEnergyConsumption notEnergy chunk _)
  have charging (state : PricerState) : PricesDimension chunk .chargingTime state
      (priceChargingTimeConsumption chunk state).2 := by
    obtain ⟨outcome, quantity, skips⟩ := @priceTimeConsumption_spec chunk .chargingTime
      (timeApplies chunk .chargingTime) state
      (fun state => { state with
        context := { state.context with lastAbsorbedChargingTime := some chunk.endedAt } })
      (fun _ => rfl) (fun _ => rfl)
    exact ⟨outcome, quantity, skips⟩
  have parking (state : PricerState) : PricesDimension chunk .parkingTime state
      (priceParkingTimeConsumption chunk state).2 := by
    obtain ⟨outcome, quantity, skips⟩ := @priceTimeConsumption_spec chunk .parkingTime
      (timeApplies chunk .parkingTime) state
      (fun state => { state with
        context := { state.context with lastAbsorbedParkingTime := some chunk.endedAt } })
      (fun _ => rfl) (fun _ => rfl)
    exact ⟨outcome, quantity, skips⟩
  have apart : DimensionType.parkingTime ≠ .chargingTime := by decide
  have chargingKeeps (state : PricerState) : SameTime .parkingTime state
      (priceChargingTimeConsumption chunk state).2 := by
    apply sameTime_priceTimeConsumption apart
    exact fun _ => ⟨rfl, rfl, rfl⟩
  have parkingKeeps (state : PricerState) : SameTime .chargingTime state
      (priceParkingTimeConsumption chunk state).2 := by
    apply sameTime_priceTimeConsumption apart.symm
    exact fun _ => ⟨rfl, rfl, rfl⟩
  intro d mem
  rcases List.mem_cons.mp mem with rfl | mem
  · exact (charging _).congr (before (by decide) (by decide)) (parkingKeeps _)
  · obtain rfl := List.mem_singleton.mp mem
    exact (parking _).congr ((before (by decide) (by decide)).trans (chargingKeeps _))
      ⟨rfl, rfl, rfl⟩

/-- The time that is priced in a state of the pricer. -/
def pricedTimesIn (chunk : ConsumptionChunk) (state : PricerState) : List PricedTime :=
  DimensionType.times.filterMap fun d => pricedTime chunk d (timeApplies chunk d) state

theorem pricedTimesIn_eq (chunk : ConsumptionChunk) (state : PricerState) :
    pricedTimesIn chunk state =
      (pricedTime chunk .chargingTime (timeApplies chunk .chargingTime) state).toList ++
        (pricedTime chunk .parkingTime (timeApplies chunk .parkingTime) state).toList := by
  unfold pricedTimesIn
  dsimp only [DimensionType.times, List.filterMap_cons, List.filterMap_nil]
  cases pricedTime chunk .chargingTime _ _ <;> cases pricedTime chunk .parkingTime _ _ <;> rfl

/-- The seconds of a period count in its own dimension. -/
theorem secondsOf_toList {d : DimensionType} {time : Option PricedTime}
    (dimension : ∀ priced ∈ time, priced.dimension = d) (d' : DimensionType) :
    PricedTime.secondsOf d' time.toList =
      if d' = d then (time.map PricedTime.seconds).getD 0 else 0 := by
  cases time with
  | none => exact (ite_self _).symm
  | some priced =>
      have dimension : priced.dimension = d := dimension priced rfl
      rcases eq_or_ne d' d with rfl | other
      · simp [PricedTime.secondsOf, dimension]
      · simp [PricedTime.secondsOf, dimension, other, other.symm]

theorem secondsOf_pricedTimesIn (chunk : ConsumptionChunk) (state : PricerState) :
    ∀ d ∈ DimensionType.times, PricedTime.secondsOf d (pricedTimesIn chunk state) =
      ((pricedTime chunk d (timeApplies chunk d) state).map PricedTime.seconds).getD 0 := by
  intro d mem
  rw [pricedTimesIn_eq, PricedTime.secondsOf_append,
    secondsOf_toList fun _ => dimension_of_pricedTime,
    secondsOf_toList fun _ => dimension_of_pricedTime]
  rcases List.mem_cons.mp mem with rfl | mem
  · rw [if_pos rfl, if_neg (by decide), add_zero]
  · obtain rfl := List.mem_singleton.mp mem
    rw [if_neg (by decide), if_pos rfl, zero_add]

end ConsumptionChunkPricer

end EvServer
