import EvServer.Pricing.PricedAmounts

/-!
# Energy priced by whole steps

When one definition prices the energy of a whole session by steps, the remainder below a
step is never absorbed: `lastAbsorbedConsumption` stays on a whole number of steps, and the
next chunk counts its steps from there.  What has been priced is then the whole steps in the
cumulated energy, however the session is cut into consumptions and chunks.
-/

namespace EvServer

/-- The amount that all definitions of the model have priced for energy. -/
def ResolvedPricingModel.energyAmount (model : ResolvedPricingModel) : ℚ :=
  (model.pricingDefinitions.map fun definition => amountOf (definition.pricedData .energy)).sum

theorem ResolvedPricingModel.Fresh.energyAmount_eq_zero {model : ResolvedPricingModel}
    (fresh : model.Fresh) : model.energyAmount = 0 := by
  apply List.sum_eq_zero
  intro amount mem
  obtain ⟨definition, hdefinition, rfl⟩ := List.mem_map.mp mem
  rw [fresh.notPriced definition hdefinition]
  rfl

/-- The whole steps in an amount of energy. -/
def wholeSteps (cumulatedConsumptionWh stepSize : ℚ) : ℚ :=
  ⌊cumulatedConsumptionWh / stepSize⌋ * stepSize

namespace ConsumptionChunkPricer

variable {chunk : ConsumptionChunk} {state : PricerState}

/-! ## One chunk -/

/-- Adding priced data to a dimension adds its amount. -/
theorem amountOf_add {d : DimensionType} {dimension : PricingDimension}
    {pricedData : PricedDimensionData} (active : activeDimension state.definition d = some dimension)
    (exactly : ∀ data ∈ state.definition.pricedData d, data.IsExact)
    (isExact : pricedData.IsExact) :
    amountOf ((state.add d dimension pricedData).definition.pricedData d) =
      amountOf (state.definition.pricedData d) + pricedData.amount := by
  have previous : state.definition.pricedData d = dimension.pricedData :=
    pricedData_of_activeDimension active
  rw [state.pricedData_add_self, previous]
  refine amountOf_addPricedData ?_ isExact
  rwa [← previous]

/-- **The steps of a chunk.**  From an absorbed energy that is a whole number of steps, the
energy priced and the energy absorbed both go up to the whole steps of the chunk. -/
theorem priceEnergyConsumption_wholeSteps {dimension : PricingDimension} {reached : ℚ}
    (active : activeDimension state.definition .energy = some dimension)
    (pos : 0 < dimension.stepSize) (nonneg : 0 ≤ reached)
    (ahead : reached ≤ chunk.cumulatedConsumptionWh)
    (absorbed : state.absorbed = wholeSteps reached dimension.stepSize)
    (exactly : ∀ data ∈ state.definition.pricedData .energy, data.IsExact) :
    let state' := (priceEnergyConsumption chunk state).2
    let steps := wholeSteps chunk.cumulatedConsumptionWh dimension.stepSize -
      wholeSteps reached dimension.stepSize
    state'.absorbed = wholeSteps chunk.cumulatedConsumptionWh dimension.stepSize ∧
      state'.definition.pricedEnergy = state.definition.pricedEnergy + steps ∧
      amountOf (state'.definition.pricedData .energy) =
        amountOf (state.definition.pricedData .energy) + dimension.price * steps / 1000 := by
  intro state' steps
  have count : energySteps state.context chunk dimension.stepSize =
      ⌊chunk.cumulatedConsumptionWh / dimension.stepSize⌋ - ⌊reached / dimension.stepSize⌋ := by
    rw [energySteps]
    change Rounding.truncate ((_ - state.absorbed) / _) = _
    rw [absorbed]
    exact Rounding.truncate_sub_floor_mul_div pos ahead
  have quantity : (energySteps state.context chunk dimension.stepSize : ℚ) * dimension.stepSize =
      steps := by
    rw [count, Int.cast_sub, sub_mul]
    rfl
  have whole : Rounding.truncate (chunk.cumulatedConsumptionWh / dimension.stepSize) =
      ⌊chunk.cumulatedConsumptionWh / dimension.stepSize⌋ :=
    Rounding.truncate_of_nonneg (div_nonneg (nonneg.trans ahead) pos.le)
  by_cases fires : 0 < chunk.cumulatedConsumptionWh ∧
      0 < energySteps state.context chunk dimension.stepSize
  · have priced : state' = absorbConsumption
        (Rounding.truncate (chunk.cumulatedConsumptionWh / dimension.stepSize) *
          dimension.stepSize)
        (state.add .energy dimension
          (priceConsumptionStep dimension
            (energySteps state.context chunk dimension.stepSize))) := by
      show (priceEnergyConsumption chunk state).2 = _
      simp only [priceEnergyConsumption, active, ne_eq, pos.ne', not_false_eq_true, if_true,
        if_pos fires]
    rw [priced]
    refine ⟨?_, ?_, ?_⟩
    · rw [whole]
      rfl
    · show (state.add .energy dimension _).definition.pricedEnergy = _
      rw [pricedEnergy_add active, ← quantity]
      rfl
    · show amountOf ((state.add .energy dimension _).definition.pricedData .energy) = _
      rw [amountOf_add active exactly ⟨rfl, rfl⟩, ← quantity]
      rfl
  · -- No whole step has been delivered since the last one that was priced.
    have same : state' = state := by
      show (priceEnergyConsumption chunk state).2 = _
      simp only [priceEnergyConsumption, active, ne_eq, pos.ne', not_false_eq_true, if_true,
        if_neg fires]
    have forth : ⌊reached / dimension.stepSize⌋ ≤
        ⌊chunk.cumulatedConsumptionWh / dimension.stepSize⌋ :=
      Int.floor_mono (div_le_div_of_nonneg_right ahead pos.le)
    have none : energySteps state.context chunk dimension.stepSize = 0 := by
      by_contra some
      have more : 0 < energySteps state.context chunk dimension.stepSize := by omega
      refine fires ⟨?_, more⟩
      have from0 : 0 ≤ ⌊reached / dimension.stepSize⌋ :=
        Int.floor_nonneg.mpr (div_nonneg nonneg pos.le)
      have one : 1 ≤ ⌊chunk.cumulatedConsumptionWh / dimension.stepSize⌋ := by omega
      have positive : 0 < chunk.cumulatedConsumptionWh / dimension.stepSize :=
        zero_lt_one.trans_le (by exact_mod_cast Int.le_floor.mp one)
      exact (div_pos_iff_of_pos_right pos).mp positive
    have nothing : steps = 0 := by
      rw [← quantity, none, Int.cast_zero, zero_mul]
    rw [same, nothing, mul_zero, zero_div, add_zero, add_zero]
    exact ⟨absorbed.trans (sub_eq_zero.mp nothing).symm, rfl, rfl⟩

/-- Pricing a chunk does not change the time zone of the session. -/
theorem timezone_priceDimensions (chunk : ConsumptionChunk) (state : PricerState) :
    (priceDimensions chunk state).2.context.timezone = state.context.timezone := by
  have flatFee : (priceFlatFeeConsumption chunk state).2.context.timezone =
      state.context.timezone := by
    unfold priceFlatFeeConsumption
    split
    · rfl
    · split
      · simp only
        split <;> rfl
      · rfl
  have energy (state : PricerState) : (priceEnergyConsumption chunk state).2.context.timezone =
      state.context.timezone := by
    unfold priceEnergyConsumption
    split
    · rfl
    · simp only
      split <;> split <;> rfl
  have time (state : PricerState) {d : DimensionType} {applies : Bool} {lastStepDate : Timestamp}
      {absorb : PricerState → PricerState}
      (keeps : ∀ state, (absorb state).context.timezone = state.context.timezone) :
      (priceTimeConsumption chunk d applies lastStepDate absorb state).2.context.timezone =
        state.context.timezone := by
    unfold priceTimeConsumption
    split
    · exact keeps state
    · split
      · rfl
      · exact keeps _
  have charging : ∀ state, (priceChargingTimeConsumption chunk state).2.context.timezone =
      state.context.timezone := fun state => time state fun _ => rfl
  have parking : ∀ state, (priceParkingTimeConsumption chunk state).2.context.timezone =
      state.context.timezone := fun state => time state fun _ => rfl
  exact ((parking _).trans (charging _)).trans ((energy _).trans flatFee)

variable {zoneTime : String → Timestamp → LocalTime} {model model' : ResolvedPricingModel}

/-- Which definition prices a chunk depends on the tariffs and the time zone only. -/
theorem actualPricingDefinition_congr
    (tariffs : model'.pricingDefinitions.map ResolvedPricingDefinition.tariff =
      model.pricingDefinitions.map ResolvedPricingDefinition.tariff)
    (timezone : model'.pricerContext.timezone = model.pricerContext.timezone)
    (chunk : ConsumptionChunk) :
    actualPricingDefinition zoneTime model' chunk =
      actualPricingDefinition zoneTime model chunk := by
  have onTariffs (model : ResolvedPricingModel) : actualPricingDefinition zoneTime model chunk =
      (model.pricingDefinitions.map ResolvedPricingDefinition.tariff).findIdx?
        (checkPricingDefinitionRestrictions zoneTime model.pricerContext chunk) := by
    rw [List.findIdx?_map]
    rfl
  have onTimezone : checkPricingDefinitionRestrictions zoneTime model'.pricerContext chunk =
      checkPricingDefinitionRestrictions zoneTime model.pricerContext chunk := by
    funext definition
    simp only [checkPricingDefinitionRestrictions, checkDayOfWeek, checkTimeValidity, timezone]
  rw [onTariffs model', onTariffs model, tariffs, onTimezone]

theorem activeDimension_tariff (definition : ResolvedPricingDefinition) (d : DimensionType) :
    activeDimension definition.tariff d =
      (activeDimension definition d).map PricingDimension.tariff := by
  rw [activeDimension, activeDimension, ResolvedPricingDefinition.tariff, ByDimension.get_map,
    Option.filter_map]
  rfl

end ConsumptionChunkPricer

/-- The invariant of a session whose energy is priced by one definition, with a dimension by
steps: the energy absorbed and the energy priced are the whole steps in the energy delivered. -/
structure ResolvedPricingModel.PricesWholeSteps (model : ResolvedPricingModel) (index : ℕ)
    (dimension : PricingDimension) (reached : ℚ) : Prop where
  nonneg : 0 ≤ reached
  applies : ∃ definition ∈ model.pricingDefinitions[index]?,
    ∃ current ∈ ConsumptionChunkPricer.activeDimension definition .energy,
      current.tariff = dimension.tariff
  exactly : model.PricesExactly
  absorbed : model.absorbedConsumption = wholeSteps reached dimension.stepSize
  energy : model.pricedEnergy = wholeSteps reached dimension.stepSize
  amount : model.energyAmount = dimension.price * wholeSteps reached dimension.stepSize / 1000

namespace ConsumptionChunkPricer

variable {chunk : ConsumptionChunk} {zoneTime : String → Timestamp → LocalTime}
variable {model model' : ResolvedPricingModel} {index : ℕ} {dimension : PricingDimension}

open ResolvedPricingModel (pricedEnergy_set)

/-- **A chunk keeps to whole steps.** -/
theorem pricesWholeSteps_priceConsumptionChunk {pricedData : PricedConsumptionData} {reached : ℚ}
    (h : priceConsumptionChunk zoneTime model chunk = .ok (pricedData, model'))
    (actual : actualPricingDefinition zoneTime model chunk = some index)
    (pos : 0 < dimension.stepSize) (ahead : reached ≤ chunk.cumulatedConsumptionWh)
    (steps : model.PricesWholeSteps index dimension reached) :
    model'.PricesWholeSteps index dimension chunk.cumulatedConsumptionWh := by
  have exactly' : model'.PricesExactly := pricesExactly_priceConsumptionChunk h steps.exactly
  obtain ⟨index', definition, actual', rfl, -⟩ := priceConsumptionChunk_ok h
  obtain rfl : index = index' := by
    obtain ⟨i, found, same⟩ := Option.bind_eq_some_iff.mp actual'
    obtain ⟨_, -, pair⟩ := Option.map_eq_some_iff.mp same
    rw [actual] at found
    exact (Option.some.inj found).trans (Prod.mk.inj pair).1
  have present := getElem?_of_actualPricingDefinitions actual'
  obtain ⟨_, applying, current, active, tariff⟩ := steps.applies
  obtain rfl : definition = _ := Option.some.inj (present.symm.trans applying)
  obtain ⟨before, same, same'⟩ := priceDimensions_energy chunk ⟨definition, model.pricerContext⟩
  have stepSize : current.stepSize = dimension.stepSize := by
    show current.tariff.stepSize = dimension.tariff.stepSize
    rw [tariff]
  have price : current.price = dimension.price := by
    show current.tariff.price = dimension.tariff.price
    rw [tariff]
  have sameData : before.definition.pricedData .energy = definition.pricedData .energy := by
    rw [ResolvedPricingDefinition.pricedData, same.dimension]
    rfl
  have exactly : ∀ data ∈ before.definition.pricedData .energy, data.IsExact := by
    rw [sameData]
    exact steps.exactly definition (List.mem_of_getElem? present) .energy
  have absorbedBefore : before.absorbed = wholeSteps reached current.stepSize := by
    rw [PricerState.absorbed, same.absorbed, stepSize]
    exact steps.absorbed
  obtain ⟨absorbed, energy, amount⟩ := priceEnergyConsumption_wholeSteps
    (same.activeDimension_eq.trans active) (stepSize ▸ pos) steps.nonneg ahead absorbedBefore exactly
  rw [stepSize] at absorbed energy amount
  have tariffs := List.singleton_inj.mp
    (addsAmount_priceDimensions chunk ⟨definition, model.pricerContext⟩).tariffs
  refine ⟨steps.nonneg.trans ahead, ?_, exactly', ?_, ?_, ?_⟩
  · have active' := congrArg (fun definition => activeDimension definition .energy) tariffs
    rw [activeDimension_tariff, activeDimension_tariff, Option.mem_def.mp active,
      Option.map_some] at active'
    obtain ⟨current', found, tariff'⟩ := Option.map_eq_some_iff.mp active'
    refine ⟨_, ?_, current', found, tariff'.trans tariff⟩
    exact List.getElem?_set_self (List.getElem?_eq_some_iff.mp present).1
  · rw [ResolvedPricingModel.absorbedConsumption, same'.absorbed]
    exact absorbed
  · rw [pricedEnergy_set present _ model.pricerContext, same'.pricedEnergy_eq, energy,
      same.pricedEnergy_eq]
    have start := steps.energy
    show model.pricedEnergy + _ = _
    rw [start]
    ring
  · have sameData' : (priceDimensions chunk ⟨definition, model.pricerContext⟩).2.definition.pricedData
        .energy = (priceEnergyConsumption chunk before).2.definition.pricedData .energy := by
      rw [ResolvedPricingDefinition.pricedData, same'.dimension]
      rfl
    have start := steps.amount
    rw [ResolvedPricingModel.energyAmount] at start ⊢
    rw [sum_map_set present, start, sameData', amount, sameData, price]
    ring

end ConsumptionChunkPricer

/-! ## One consumption -/

namespace ConsumptionPricer

open ConsumptionChunkPricer (actualPricingDefinition exists_priceConsumptionChunk_of_actual
  actualPricingDefinition_congr pricesWholeSteps_priceConsumptionChunk
  pricesChunk_of_priceConsumptionChunk timezone_priceDimensions priceConsumptionChunk_ok)

/-- The cumulated energy after chunks. -/
def reachedBy (start : ℚ) (chunks : List ConsumptionChunk) : ℚ :=
  chunks.foldl (fun _ chunk => chunk.cumulatedConsumptionWh) start

variable {zoneTime : String → Timestamp → LocalTime} {index : ℕ} {dimension : PricingDimension}

/-- **The chunks of a consumption** are all priced, and keep to whole steps. -/
theorem pricesWholeSteps_foldlM {chunks : List ConsumptionChunk} {start total : ℚ}
    (delivers : Delivers start chunks total)
    {state : PricedConsumptionData × ResolvedPricingModel}
    (actual : ∀ chunk ∈ chunks, actualPricingDefinition zoneTime state.2 chunk = some index)
    (pos : 0 < dimension.stepSize) (steps : state.2.PricesWholeSteps index dimension start) :
    ∃ state', chunks.foldlM (priceNextChunk zoneTime) state = .ok state' ∧
      state'.2.PricesWholeSteps index dimension (reachedBy start chunks) := by
  induction delivers generalizing state with
  | done _ => exact ⟨state, rfl, steps⟩
  | next nonneg reached _ ih =>
      rw [List.forall_mem_cons] at actual
      obtain ⟨⟨pricedData, model⟩, hpriced⟩ := exists_priceConsumptionChunk_of_actual actual.1
      have steps' := pricesWholeSteps_priceConsumptionChunk hpriced actual.1 pos (by linarith) steps
      have tariffs := (pricesChunk_of_priceConsumptionChunk hpriced).amount.tariffs
      have timezone : model.pricerContext.timezone = state.2.pricerContext.timezone := by
        obtain ⟨_, definition, -, rfl, -⟩ := priceConsumptionChunk_ok hpriced
        exact timezone_priceDimensions _ _
      obtain ⟨state', h, steps''⟩ :=
        @ih (PricingHelper.accumulatePricedConsumption [state.1, pricedData], model)
          (fun chunk mem => (actualPricingDefinition_congr tariffs timezone chunk).trans
            (actual.2 chunk mem)) steps'
      refine ⟨state', ?_, steps''⟩
      rw [List.foldlM_cons, priceNextChunk, hpriced]
      exact h

/-- The loop of `generateChunk` goes up to the cumulated energy of the consumption. -/
theorem reachedBy_chunksFrom {consumptionData : PricerInput} {nbSeconds : ℤ} (pos : 0 < nbSeconds)
    (turns : ℕ) (state : ChunkState) (enough : nbSeconds - state.secondsAlreadyPriced ≤ turns)
    (share : state.IsShare consumptionData nbSeconds) :
    reachedBy state.chunkCumulatedConsumptionWh
      (chunksFrom consumptionData nbSeconds turns state) =
        consumptionData.cumulatedConsumptionWh := by
  induction turns generalizing state with
  | zero => exact share.all pos (by omega)
  | succ turns ih =>
      rw [chunksFrom]
      split
      · rename_i more
        exact ih _ (ChunkState.IsShare.enough_next more enough) share.next
      · exact share.all pos (by omega)

/-- **The last chunk of a consumption** stands at its cumulated energy. -/
theorem reachedBy_generateChunk (consumptionData : PricerInput) (start : ℚ) :
    reachedBy start (generateChunk consumptionData) = consumptionData.cumulatedConsumptionWh := by
  simp only [generateChunk]
  split
  · rfl
  · -- There is a first turn, and it does not depend on where the session was.
    obtain ⟨turns, hturns⟩ : ∃ turns, (Utils.diffSeconds consumptionData.endedAt
        consumptionData.startedAt).toNat = turns + 1 := Nat.exists_eq_succ_of_ne_zero (by omega)
    have pos : 0 < Utils.diffSeconds consumptionData.endedAt consumptionData.startedAt := by omega
    have share := ChunkState.IsShare.start consumptionData pos.le
      (consumptionData.totalDurationSecs -
        Utils.diffSeconds consumptionData.endedAt consumptionData.startedAt)
      (consumptionData.totalInactivitySecs - consumptionData.inactivitySecs)
    rw [hturns, chunksFrom, if_pos pos]
    refine reachedBy_chunksFrom pos turns _ ?_ share.next
    refine ChunkState.IsShare.enough_next pos ?_
    rw [← hturns]
    show _ - (0 : ℤ) ≤ _
    omega

end ConsumptionPricer

/-! ## Runs of a session -/

namespace PricedSession

open ConsumptionPricer (generateChunk delivers_generateChunk reachedBy_generateChunk
  pricesWholeSteps_foldlM)

variable (zoneTime : String → Timestamp → LocalTime)

/-- One definition applies to the whole consumption: it prices each chunk. -/
def Applies (index : ℕ) (session : PricedSession) (consumptionData : PricerInput) : Prop :=
  ∀ chunk ∈ generateChunk consumptionData,
    ConsumptionChunkPricer.actualPricingDefinition zoneTime session.model chunk = some index

variable {zoneTime} {session session' : PricedSession} {consumptionData : PricerInput}
variable {index : ℕ} {dimension : PricingDimension}

instance : Decidable (Applies zoneTime index session consumptionData) :=
  inferInstanceAs (Decidable (∀ chunk ∈ generateChunk consumptionData, _))

/-- **A consumption keeps to whole steps.** -/
theorem pricesWholeSteps_step (applies : Applies zoneTime index session consumptionData)
    (step : Step zoneTime session consumptionData session') (pos : 0 < dimension.stepSize)
    (steps : session.model.PricesWholeSteps index dimension session.cumulatedConsumptionWh) :
    session'.model.PricesWholeSteps index dimension session'.cumulatedConsumptionWh := by
  obtain ⟨nonneg, reached, rfl⟩ := step
  obtain ⟨⟨pricedData, model⟩, h, steps'⟩ := @pricesWholeSteps_foldlM zoneTime index dimension _ _ _
    (delivers_generateChunk nonneg reached) ({}, session.model) applies pos steps
  rw [reachedBy_generateChunk] at steps'
  have priced : session.price zoneTime consumptionData =
      ⟨model, consumptionData.cumulatedConsumptionWh⟩ := by
    rw [price, ConsumptionPricer.priceConsumption, h]
  rw [priced]
  exact steps'

/-- A fresh model has priced no step. -/
theorem pricesWholeSteps_start {model : ResolvedPricingModel} (fresh : model.Fresh)
    {definition : ResolvedPricingDefinition}
    (present : model.pricingDefinitions[index]? = some definition)
    (active : ConsumptionChunkPricer.activeDimension definition .energy = some dimension) :
    model.PricesWholeSteps index dimension 0 := by
  have none : wholeSteps 0 dimension.stepSize = 0 := by simp [wholeSteps]
  refine ⟨le_rfl, ⟨definition, present, dimension, active, rfl⟩, fresh.pricesExactly, ?_, ?_, ?_⟩
  · rw [none, ResolvedPricingModel.absorbedConsumption, fresh.notAbsorbed, Option.getD_none]
  · rw [none, fresh.pricedEnergy_eq_zero]
  · rw [none, fresh.energyAmount_eq_zero, mul_zero, zero_div]

end PricedSession

end EvServer
