import EvServer.Lib.Outcome
import EvServer.Pricing.ChunkPricer
import EvServer.Pricing.Helper

/-!
# Pricing a consumption (`ConsumptionPricer`, `BuiltInPricingIntegration`)

A consumption of more than a minute is cut into chunks of a minute, the last one
shorter, and its energy is spread evenly over them.  The chunks are priced in their
order, each with the model the one before left.
-/

namespace EvServer

namespace ConsumptionPricer

/-! ## Chunks -/

/-- What the loop of `generateChunk` carries from one chunk to the next. -/
structure ChunkState where
  secondsAlreadyPriced : ℤ
  chunkCumulatedConsumptionWh : ℚ
  chunkTotalDurationSecs : ℚ
  chunkTotalInactivitySecs : ℚ

/-- One turn of the loop of `generateChunk`. -/
def nextChunk (consumptionData : PricerInput) (nbSeconds : ℤ) (state : ChunkState) :
    ConsumptionChunk × ChunkState :=
  let secondsToPrice := min (nbSeconds - state.secondsAlreadyPriced) 60
  -- Specific situation for the extra inactivity
  let inactivityToPrice : ℤ :=
    if consumptionData.consumptionWh = 0 ∧ consumptionData.inactivitySecs = nbSeconds then
      secondsToPrice
    else 0
  let chunkConsumptionWh := consumptionData.consumptionWh * secondsToPrice / nbSeconds
  let next : ChunkState :=
    { secondsAlreadyPriced := state.secondsAlreadyPriced + secondsToPrice
      chunkCumulatedConsumptionWh := state.chunkCumulatedConsumptionWh + chunkConsumptionWh
      chunkTotalDurationSecs := state.chunkTotalDurationSecs + secondsToPrice
      chunkTotalInactivitySecs := state.chunkTotalInactivitySecs + inactivityToPrice }
  ({ startedAt := consumptionData.startedAt + 1000 * state.secondsAlreadyPriced
     endedAt := consumptionData.startedAt + 1000 * next.secondsAlreadyPriced
     consumptionWh := chunkConsumptionWh
     cumulatedConsumptionWh := next.chunkCumulatedConsumptionWh
     totalDurationSecs := next.chunkTotalDurationSecs
     totalInactivitySecs := next.chunkTotalInactivitySecs }, next)

/-- The loop of `generateChunk`.  A chunk takes at least a second, so as many turns as
there are seconds are enough. -/
def chunksFrom (consumptionData : PricerInput) (nbSeconds : ℤ) :
    ℕ → ChunkState → List ConsumptionChunk
  | 0, _ => []
  | turns + 1, state =>
      if state.secondsAlreadyPriced < nbSeconds then
        let (chunk, next) := nextChunk consumptionData nbSeconds state
        chunk :: chunksFrom consumptionData nbSeconds turns next
      else []

/-- `ConsumptionPricer.generateChunk`. -/
def generateChunk (consumptionData : PricerInput) : List ConsumptionChunk :=
  let nbSeconds := Utils.diffSeconds consumptionData.endedAt consumptionData.startedAt
  if nbSeconds ≤ 60 then [consumptionData.toConsumptionChunk]
  else
    chunksFrom consumptionData nbSeconds nbSeconds.toNat
      { secondsAlreadyPriced := 0
        chunkCumulatedConsumptionWh :=
          consumptionData.cumulatedConsumptionWh - consumptionData.consumptionWh
        chunkTotalDurationSecs := consumptionData.totalDurationSecs - nbSeconds
        chunkTotalInactivitySecs :=
          consumptionData.totalInactivitySecs - consumptionData.inactivitySecs }

/-- Before a turn of the loop: the chunks made so far have their share of the energy of the
consumption. -/
structure ChunkState.IsShare (state : ChunkState) (consumptionData : PricerInput)
    (nbSeconds : ℤ) : Prop where
  started : 0 ≤ state.secondsAlreadyPriced
  within : state.secondsAlreadyPriced ≤ nbSeconds
  energy : state.chunkCumulatedConsumptionWh =
    consumptionData.cumulatedConsumptionWh - consumptionData.consumptionWh +
      consumptionData.consumptionWh * state.secondsAlreadyPriced / nbSeconds

namespace ChunkState.IsShare

variable {consumptionData : PricerInput} {nbSeconds : ℤ} {state : ChunkState}

/-- Before the first turn. -/
theorem start (consumptionData : PricerInput) (le : 0 ≤ nbSeconds) (duration inactivity : ℚ) :
    IsShare ⟨0, consumptionData.cumulatedConsumptionWh - consumptionData.consumptionWh, duration,
      inactivity⟩ consumptionData nbSeconds :=
  ⟨le_rfl, le, by simp⟩

/-- One turn of the loop. -/
theorem next (share : state.IsShare consumptionData nbSeconds) :
    (nextChunk consumptionData nbSeconds state).2.IsShare consumptionData nbSeconds := by
  obtain ⟨started, within, energy⟩ := share
  refine ⟨?_, ?_, ?_⟩
  · show 0 ≤ state.secondsAlreadyPriced + min (nbSeconds - state.secondsAlreadyPriced) 60
    omega
  · show state.secondsAlreadyPriced + min (nbSeconds - state.secondsAlreadyPriced) 60 ≤ _
    omega
  · show state.chunkCumulatedConsumptionWh + consumptionData.consumptionWh *
      ((min (nbSeconds - state.secondsAlreadyPriced) 60 : ℤ) : ℚ) / nbSeconds = _
    rw [energy]
    show _ = _ + consumptionData.consumptionWh *
      ((state.secondsAlreadyPriced + min (nbSeconds - state.secondsAlreadyPriced) 60 : ℤ) :
        ℚ) / nbSeconds
    rw [Int.cast_add]
    ring

/-- A turn takes at least a second. -/
theorem enough_next {turns : ℕ} (_ : state.secondsAlreadyPriced < nbSeconds)
    (enough : nbSeconds - state.secondsAlreadyPriced ≤ (turns + 1 : ℕ)) :
    nbSeconds - (nextChunk consumptionData nbSeconds state).2.secondsAlreadyPriced ≤ turns := by
  show nbSeconds -
    (state.secondsAlreadyPriced + min (nbSeconds - state.secondsAlreadyPriced) 60) ≤ _
  push_cast at enough
  omega

/-- When no second is left, all the energy has been given out. -/
theorem all (share : state.IsShare consumptionData nbSeconds) (pos : 0 < nbSeconds)
    (last : nbSeconds ≤ state.secondsAlreadyPriced) :
    state.chunkCumulatedConsumptionWh = consumptionData.cumulatedConsumptionWh := by
  have pos' : (nbSeconds : ℚ) ≠ 0 := by exact_mod_cast pos.ne'
  have energy := share.energy
  rw [le_antisymm share.within last, mul_div_cancel_right₀ _ pos'] at energy
  linarith

end ChunkState.IsShare

/-- Chunks that take the cumulated energy of a session from one figure up to another,
each by at least the energy it says it delivered. -/
inductive Delivers : ℚ → List ConsumptionChunk → ℚ → Prop
  | done {start total : ℚ} : start ≤ total → Delivers start [] total
  | next {start total : ℚ} {chunk : ConsumptionChunk} {rest : List ConsumptionChunk} :
      0 ≤ chunk.consumptionWh →
      start + chunk.consumptionWh ≤ chunk.cumulatedConsumptionWh →
      Delivers chunk.cumulatedConsumptionWh rest total → Delivers start (chunk :: rest) total

/-- The chunks of the loop deliver what is left of the consumption, however many turns
have been made. -/
theorem delivers_chunksFrom {consumptionData : PricerInput} {nbSeconds : ℤ} (pos : 0 < nbSeconds)
    (nonneg : 0 ≤ consumptionData.consumptionWh) (turns : ℕ) (state : ChunkState) {start : ℚ}
    (reached : start ≤ state.chunkCumulatedConsumptionWh)
    (enough : nbSeconds - state.secondsAlreadyPriced ≤ turns)
    (share : state.IsShare consumptionData nbSeconds) :
    Delivers start (chunksFrom consumptionData nbSeconds turns state)
      consumptionData.cumulatedConsumptionWh := by
  induction turns generalizing state start with
  | zero => exact .done (reached.trans_eq (share.all pos (by omega)))
  | succ turns ih =>
      rw [chunksFrom]
      split
      · rename_i more
        have seconds : (0 : ℚ) < (min (nbSeconds - state.secondsAlreadyPriced) 60 : ℤ) := by
          exact_mod_cast (by omega : 0 < min (nbSeconds - state.secondsAlreadyPriced) 60)
        have pos' : (0 : ℚ) < nbSeconds := by exact_mod_cast pos
        refine .next ?_ ?_ (ih _ le_rfl (ChunkState.IsShare.enough_next more enough) share.next)
        · show 0 ≤ consumptionData.consumptionWh *
            ((min (nbSeconds - state.secondsAlreadyPriced) 60 : ℤ) : ℚ) / nbSeconds
          positivity
        · exact add_le_add_left reached _
      · exact .done (reached.trans_eq (share.all pos (by omega)))

/-- **The chunks of a consumption deliver its energy**, and the last one stands at its
cumulated energy. -/
theorem delivers_generateChunk {consumptionData : PricerInput}
    (nonneg : 0 ≤ consumptionData.consumptionWh) {start : ℚ}
    (reached : start + consumptionData.consumptionWh ≤ consumptionData.cumulatedConsumptionWh) :
    Delivers start (generateChunk consumptionData) consumptionData.cumulatedConsumptionWh := by
  simp only [generateChunk]
  split
  · exact .next nonneg reached (.done le_rfl)
  · apply delivers_chunksFrom (by omega) nonneg
    · show start ≤ consumptionData.cumulatedConsumptionWh - consumptionData.consumptionWh
      linarith
    · show _ - (0 : ℤ) ≤ _
      omega
    · exact .start _ (by omega) _ _

/-! ## Pricing -/

variable (zoneTime : String → Timestamp → LocalTime)

/-- Price one more chunk. -/
def priceNextChunk (state : PricedConsumptionData × ResolvedPricingModel)
    (chunk : ConsumptionChunk) :
    Except String (PricedConsumptionData × ResolvedPricingModel) := do
  let (pricedData, model) ← ConsumptionChunkPricer.priceConsumptionChunk zoneTime state.2 chunk
  return (PricingHelper.accumulatePricedConsumption [state.1, pricedData], model)

/-- `ConsumptionPricer.priceConsumption`: the priced data and the model after it. -/
def priceConsumption (model : ResolvedPricingModel) (consumptionData : PricerInput) :
    Except String (PricedConsumptionData × ResolvedPricingModel) :=
  (generateChunk consumptionData).foldlM (priceNextChunk zoneTime) ({}, model)

end ConsumptionPricer

namespace BuiltInPricingIntegration

/-- `computeCumulatedAmount`. -/
def computeCumulatedAmount (model : ResolvedPricingModel) : PricingHelper.CumulatedAmounts :=
  PricingHelper.accumulatePricingDimensions
    (model.pricingDefinitions.map ResolvedPricingDefinition.dimensions)

/-- The sum of a figure over the dimensions. -/
def sumDimensions (figure : PricedDimensionData → ℚ) (data : PricedConsumptionData) : ℚ :=
  (data.flatFee.map figure).getD 0 + (data.energy.map figure).getD 0 +
    (data.chargingTime.map figure).getD 0 + (data.parkingTime.map figure).getD 0

/-- `BuiltInPricingIntegration.computePrice` with the model resolved at the start of
the session. -/
def computePrice (zoneTime : String → Timestamp → LocalTime) (currency : String)
    (pricingModel : ResolvedPricingModel) (consumptionData : PricerInput) :
    Except String PricedConsumption := do
  let (pricingConsumptionData, pricingModel) ←
    ConsumptionPricer.priceConsumption zoneTime pricingModel consumptionData
  let cumulated := computeCumulatedAmount pricingModel
  return {
    pricingSource := .simple
    pricingModel := some pricingModel
    amount := sumDimensions PricedDimensionData.amount pricingConsumptionData
    roundedAmount := sumDimensions PricedDimensionData.roundedAmount pricingConsumptionData
    currencyCode := currency
    cumulatedAmount := cumulated.cumulatedAmount
    cumulatedRoundedAmount := cumulated.cumulatedRoundedAmount }

end BuiltInPricingIntegration

end EvServer
