import EvServer.Pricing.PricedAmounts

/-!
# The accumulated price of a session

The price of a session is accumulated in the model, in the priced data of every definition and
dimension; each consumption is also returned its own amount.  Both come from the same chunks:
what is returned for a chunk is what is added to the definition that prices it.

`accumulated_of_run` says that the two agree at every point of a session, that the accumulated
price does not go down, and that the flat fee is priced once, after energy has been delivered.
-/

namespace EvServer

/-! ## The flat fee -/

namespace ConsumptionChunkPricer

variable {chunk : ConsumptionChunk} {state : PricerState}

/-- What becomes of the flat fee in a chunk: nothing, or it is priced for the first time, after
some energy. -/
inductive FeeOutcome (chunk : ConsumptionChunk) (state state' : PricerState) : Prop
  | kept : state'.context.flatFeeAlreadyPriced = state.context.flatFeeAlreadyPriced →
      state'.definition.pricedQuantity .flatFee = state.definition.pricedQuantity .flatFee →
      FeeOutcome chunk state state'
  | priced : state.context.flatFeeAlreadyPriced = false → 0 < chunk.cumulatedConsumptionWh →
      state'.context.flatFeeAlreadyPriced = true →
      (state'.definition.pricedQuantity .flatFee = state.definition.pricedQuantity .flatFee ∨
        state'.definition.pricedQuantity .flatFee =
          state.definition.pricedQuantity .flatFee + 1) →
      FeeOutcome chunk state state'

theorem feeOutcome_priceFlatFeeConsumption (chunk : ConsumptionChunk) (state : PricerState) :
    FeeOutcome chunk state (priceFlatFeeConsumption chunk state).2 := by
  unfold priceFlatFeeConsumption
  split
  · exact .kept rfl rfl
  · rename_i dimensionToPrice active
    split
    · rename_i fires
      have first : state.context.flatFeeAlreadyPriced = false :=
        Bool.not_eq_true _ ▸ fires.1
      dsimp only
      split
      · exact .priced first fires.2 rfl (.inl rfl)
      · rename_i notPriced
        have unpriced : dimensionToPrice.pricedData = none :=
          Option.not_isSome_iff_eq_none.mp notPriced
        refine .priced first fires.2 rfl (.inr ((pricedQuantity_add active _).trans ?_))
        rw [priceFlatFeeDimension, unpriced]
    · exact .kept rfl rfl

theorem flatFeeAlreadyPriced_priceEnergyConsumption (chunk : ConsumptionChunk)
    (state : PricerState) :
    (priceEnergyConsumption chunk state).2.context.flatFeeAlreadyPriced =
      state.context.flatFeeAlreadyPriced := by
  unfold priceEnergyConsumption
  split
  · rfl
  · dsimp only
    split <;> split <;> rfl

theorem flatFeeAlreadyPriced_priceTimeConsumption {d : DimensionType} {applies : Bool}
    {lastStepDate : Timestamp} {absorb : PricerState → PricerState}
    (keeps : ∀ state, (absorb state).context.flatFeeAlreadyPriced =
      state.context.flatFeeAlreadyPriced) (chunk : ConsumptionChunk) (state : PricerState) :
    (priceTimeConsumption chunk d applies lastStepDate absorb state).2.context.flatFeeAlreadyPriced =
      state.context.flatFeeAlreadyPriced := by
  unfold priceTimeConsumption
  split
  · exact keeps state
  · split
    · rfl
    · exact keeps _

/-- Only the first of the dimensions prices a flat fee. -/
theorem feeOutcome_priceDimensions (chunk : ConsumptionChunk) (state : PricerState) :
    FeeOutcome chunk state (priceDimensions chunk state).2 := by
  let fee := (priceFlatFeeConsumption chunk state).2
  let energy := (priceEnergyConsumption chunk fee).2
  let charging := (priceChargingTimeConsumption chunk energy).2
  have later : SameTime .flatFee fee (priceDimensions chunk state).2 := by
    have third : SameTime .flatFee energy charging := by
      apply sameTime_priceTimeConsumption (by decide)
      exact fun _ => ⟨rfl, rfl, rfl⟩
    have fourth : SameTime .flatFee charging (priceParkingTimeConsumption chunk charging).2 := by
      apply sameTime_priceTimeConsumption (by decide)
      exact fun _ => ⟨rfl, rfl, rfl⟩
    exact ((sameTime_priceEnergyConsumption (by decide) chunk fee).trans third).trans fourth
  have parking : (priceParkingTimeConsumption chunk charging).2.context.flatFeeAlreadyPriced =
      charging.context.flatFeeAlreadyPriced := by
    apply flatFeeAlreadyPriced_priceTimeConsumption
    exact fun _ => rfl
  have notParking : charging.context.flatFeeAlreadyPriced = energy.context.flatFeeAlreadyPriced := by
    apply flatFeeAlreadyPriced_priceTimeConsumption
    exact fun _ => rfl
  have already : (priceDimensions chunk state).2.context.flatFeeAlreadyPriced =
      fee.context.flatFeeAlreadyPriced :=
    (parking.trans notParking).trans (flatFeeAlreadyPriced_priceEnergyConsumption chunk fee)
  cases feeOutcome_priceFlatFeeConsumption chunk state with
  | kept same quantity => exact .kept (already.trans same) (later.pricedQuantity_eq.trans quantity)
  | priced first delivered now quantity =>
      refine .priced first delivered (already.trans now) ?_
      rw [later.pricedQuantity_eq]
      exact quantity

end ConsumptionChunkPricer

namespace ResolvedPricingModel

open ConsumptionChunkPricer

/-- The flat fee has been priced at most once, and not before `delivered`. -/
def FeeOnce (model : ResolvedPricingModel) (delivered : Prop) : Prop :=
  model.pricedQuantity .flatFee = 0 ∨
    model.pricedQuantity .flatFee = 1 ∧ model.pricerContext.flatFeeAlreadyPriced = true ∧ delivered

variable {zoneTime : String → Timestamp → LocalTime} {model model' : ResolvedPricingModel}
variable {chunk : ConsumptionChunk} {delivered delivered' : Prop}

theorem FeeOnce.mono (once : model.FeeOnce delivered) (sub : delivered → delivered') :
    model.FeeOnce delivered' :=
  once.imp_right fun ⟨quantity, already, before⟩ => ⟨quantity, already, sub before⟩

/-- **A chunk** prices the flat fee for the first time, or not at all. -/
theorem FeeOnce.priceConsumptionChunk {pricedData : PricedConsumptionData}
    (once : model.FeeOnce delivered)
    (h : ConsumptionChunkPricer.priceConsumptionChunk zoneTime model chunk =
      .ok (pricedData, model'))
    (counts : 0 < chunk.cumulatedConsumptionWh → delivered) : model'.FeeOnce delivered := by
  obtain ⟨index, definition, actual, rfl, -⟩ := priceConsumptionChunk_ok h
  unfold FeeOnce
  rw [pricedQuantity_set (getElem?_of_actualPricingDefinitions actual) _ model.pricerContext]
  change model.pricedQuantity .flatFee = 0 ∨ _ at once
  cases feeOutcome_priceDimensions chunk ⟨definition, model.pricerContext⟩ with
  | kept same quantity =>
      rw [quantity, sub_self, add_zero]
      refine once.imp_right fun ⟨one, already, before⟩ => ⟨one, ?_, before⟩
      exact same.trans already
  | priced first energy now quantity =>
      have unpriced : model.pricedQuantity .flatFee = 0 := by
        refine once.resolve_right fun ⟨_, already, _⟩ => ?_
        exact Bool.false_ne_true (first.symm.trans already)
      change pricedQuantity ⟨model.pricingDefinitions, model.pricerContext⟩ .flatFee = 0 at unpriced
      rw [unpriced, zero_add]
      rcases quantity with quantity | quantity
      · rw [quantity, sub_self]
        exact .inl rfl
      · rw [quantity, add_sub_cancel_left]
        exact .inr ⟨rfl, now, counts energy⟩

end ResolvedPricingModel

namespace PricerInput

/-- The session has had energy, before the consumption or with it. -/
def Delivered (consumptionData : PricerInput) : Prop :=
  0 < consumptionData.cumulatedConsumptionWh - consumptionData.consumptionWh ∨
    0 < consumptionData.cumulatedConsumptionWh

end PricerInput

namespace ConsumptionPricer

open ConsumptionChunkPricer (priceConsumptionChunk)

variable {zoneTime : String → Timestamp → LocalTime} {consumptionData : PricerInput}

/-- A chunk with a share of the energy has no more than the consumption starts or ends with. -/
theorem ChunkState.IsShare.delivered {nbSeconds : ℤ} {state : ChunkState} (pos : 0 < nbSeconds)
    (share : state.IsShare consumptionData nbSeconds)
    (energy : 0 < state.chunkCumulatedConsumptionWh) : consumptionData.Delivered := by
  obtain ⟨started, within, hshare⟩ := share
  rw [hshare, mul_div_assoc] at energy
  by_contra nothing
  obtain ⟨before, after⟩ := not_or.mp nothing
  -- The share of the energy lies between none of it and all of it.
  set share : ℚ := (state.secondsAlreadyPriced : ℚ) / nbSeconds
  have pos' : (0 : ℚ) < nbSeconds := by exact_mod_cast pos
  have nonneg : 0 ≤ share := div_nonneg (by exact_mod_cast started) pos'.le
  have leOne : share ≤ 1 := (div_le_one pos').mpr (by exact_mod_cast within)
  have between := add_nonpos
    (mul_nonpos_of_nonneg_of_nonpos (sub_nonneg.mpr leOne) (not_lt.mp before))
    (mul_nonpos_of_nonneg_of_nonpos nonneg (not_lt.mp after))
  linarith

theorem delivered_of_mem_chunksFrom {nbSeconds : ℤ} (pos : 0 < nbSeconds) (turns : ℕ)
    (state : ChunkState) (share : state.IsShare consumptionData nbSeconds) :
    ∀ chunk ∈ chunksFrom consumptionData nbSeconds turns state,
      0 < chunk.cumulatedConsumptionWh → consumptionData.Delivered := by
  induction turns generalizing state with
  | zero =>
      intro chunk mem
      cases mem
  | succ turns ih =>
      rw [chunksFrom]
      split
      · exact List.forall_mem_cons.mpr ⟨share.next.delivered pos, ih _ share.next⟩
      · intro chunk mem
        cases mem

theorem delivered_of_mem_generateChunk {chunk : ConsumptionChunk}
    (mem : chunk ∈ generateChunk consumptionData) (energy : 0 < chunk.cumulatedConsumptionWh) :
    consumptionData.Delivered := by
  simp only [generateChunk] at mem
  split at mem
  · obtain rfl := List.mem_singleton.mp mem
    exact .inr energy
  · exact delivered_of_mem_chunksFrom (by omega) _ _ (.start _ (by omega) _ _) chunk mem energy

/-- **A consumption** prices the flat fee for the first time, or not at all. -/
theorem feeOnce_priceConsumption {model : ResolvedPricingModel}
    {priced : PricedConsumptionData × ResolvedPricingModel} {delivered : Prop}
    (h : priceConsumption zoneTime model consumptionData = .ok priced)
    (once : model.FeeOnce delivered) :
    priced.2.FeeOnce (delivered ∨ consumptionData.Delivered) := by
  have chunks : ∀ chunks : List ConsumptionChunk,
      (∀ chunk ∈ chunks, 0 < chunk.cumulatedConsumptionWh → consumptionData.Delivered) →
      ∀ state, state.2.FeeOnce (delivered ∨ consumptionData.Delivered) →
        chunks.foldlM (priceNextChunk zoneTime) state = .ok priced →
        priced.2.FeeOnce (delivered ∨ consumptionData.Delivered) := by
    intro chunks
    induction chunks with
    | nil =>
        intro _ state once h
        cases h
        exact once
    | cons chunk rest ih =>
        intro counts state once h
        rw [List.forall_mem_cons] at counts
        obtain ⟨between, hchunk, h⟩ := Outcome.foldlM_cons_eq_ok.mp h
        obtain ⟨⟨pricedData, model⟩, hpriced, hbetween⟩ := Outcome.bind_eq_ok.mp hchunk
        obtain rfl := Outcome.pure_eq_ok_iff.mp hbetween
        refine ih counts.2 _ ?_ h
        exact once.priceConsumptionChunk hpriced fun energy => .inr (counts.1 energy)
  exact chunks _ (fun _ => delivered_of_mem_generateChunk) _ (once.mono .inl) h

end ConsumptionPricer

/-! ## A chunk is priced -/

namespace ConsumptionPricer

open ConsumptionChunkPricer (priceConsumptionChunk)

/-- One of the definitions has no restrictions. -/
def Unrestricted (definitions : List ResolvedPricingDefinition) : Prop :=
  ∃ definition ∈ definitions, definition.restrictions = none

theorem unrestricted_of_tariffs {definitions definitions' : List ResolvedPricingDefinition}
    (tariffs : definitions'.map ResolvedPricingDefinition.tariff =
      definitions.map ResolvedPricingDefinition.tariff) :
    Unrestricted definitions' ↔ Unrestricted definitions := by
  have restricted := ResolvedPricingDefinition.forall_iff_of_tariffs
    (P := fun definition => definition.restrictions ≠ none) tariffs fun _ => Iff.rfl
  have all (definitions : List ResolvedPricingDefinition) :
      Unrestricted definitions ↔ ¬ ∀ definition ∈ definitions, definition.restrictions ≠ none := by
    simp [Unrestricted]
  rw [all, all, restricted]

variable (zoneTime : String → Timestamp → LocalTime)

/-- A definition without restrictions matches every chunk. -/
theorem exists_priceConsumptionChunk {model : ResolvedPricingModel}
    (always : Unrestricted model.pricingDefinitions) (chunk : ConsumptionChunk) :
    ∃ priced, priceConsumptionChunk zoneTime model chunk = .ok priced := by
  obtain ⟨fallback, mem, unrestricted⟩ := always
  let meets := ConsumptionChunkPricer.checkPricingDefinitionRestrictions zoneTime
    model.pricerContext chunk
  have found : (model.pricingDefinitions.findIdx? meets).isSome := by
    rw [List.findIdx?_isSome, List.any_eq_true]
    refine ⟨fallback, mem, ?_⟩
    show ConsumptionChunkPricer.checkPricingDefinitionRestrictions _ _ _ _ = true
    rw [ConsumptionChunkPricer.checkPricingDefinitionRestrictions, unrestricted]
  obtain ⟨index, hindex⟩ := Option.isSome_iff_exists.mp found
  exact ConsumptionChunkPricer.exists_priceConsumptionChunk_of_actual hindex

/-- A model with such a definition prices every consumption. -/
theorem exists_priceConsumption {model : ResolvedPricingModel}
    (always : Unrestricted model.pricingDefinitions) (consumptionData : PricerInput) :
    ∃ priced, priceConsumption zoneTime model consumptionData = .ok priced := by
  have chunks : ∀ (chunks : List ConsumptionChunk)
      (state : PricedConsumptionData × ResolvedPricingModel),
      Unrestricted state.2.pricingDefinitions →
        ∃ priced, chunks.foldlM (priceNextChunk zoneTime) state = .ok priced := by
    intro chunks
    induction chunks with
    | nil => exact fun state _ => ⟨state, rfl⟩
    | cons chunk rest ih =>
        intro state always
        obtain ⟨⟨pricedData, model⟩, hpriced⟩ := exists_priceConsumptionChunk zoneTime always chunk
        have prices := ConsumptionChunkPricer.pricesChunk_of_priceConsumptionChunk hpriced
        have always' := (unrestricted_of_tariffs prices.amount.tariffs).mpr always
        obtain ⟨priced, h⟩ :=
          ih (PricingHelper.accumulatePricedConsumption [state.1, pricedData], model) always'
        refine ⟨priced, ?_⟩
        rw [List.foldlM_cons, priceNextChunk, hpriced]
        exact h
  exact chunks _ _ always

end ConsumptionPricer

/-! ## The price of a model -/

namespace ResolvedPricingModel

/-- No price of the model is negative. -/
def NonnegPrices (model : ResolvedPricingModel) : Prop :=
  ∀ definition ∈ model.pricingDefinitions, definition.NonnegPrices

/-- No step size of the model is negative. -/
def NonnegSteps (model : ResolvedPricingModel) : Prop :=
  ∀ definition ∈ model.pricingDefinitions, definition.NonnegSteps

end ResolvedPricingModel

namespace BuiltInPricingIntegration

/-- The accumulated price is what the definitions have priced in all dimensions. -/
theorem cumulatedAmount_computeCumulatedAmount (model : ResolvedPricingModel) :
    (computeCumulatedAmount model).cumulatedAmount =
      (model.pricingDefinitions.map ResolvedPricingDefinition.pricedAmount).sum := by
  have split : (fun definition : ResolvedPricingDefinition => definition.pricedAmount) =
      fun definition => amountOf (definition.pricedData .flatFee) +
        amountOf (definition.pricedData .energy) + amountOf (definition.pricedData .chargingTime) +
          amountOf (definition.pricedData .parkingTime) := by
    funext definition
    simp only [ResolvedPricingDefinition.pricedAmount, DimensionType.all, List.map_cons,
      List.map_nil, List.sum_cons, List.sum_nil]
    ring
  show (computeCumulatedAmount model).cumulatedAmount =
    (model.pricingDefinitions.map fun definition => definition.pricedAmount).sum
  rw [split, List.sum_map_add, List.sum_map_add, List.sum_map_add, computeCumulatedAmount]
  simp only [PricingHelper.accumulatePricingDimensions,
    PricingHelper.accumulatePricingDimension_eq, zero_add]
  rfl

end BuiltInPricingIntegration

/-! ## Runs of a session -/

/-- The pricing of a session: its model, the amounts returned for the consumptions, and how far
the session is. -/
structure PricingAccount where
  model : ResolvedPricingModel
  amounts : List ℚ := []
  cumulatedConsumptionWh : ℚ := 0
  endedAt : Timestamp
  deriving DecidableEq, Repr

namespace PricingAccount

variable (zoneTime : String → Timestamp → LocalTime) (currency : String)

open BuiltInPricingIntegration (computePrice computeCumulatedAmount
  cumulatedAmount_computeCumulatedAmount)
open ResolvedPricingDefinition (forall_iff_of_tariffs nonnegPrices_tariff nonnegSteps_tariff)

/-- The start of a session. -/
def start (model : ResolvedPricingModel) : PricingAccount :=
  { model := model, endedAt := model.pricerContext.sessionStartDate }

/-- The accumulated price. -/
def price (account : PricingAccount) : ℚ := (computeCumulatedAmount account.model).cumulatedAmount

/-- The session after a consumption that has been priced. -/
def record (account : PricingAccount) (consumptionData : PricerInput)
    (priced : PricedConsumption) : PricingAccount :=
  { model := priced.pricingModel.getD account.model
    amounts := account.amounts ++ [priced.amount]
    cumulatedConsumptionWh := consumptionData.cumulatedConsumptionWh
    endedAt := consumptionData.endedAt }

/-- The step relation of a session: a consumption is priced. -/
def Step (account : PricingAccount) (consumptionData : PricerInput) (account' : PricingAccount) :
    Prop :=
  ∃ priced, computePrice zoneTime currency account.model consumptionData = .ok priced ∧
    account' = account.record consumptionData priced

/-- The consumption goes on where the session is. -/
def GoesOn (account : PricingAccount) (consumptionData : PricerInput) : Prop :=
  ConsumptionPricer.GoesOn consumptionData account.cumulatedConsumptionWh account.endedAt

variable {zoneTime currency} {account account' : PricingAccount} {consumptionData : PricerInput}
variable {model : ResolvedPricingModel} {consumptions : List PricerInput}

/-- A step prices the consumption with the model of the session. -/
theorem priced_of_step (step : Step zoneTime currency account consumptionData account') :
    ∃ priced, ConsumptionPricer.priceConsumption zoneTime account.model consumptionData =
        .ok priced ∧
      account' =
        { model := priced.2
          amounts := account.amounts ++
            [BuiltInPricingIntegration.sumDimensions PricedDimensionData.amount priced.1]
          cumulatedConsumptionWh := consumptionData.cumulatedConsumptionWh
          endedAt := consumptionData.endedAt } := by
  obtain ⟨pricedConsumption, hprice, rfl⟩ := step
  obtain ⟨priced, hpriced, hprice⟩ := Outcome.bind_eq_ok.mp hprice
  obtain rfl := Outcome.pure_eq_ok_iff.mp hprice
  exact ⟨priced, hpriced, rfl⟩

/-- The invariant of a session: the tariffs are those of the start, the amounts are exact, and
those returned are those accumulated. -/
structure Balanced (model : ResolvedPricingModel) (account : PricingAccount) : Prop where
  tariffs : account.model.pricingDefinitions.map ResolvedPricingDefinition.tariff =
    model.pricingDefinitions.map ResolvedPricingDefinition.tariff
  exactly : account.model.PricesExactly
  balance : account.price = account.amounts.sum

/-- **A step keeps the balance**, and what it adds is not negative when the prices are not, and
the steps are not or the consumption is ahead of what has been absorbed. -/
theorem Balanced.step {ahead : Prop} (balanced : Balanced model account)
    (step : Step zoneTime currency account consumptionData account')
    (forward : ahead → account.model.pricerContext.AbsorbedUpTo account.cumulatedConsumptionWh
      account.endedAt ∧ GoesOn account consumptionData) :
    Balanced model account' ∧
      (model.NonnegPrices → model.NonnegSteps ∨ ahead → account.price ≤ account'.price) ∧
      (ahead → account'.model.pricerContext.AbsorbedUpTo account'.cumulatedConsumptionWh
        account'.endedAt) := by
  obtain ⟨priced, hpriced, rfl⟩ := priced_of_step step
  obtain ⟨adds, absorbed⟩ := ConsumptionPricer.addsAmount_priceConsumption hpriced forward
  have added := adds.added balanced.exactly
  rw [← cumulatedAmount_computeCumulatedAmount, ← cumulatedAmount_computeCumulatedAmount] at added
  refine ⟨⟨adds.tariffs.trans balanced.tariffs, adds.exactly balanced.exactly, ?_⟩, ?_, absorbed⟩
  · rw [price, added, List.sum_append, List.sum_singleton]
    exact congrArg (· + _) balanced.balance
  · intro prices steps
    have prices' := (forall_iff_of_tariffs balanced.tariffs fun _ => nonnegPrices_tariff).mpr prices
    have steps' := steps.imp_left
      (forall_iff_of_tariffs balanced.tariffs fun _ => nonnegSteps_tariff).mpr
    rw [price, price, added]
    exact le_add_of_nonneg_right (adds.nonneg prices' steps')

/-- At the start of a session nothing has been priced. -/
theorem balanced_start {start : Timestamp} (starts : model.StartsAt start) :
    Balanced model (.start model) := by
  refine ⟨rfl, starts.pricesExactly, ?_⟩
  rw [price, cumulatedAmount_computeCumulatedAmount]
  refine List.sum_eq_zero fun amount mem => ?_
  obtain ⟨definition, hdefinition, rfl⟩ := List.mem_map.mp mem
  have nothing := starts.notPriced definition hdefinition
  simp [ResolvedPricingDefinition.pricedAmount, DimensionType.all, nothing, amountOf]

theorem absorbedUpTo_start {start : Timestamp} (starts : model.StartsAt start) :
    (PricingAccount.start model).model.pricerContext.AbsorbedUpTo
      (PricingAccount.start model).cumulatedConsumptionWh (PricingAccount.start model).endedAt := by
  refine ⟨?_, fun d _ => ?_⟩
  · show Option.getD model.pricerContext.lastAbsorbedConsumption 0 ≤ 0
    rw [starts.notAbsorbed]
    rfl
  · show model.pricerContext.lastStepDate d ≤ model.pricerContext.sessionStartDate
    rw [starts.lastStepDate_eq, starts.sessionStartDate]

theorem feeOnce_start {start : Timestamp} (starts : model.StartsAt start) {delivered : Prop} :
    model.FeeOnce delivered := by
  refine .inl (List.sum_eq_zero fun quantity mem => ?_)
  obtain ⟨definition, hdefinition, rfl⟩ := List.mem_map.mp mem
  rw [ResolvedPricingDefinition.pricedQuantity, starts.notPriced definition hdefinition]
  rfl

/-- A run keeps the balance. -/
theorem balanced_of_run {start : Timestamp} (starts : model.StartsAt start)
    (run : Transition.Run (Step zoneTime currency) (.start model) consumptions account) :
    Balanced model account :=
  run.invariant (I := Balanced model) (balanced_start starts) fun _ _ _ balanced step =>
    (@Balanced.step zoneTime currency _ _ _ _ False balanced step False.elim).1

/-- In a run of consumptions that go on one where the other has ended, no more is absorbed than
the session has had. -/
theorem absorbedUpTo_of_run {start : Timestamp} (starts : model.StartsAt start)
    (run : Transition.Run (Transition.guarded GoesOn (Step zoneTime currency)) (.start model)
      consumptions account) :
    account.model.pricerContext.AbsorbedUpTo account.cumulatedConsumptionWh account.endedAt := by
  refine (run.invariant (I := fun account => Balanced model account ∧
      account.model.pricerContext.AbsorbedUpTo account.cumulatedConsumptionWh account.endedAt)
    ⟨balanced_start starts, absorbedUpTo_start starts⟩ ?_).2
  rintro account consumptionData account' ⟨balanced, absorbed⟩ ⟨goesOn, step⟩
  obtain ⟨balanced', -, absorbed'⟩ := balanced.step step fun _ => ⟨absorbed, goesOn⟩
  exact ⟨balanced', absorbed' goesOn⟩

/-- A run prices the flat fee at most once, after some of its consumptions has had energy. -/
theorem feeOnce_of_run {start : Timestamp} (starts : model.StartsAt start)
    (run : Transition.Run (Step zoneTime currency) (.start model) consumptions account) :
    account.model.FeeOnce (∃ consumptionData ∈ consumptions, consumptionData.Delivered) := by
  induction run with
  | refl => exact feeOnce_start starts
  | snoc _ step ih =>
      obtain ⟨priced, hpriced, rfl⟩ := priced_of_step step
      refine (ConsumptionPricer.feeOnce_priceConsumption hpriced ih).mono ?_
      rintro (⟨consumptionData, mem, energy⟩ | energy)
      · exact ⟨consumptionData, List.mem_append_left _ mem, energy⟩
      · exact ⟨_, List.mem_append_right _ (List.mem_singleton_self _), energy⟩

/-- **A session goes on**: what no other definition prices is priced by one without
restrictions, which every model is resolved with. -/
theorem exists_step {start : Timestamp} (starts : model.StartsAt start)
    (run : Transition.Run (Step zoneTime currency) (.start model) consumptions account)
    (fallback : ConsumptionPricer.Unrestricted model.pricingDefinitions)
    (consumptionData : PricerInput) :
    ∃ account', Step zoneTime currency account consumptionData account' := by
  have fallback' := (ConsumptionPricer.unrestricted_of_tariffs
    (balanced_of_run starts run).tariffs).mpr fallback
  obtain ⟨priced, hpriced⟩ :=
    ConsumptionPricer.exists_priceConsumption zoneTime fallback' consumptionData
  exact ⟨_, _, Outcome.bind_eq_ok.mpr ⟨priced, hpriced, rfl⟩, rfl⟩

/-- A step that is computed. -/
theorem step_get (h : (computePrice zoneTime currency account.model
      consumptionData).toOption.isSome) :
    Step zoneTime currency account consumptionData
      (account.record consumptionData (Option.get _ h)) :=
  ⟨_, Outcome.toOption_eq_some.mp (Option.some_get h).symm, rfl⟩

/-- A flat fee and energy by the kWh up to 1 kWh, then time, and the default tariff. -/
def exampleModel : ResolvedPricingModel :=
  { pricingDefinitions :=
      [{ name := "First kWh"
         restrictions := some { maxEnergyKWh := some 1 }
         dimensions :=
           { flatFee := some { active := true, price := 2 }
             energy := some { active := true, price := 1 / 2, stepSize := 100 } } },
       { name := "By the hour"
         restrictions := some { minEnergyKWh := some 1 }
         dimensions :=
           { flatFee := some { active := true, price := 3 }
             chargingTime := some { active := true, price := 6 } } },
       { name := "No Tariff"
         dimensions := { energy := some { active := true } } }]
    pricerContext := { sessionStartDate := 0 } }

theorem exampleModel_startsAt : exampleModel.StartsAt 0 where
  notPriced := by
    intro definition mem d
    simp only [exampleModel, List.mem_cons, List.not_mem_nil, or_false] at mem
    rcases mem with rfl | rfl | rfl <;> cases d <;> rfl
  notAbsorbed := rfl
  sessionStartDate := rfl
  notAbsorbedTime := by
    intro d
    cases d <;> rfl

end PricingAccount

end EvServer
