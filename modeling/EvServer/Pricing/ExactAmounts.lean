import EvServer.Pricing.SessionPricing

/-!
# Exact amounts

The priced data of a dimension carries its amount three times: as an exact decimal, as a
number, and truncated to cents.  The three agree after every call of the pricer, and the
price shown to the user is that of the model the transaction has.
-/

namespace EvServer

/-- Data with its exact amount and the truncated one. -/
def PricedDimensionData.IsExact (data : PricedDimensionData) : Prop :=
  data.amountAsDecimal = some data.amount ∧ data.roundedAmount = Utils.truncTo data.amount 2

/-- The priced data of a definition is exact. -/
def ResolvedPricingDefinition.PricesExactly (definition : ResolvedPricingDefinition) : Prop :=
  ∀ d, ∀ data ∈ definition.pricedData d, data.IsExact

namespace ResolvedPricingModel

/-- All definitions price exactly. -/
def PricesExactly (model : ResolvedPricingModel) : Prop :=
  ∀ definition ∈ model.pricingDefinitions, definition.PricesExactly

theorem Fresh.pricesExactly {model : ResolvedPricingModel} (fresh : model.Fresh) :
    model.PricesExactly := by
  intro definition mem d data hdata
  rw [fresh.notPriced definition mem] at hdata
  cases hdata

end ResolvedPricingModel

namespace ConsumptionChunkPricer

variable {chunk : ConsumptionChunk} {state : PricerState}

theorem isExact_pricedQuantity (pricingDimension : PricingDimension) (quantity perUnit : ℚ)
    (stepSize : Option ℚ) : (pricedQuantity pricingDimension quantity perUnit stepSize).IsExact :=
  ⟨rfl, rfl⟩

/-- Adding exact data keeps the definition exact. -/
theorem pricesExactly_add {d : DimensionType} {pricingDimension : PricingDimension}
    {pricedData : PricedDimensionData} (exactly : state.definition.PricesExactly)
    (isExact : pricedData.IsExact) :
    (state.add d pricingDimension pricedData).definition.PricesExactly := by
  intro d' data hdata
  by_cases same : d' = d
  · subst same
    rw [state.pricedData_add_self, addPricedData] at hdata
    cases hprevious : pricingDimension.pricedData with
    | none =>
        rw [hprevious] at hdata
        cases hdata
        exact isExact
    | some previousData =>
        rw [hprevious] at hdata
        cases hdata
        exact ⟨rfl, rfl⟩
  · rw [ResolvedPricingDefinition.pricedData, state.get_add_of_ne same] at hdata
    exact exactly d' data hdata

theorem pricesExactly_priceFlatFeeConsumption (exactly : state.definition.PricesExactly) :
    (priceFlatFeeConsumption chunk state).2.definition.PricesExactly := by
  unfold priceFlatFeeConsumption
  split
  · exact exactly
  · rename_i dimensionToPrice _
    split
    · simp only
      split
      · exact exactly
      · rename_i notPriced
        refine pricesExactly_add exactly ?_
        rw [priceFlatFeeDimension]
        cases hpriced : dimensionToPrice.pricedData with
        | none => exact ⟨rfl, rfl⟩
        | some _ => exact absurd (by rw [hpriced]; rfl) notPriced
    · exact exactly

theorem pricesExactly_priceEnergyConsumption (exactly : state.definition.PricesExactly) :
    (priceEnergyConsumption chunk state).2.definition.PricesExactly := by
  unfold priceEnergyConsumption
  split
  · exact exactly
  · simp only
    split
    · split
      · exact pricesExactly_add exactly (isExact_pricedQuantity _ _ _ _)
      · exact exactly
    · split
      · exact pricesExactly_add exactly (isExact_pricedQuantity _ _ _ _)
      · exact exactly

theorem pricesExactly_priceTimeConsumption {d : DimensionType} {applies : Bool}
    {lastStepDate : Timestamp} {absorb : PricerState → PricerState}
    (keeps : ∀ state, (absorb state).definition = state.definition)
    (exactly : state.definition.PricesExactly) :
    (priceTimeConsumption chunk d applies lastStepDate absorb state).2.definition.PricesExactly := by
  unfold priceTimeConsumption
  split
  · rwa [keeps]
  · rename_i dimensionToPrice _
    split
    · exact exactly
    · rename_i pricedData priced
      rw [keeps]
      refine pricesExactly_add exactly ?_
      unfold priceTimeDimension at priced
      split at priced
      · simp only [Option.ite_none_right_eq_some, Option.some.injEq] at priced
        rw [← priced.2]
        exact isExact_pricedQuantity _ _ _ _
      · simp only [Option.ite_none_right_eq_some, Option.some.injEq] at priced
        rw [← priced.2]
        exact isExact_pricedQuantity _ _ _ _

theorem pricesExactly_priceDimensions (exactly : state.definition.PricesExactly) :
    (priceDimensions chunk state).2.definition.PricesExactly := by
  have charging : ∀ state : PricerState, state.definition.PricesExactly →
      (priceChargingTimeConsumption chunk state).2.definition.PricesExactly :=
    fun _ => pricesExactly_priceTimeConsumption fun _ => rfl
  have parking : ∀ state : PricerState, state.definition.PricesExactly →
      (priceParkingTimeConsumption chunk state).2.definition.PricesExactly :=
    fun _ => pricesExactly_priceTimeConsumption fun _ => rfl
  have flatFee : (priceFlatFeeConsumption chunk state).2.definition.PricesExactly :=
    pricesExactly_priceFlatFeeConsumption exactly
  exact parking _ (charging _ (pricesExactly_priceEnergyConsumption flatFee))

variable {zoneTime : String → Timestamp → LocalTime} {model model' : ResolvedPricingModel}

/-- A chunk keeps the amounts of the model exact. -/
theorem pricesExactly_priceConsumptionChunk {pricedData : PricedConsumptionData}
    (h : priceConsumptionChunk zoneTime model chunk = .ok (pricedData, model'))
    (exactly : model.PricesExactly) : model'.PricesExactly := by
  obtain ⟨index, definition, actual, rfl, -⟩ := priceConsumptionChunk_ok h
  have present := getElem?_of_actualPricingDefinitions actual
  intro definition' mem
  rcases List.mem_or_eq_of_mem_set mem with old | rfl
  · exact exactly definition' old
  · exact pricesExactly_priceDimensions (exactly definition (List.mem_of_getElem? present))

end ConsumptionChunkPricer

/-! ## A consumption and a transaction -/

namespace ConsumptionPricer

variable {zoneTime : String → Timestamp → LocalTime}

/-- A consumption keeps the amounts of the model exact. -/
theorem pricesExactly_priceConsumption {model : ResolvedPricingModel}
    {consumptionData : PricerInput} {priced : PricedConsumptionData × ResolvedPricingModel}
    (h : priceConsumption zoneTime model consumptionData = .ok priced)
    (exactly : model.PricesExactly) : priced.2.PricesExactly := by
  refine Outcome.foldlM_invariant (I := fun state => state.2.PricesExactly) ?_ exactly h
  intro state chunk next exactly hchunk
  obtain ⟨pricedChunk, hpriced, hnext⟩ := Outcome.bind_eq_ok.mp hchunk
  rw [Outcome.pure_eq_ok_iff] at hnext
  rw [← hnext]
  exact ConsumptionChunkPricer.pricesExactly_priceConsumptionChunk hpriced exactly

end ConsumptionPricer

namespace BuiltInPricingIntegration

variable {settings : Settings} {transaction transaction' : Transaction}
variable {consumption consumption' : Consumption}

/-- The transaction has been priced with a model. -/
structure PricedWith (model : ResolvedPricingModel) (transaction : Transaction) : Prop where
  pricingModel : transaction.pricingModel = some model
  exactly : model.PricesExactly

/-- The transaction shows the price of its model. -/
structure ShowsPrice (model : ResolvedPricingModel) (transaction : Transaction) : Prop
    extends PricedWith model transaction where
  shown : transaction.currentCumulatedRoundedPrice =
    (computeCumulatedAmount model).cumulatedRoundedAmount

/-- A priced consumption comes with the model it was priced with, and its price. -/
theorem priceTransaction_ok {pricedConsumption : Option PricedConsumption}
    (h : priceTransaction settings transaction consumption = .ok pricedConsumption)
    (exactly : (transaction.pricingModel.getD
      (settings.resolvePricingContext transaction)).PricesExactly) :
    ∃ priced model, pricedConsumption = some priced ∧ priced.pricingModel = some model ∧
      model.PricesExactly ∧
      priced.cumulatedRoundedAmount = (computeCumulatedAmount model).cumulatedRoundedAmount := by
  obtain ⟨priced, hpriced, h⟩ := Outcome.bind_eq_ok.mp h
  obtain ⟨data, hdata, hpriced⟩ := Outcome.bind_eq_ok.mp hpriced
  rw [Outcome.pure_eq_ok_iff] at h hpriced
  refine ⟨priced, data.2, h.symm, ?_, ?_, ?_⟩
  · rw [← hpriced]
  · exact ConsumptionPricer.pricesExactly_priceConsumption hdata exactly
  · rw [← hpriced]

/-- The first call gives the transaction its model and its price. -/
theorem showsPrice_start
    (h : OCPPUtils.processTransactionPricing (some (pricingImpl settings)) transaction
      consumption .start = .ok (transaction', consumption'))
    (exactly : (transaction.pricingModel.getD
      (settings.resolvePricingContext transaction)).PricesExactly) :
    ∃ model, ShowsPrice model transaction' := by
  obtain ⟨pricedConsumption, hpriced, h⟩ := Outcome.bind_eq_ok.mp h
  obtain ⟨priced, model, rfl, hmodel, exactly, price⟩ := priceTransaction_ok hpriced exactly
  cases h
  exact ⟨model, ⟨hmodel, exactly⟩, price⟩

/-- A later call shows the price of the model it leaves; it does not touch the `stop`
part. -/
theorem showsPrice_later {model : ResolvedPricingModel} {action : TransactionAction}
    (h : OCPPUtils.processTransactionPricing (some (pricingImpl settings)) transaction
      consumption action = .ok (transaction', consumption'))
    (later : action ≠ .start) (priced : PricedWith model transaction) :
    (∃ model', ShowsPrice model' transaction') ∧ transaction'.stop = transaction.stop := by
  have exactly : (transaction.pricingModel.getD
      (settings.resolvePricingContext transaction)).PricesExactly := by
    rw [priced.pricingModel]
    exact priced.exactly
  obtain ⟨pricedConsumption, hpriced, h⟩ := priceTransaction_of_later h later
  obtain ⟨result, model', rfl, hmodel, exactly', price⟩ := priceTransaction_ok hpriced exactly
  cases h
  refine ⟨⟨model', ⟨?_, exactly'⟩, price⟩, rfl⟩
  show transaction.pricingModel.map _ = _
  rw [priced.pricingModel, Option.map_some, Option.bind_some, hmodel, Option.getD_some]

end BuiltInPricingIntegration

end EvServer
