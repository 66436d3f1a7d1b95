import EvServer.Pricing.EnergyBudget
import EvServer.Pricing.ExactAmounts
import EvServer.Pricing.TimeLog

/-!
# What a chunk adds to the priced data

Each dimension prices a chunk at most once: it returns the data of the chunk and adds it to
what the definition has priced before, or it does neither.  The rest of the definition, its
tariff, does not change.
-/

namespace EvServer

/-- The amount of the data of a dimension. -/
def amountOf (data : Option PricedDimensionData) : ℚ :=
  (data.map PricedDimensionData.amount).getD 0

namespace ByDimension

variable {α : Type} {β : Type}

/-- A record with its properties mapped. -/
def map (f : α → β) (record : ByDimension α) : ByDimension β :=
  { flatFee := record.flatFee.map f
    energy := record.energy.map f
    chargingTime := record.chargingTime.map f
    parkingTime := record.parkingTime.map f }

@[simp] theorem get_map (f : α → β) (record : ByDimension α) (d : DimensionType) :
    (record.map f).get d = (record.get d).map f := by
  cases d <;> rfl

end ByDimension

/-- The dimension without what has been priced. -/
def PricingDimension.tariff (pricingDimension : PricingDimension) : PricingDimension :=
  { pricingDimension with pricedData := none }

namespace ResolvedPricingDefinition

/-- The definition without what has been priced. -/
def tariff (definition : ResolvedPricingDefinition) : ResolvedPricingDefinition :=
  { definition with dimensions := definition.dimensions.map PricingDimension.tariff }

/-- The amount that the definition has priced, in all dimensions. -/
def pricedAmount (definition : ResolvedPricingDefinition) : ℚ :=
  (DimensionType.all.map fun d => amountOf (definition.pricedData d)).sum

/-- No price is negative. -/
def NonnegPrices (definition : ResolvedPricingDefinition) : Prop :=
  ∀ d, ∀ dimension ∈ definition.dimensions.get d, 0 ≤ dimension.price

/-- No step size is negative. -/
def NonnegSteps (definition : ResolvedPricingDefinition) : Prop :=
  ∀ d, ∀ dimension ∈ definition.dimensions.get d, 0 ≤ dimension.stepSize

variable {definition definition' : ResolvedPricingDefinition}

theorem nonnegPrices_tariff : definition.tariff.NonnegPrices ↔ definition.NonnegPrices := by
  refine forall_congr' fun d => ?_
  rw [tariff, ByDimension.get_map]
  simp [PricingDimension.tariff]

theorem nonnegSteps_tariff : definition.tariff.NonnegSteps ↔ definition.NonnegSteps := by
  refine forall_congr' fun d => ?_
  rw [tariff, ByDimension.get_map]
  simp [PricingDimension.tariff]

/-- The amount changes in one dimension only. -/
theorem pricedAmount_eq_add {d : DimensionType} {amount : ℚ}
    (others : ∀ d', d' ≠ d → definition'.pricedData d' = definition.pricedData d')
    (added : amountOf (definition'.pricedData d) = amountOf (definition.pricedData d) + amount) :
    definition'.pricedAmount = definition.pricedAmount + amount := by
  simp only [pricedAmount, DimensionType.all, List.map_cons, List.map_nil, List.sum_cons,
    List.sum_nil]
  cases d with
  | flatFee =>
      rw [others .energy (by decide), others .chargingTime (by decide),
        others .parkingTime (by decide)]
      linarith
  | energy =>
      rw [others .flatFee (by decide), others .chargingTime (by decide),
        others .parkingTime (by decide)]
      linarith
  | chargingTime =>
      rw [others .flatFee (by decide), others .energy (by decide),
        others .parkingTime (by decide)]
      linarith
  | parkingTime =>
      rw [others .flatFee (by decide), others .energy (by decide),
        others .chargingTime (by decide)]
      linarith

end ResolvedPricingDefinition

/-- Definitions with the same tariffs have the same prices and step sizes. -/
theorem ResolvedPricingDefinition.forall_iff_of_tariffs {P : ResolvedPricingDefinition → Prop}
    {definitions definitions' : List ResolvedPricingDefinition}
    (tariffs : definitions'.map tariff = definitions.map tariff)
    (onTariff : ∀ definition : ResolvedPricingDefinition, P definition.tariff ↔ P definition) :
    (∀ definition ∈ definitions', P definition) ↔ ∀ definition ∈ definitions, P definition := by
  have all (definitions : List ResolvedPricingDefinition) :
      (∀ definition ∈ definitions, P definition) ↔
        ∀ definition ∈ definitions.map tariff, P definition := by
    rw [List.forall_mem_map]
    exact forall₂_congr fun definition _ => (onTariff definition).symm
  rw [all definitions', tariffs, ← all definitions]

/-! ## Amounts that are added -/

/-- Definitions add an amount to what they have priced, and keep their tariffs.  The amount is
negative only with a negative price, or when the steps go back and what is priced is not
`ahead` of what has been absorbed. -/
structure AddsAmount (ahead : Prop) (definitions definitions' : List ResolvedPricingDefinition)
    (amount : ℚ) : Prop where
  tariffs : definitions'.map ResolvedPricingDefinition.tariff =
    definitions.map ResolvedPricingDefinition.tariff
  exactly : (∀ definition ∈ definitions, definition.PricesExactly) →
    ∀ definition ∈ definitions', definition.PricesExactly
  added : (∀ definition ∈ definitions, definition.PricesExactly) →
    (definitions'.map ResolvedPricingDefinition.pricedAmount).sum =
      (definitions.map ResolvedPricingDefinition.pricedAmount).sum + amount
  nonneg : (∀ definition ∈ definitions, definition.NonnegPrices) →
    (∀ definition ∈ definitions, definition.NonnegSteps) ∨ ahead → 0 ≤ amount

namespace AddsAmount

open ResolvedPricingDefinition (forall_iff_of_tariffs nonnegPrices_tariff nonnegSteps_tariff)

variable {ahead ahead' : Prop} {definition definition' : ResolvedPricingDefinition}
variable {definitions definitions' definitions'' : List ResolvedPricingDefinition}
variable {amount amount' : ℚ}

theorem refl (ahead : Prop) (definitions : List ResolvedPricingDefinition) :
    AddsAmount ahead definitions definitions 0 :=
  ⟨rfl, id, fun _ => (add_zero _).symm, fun _ _ => le_rfl⟩

theorem mono (h : AddsAmount ahead' definitions definitions' amount) (sub : ahead → ahead') :
    AddsAmount ahead definitions definitions' amount :=
  ⟨h.tariffs, h.exactly, h.added, fun prices forward => h.nonneg prices (forward.imp_right sub)⟩

theorem trans (first : AddsAmount ahead definitions definitions' amount)
    (second : AddsAmount ahead definitions' definitions'' amount') :
    AddsAmount ahead definitions definitions'' (amount + amount') := by
  refine ⟨second.tariffs.trans first.tariffs, fun exactly => second.exactly (first.exactly exactly),
    ?_, ?_⟩
  · intro exactly
    rw [second.added (first.exactly exactly), first.added exactly, add_assoc]
  · intro prices forward
    have prices' := (forall_iff_of_tariffs first.tariffs fun _ => nonnegPrices_tariff).mpr prices
    have forward' := forward.imp_left
      (forall_iff_of_tariffs first.tariffs fun _ => nonnegSteps_tariff).mpr
    exact add_nonneg (first.nonneg prices forward) (second.nonneg prices' forward')

/-- What one of the definitions adds. -/
theorem set {index : ℕ} (h : AddsAmount ahead [definition] [definition'] amount)
    (present : definitions[index]? = some definition) :
    AddsAmount ahead definitions (definitions.set index definition') amount := by
  have mem : definition ∈ definitions := List.mem_of_getElem? present
  have only {P : ResolvedPricingDefinition → Prop} (all : ∀ definition ∈ definitions, P definition) :
      ∀ definition' ∈ [definition], P definition' :=
    List.forall_mem_singleton.mpr (all definition mem)
  refine ⟨?_, ?_, ?_, ?_⟩
  · have tariff : definition'.tariff = definition.tariff := List.singleton_inj.mp h.tariffs
    obtain ⟨inside, rfl⟩ := List.getElem?_eq_some_iff.mp present
    rw [List.map_set, tariff, ← List.getElem_map ResolvedPricingDefinition.tariff]
    · exact List.set_getElem_self _
    · rwa [List.length_map]
  · intro exactly changed memChanged
    rcases List.mem_or_eq_of_mem_set memChanged with old | rfl
    · exact exactly changed old
    · exact h.exactly (only exactly) changed (List.mem_singleton_self _)
  · intro exactly
    have added := h.added (only exactly)
    rw [List.map_singleton, List.map_singleton, List.sum_singleton, List.sum_singleton] at added
    rw [sum_map_set present definition' ResolvedPricingDefinition.pricedAmount, added]
    ring
  · intro prices forward
    exact h.nonneg (only prices) (forward.imp_left only)

end AddsAmount

/-- No more has been absorbed than the energy and the time that a session has had. -/
structure ConsumptionPricerContext.AbsorbedUpTo (context : ConsumptionPricerContext)
    (cumulatedConsumptionWh : ℚ) (now : Timestamp) : Prop where
  energy : context.lastAbsorbedConsumption.getD 0 ≤ cumulatedConsumptionWh
  times : ∀ d ∈ DimensionType.times, context.lastStepDate d ≤ now

theorem ConsumptionPricerContext.AbsorbedUpTo.mono {context : ConsumptionPricerContext}
    {cumulated cumulated' : ℚ} {now now' : Timestamp} (h : context.AbsorbedUpTo cumulated now)
    (more : cumulated ≤ cumulated') (later : now ≤ now') : context.AbsorbedUpTo cumulated' now' :=
  ⟨h.energy.trans more, fun d mem => (h.times d mem).trans later⟩

namespace ConsumptionChunkPricer

variable {chunk : ConsumptionChunk} {state : PricerState} {d : DimensionType}

/-! ## One dimension -/

/-- What a dimension returns, and what it leaves of the definition.  The amount is negative only
with a negative price, or when the chunk is not `ahead` and the steps go back. -/
inductive DimensionOutcome (d : DimensionType) (ahead : Prop) (state : PricerState) :
    Option PricedDimensionData → ResolvedPricingDefinition → Prop
  | nothing : DimensionOutcome d ahead state none state.definition
  /-- The flat fee of a definition that has priced it. -/
  | free (data : PricedDimensionData) : data.IsExact → data.amount = 0 →
      DimensionOutcome d ahead state (some data) state.definition
  | adds (pricingDimension : PricingDimension) (data : PricedDimensionData) : data.IsExact →
      activeDimension state.definition d = some pricingDimension →
      (0 ≤ pricingDimension.price → 0 ≤ pricingDimension.stepSize ∨ ahead → 0 ≤ data.amount) →
      DimensionOutcome d ahead state
        (some { data with sourceName := some state.definition.name })
        (state.add d pricingDimension data).definition

theorem dimensionOutcome_priceFlatFeeConsumption {ahead : Prop} (chunk : ConsumptionChunk)
    (state : PricerState) :
    DimensionOutcome .flatFee ahead state (priceFlatFeeConsumption chunk state).1
      (priceFlatFeeConsumption chunk state).2.definition := by
  unfold priceFlatFeeConsumption
  split
  · exact .nothing
  · rename_i dimensionToPrice active
    split
    · dsimp only
      split
      · rename_i priced
        obtain ⟨pricedData, hpriced⟩ := Option.isSome_iff_exists.mp priced
        refine .free _ ?_ ?_ <;> rw [priceFlatFeeDimension, hpriced]
        exact ⟨rfl, by norm_num [Utils.truncTo]⟩
      · rename_i notPriced
        have unpriced : dimensionToPrice.pricedData = none :=
          Option.not_isSome_iff_eq_none.mp notPriced
        have fee : priceFlatFeeDimension dimensionToPrice =
            { unitPrice := some dimensionToPrice.price
              amountAsDecimal := some dimensionToPrice.price
              amount := dimensionToPrice.price
              roundedAmount := Utils.truncTo dimensionToPrice.price 2
              quantity := 1 } := by
          rw [priceFlatFeeDimension, unpriced]
        rw [fee]
        exact .adds dimensionToPrice _ ⟨rfl, rfl⟩ active fun nonneg _ => nonneg
    · exact .nothing

/-- The quantity of whole steps is not negative, unless the steps go back. -/
theorem steps_mul_nonneg {delta stepSize : ℚ} (fires : 0 < Rounding.truncate (delta / stepSize))
    (forward : 0 ≤ stepSize ∨ 0 ≤ delta) :
    0 ≤ (Rounding.truncate (delta / stepSize) : ℚ) * stepSize := by
  have steps : (0 : ℚ) ≤ Rounding.truncate (delta / stepSize) := by
    exact_mod_cast fires.le
  refine mul_nonneg steps (forward.elim id fun ahead => ?_)
  by_contra back
  have whole := Rounding.one_le_of_truncate_pos fires
  have := div_nonpos_of_nonneg_of_nonpos ahead (not_le.mp back).le
  linarith

theorem amount_pricedQuantity_nonneg {pricingDimension : PricingDimension}
    {quantity perUnit : ℚ} {stepSize : Option ℚ} (price : 0 ≤ pricingDimension.price)
    (nonneg : 0 ≤ quantity) (unit : 0 ≤ perUnit) :
    0 ≤ (pricedQuantity pricingDimension quantity perUnit stepSize).amount :=
  div_nonneg (mul_nonneg price nonneg) unit

theorem dimensionOutcome_priceEnergyConsumption (chunk : ConsumptionChunk) (state : PricerState) :
    DimensionOutcome .energy (state.absorbed ≤ chunk.cumulatedConsumptionWh)
      state (priceEnergyConsumption chunk state).1
      (priceEnergyConsumption chunk state).2.definition := by
  unfold priceEnergyConsumption
  split
  · exact .nothing
  · rename_i dimensionToPrice active
    dsimp only
    split
    · split
      · rename_i fires
        refine .adds dimensionToPrice _ (isExact_pricedQuantity _ _ _ _) active ?_
        intro price forward
        refine amount_pricedQuantity_nonneg price (steps_mul_nonneg fires.2 ?_) (by norm_num)
        exact forward.imp_right sub_nonneg.mpr
      · exact .nothing
    · split
      · rename_i consumes
        refine .adds dimensionToPrice _ (isExact_pricedQuantity _ _ _ _) active ?_
        intro price _
        exact amount_pricedQuantity_nonneg price consumes.le (by norm_num)
      · exact .nothing

theorem dimensionOutcome_priceTimeConsumption (chunk : ConsumptionChunk) (state : PricerState)
    {applies : Bool} {lastStepDate : Timestamp} {absorb : PricerState → PricerState}
    (keeps : ∀ state, (absorb state).definition = state.definition) :
    DimensionOutcome d (lastStepDate ≤ chunk.endedAt) state
      (priceTimeConsumption chunk d applies lastStepDate absorb state).1
      (priceTimeConsumption chunk d applies lastStepDate absorb state).2.definition := by
  unfold priceTimeConsumption
  split
  · dsimp only
    rw [keeps]
    exact .nothing
  · rename_i dimensionToPrice active
    obtain ⟨active, -⟩ := Option.filter_eq_some_iff.mp active
    split
    · exact .nothing
    · rename_i pricedData priced
      dsimp only
      rw [keeps]
      unfold priceTimeDimension at priced
      split at priced
      · dsimp only at priced
        split at priced
        · rename_i steps
          cases priced
          refine .adds dimensionToPrice _ (isExact_pricedQuantity _ _ _ _) active ?_
          intro price forward
          refine amount_pricedQuantity_nonneg price (steps_mul_nonneg steps ?_) (by norm_num)
          refine forward.imp_right fun ahead => ?_
          have := Int.tdiv_nonneg (sub_nonneg.mpr ahead) (by decide : (0 : ℤ) ≤ 1000)
          exact_mod_cast this
        · cases priced
      · dsimp only at priced
        split at priced
        · rename_i spent
          cases priced
          refine .adds dimensionToPrice _ (isExact_pricedQuantity _ _ _ _) active ?_
          intro price _
          refine amount_pricedQuantity_nonneg price ?_ (by norm_num)
          exact_mod_cast spent.le
        · cases priced

theorem dimensionOutcome_priceChargingTimeConsumption (chunk : ConsumptionChunk)
    (state : PricerState) :
    DimensionOutcome .chargingTime (state.context.lastStepDate .chargingTime ≤ chunk.endedAt) state
      (priceChargingTimeConsumption chunk state).1
      (priceChargingTimeConsumption chunk state).2.definition :=
  dimensionOutcome_priceTimeConsumption chunk state fun _ => rfl

theorem dimensionOutcome_priceParkingTimeConsumption (chunk : ConsumptionChunk)
    (state : PricerState) :
    DimensionOutcome .parkingTime (state.context.lastStepDate .parkingTime ≤ chunk.endedAt) state
      (priceParkingTimeConsumption chunk state).1
      (priceParkingTimeConsumption chunk state).2.definition :=
  dimensionOutcome_priceTimeConsumption chunk state fun _ => rfl

theorem DimensionOutcome.isExact {ahead : Prop} {data : Option PricedDimensionData}
    {definition' : ResolvedPricingDefinition}
    (h : DimensionOutcome d ahead state data definition') : ∀ priced ∈ data, priced.IsExact := by
  intro priced mem
  cases h with
  | nothing => cases mem
  | free data isExact _ =>
      cases mem
      exact isExact
  | adds _ data isExact _ _ =>
      cases mem
      exact isExact

/-- The definition keeps its tariff. -/
theorem PricerState.tariff_add (state : PricerState) {d : DimensionType}
    {pricingDimension : PricingDimension}
    (present : state.definition.dimensions.get d = some pricingDimension)
    (pricedData : PricedDimensionData) :
    (state.add d pricingDimension pricedData).definition.tariff = state.definition.tariff := by
  have dimensions : (state.add d pricingDimension pricedData).definition.dimensions.map
      PricingDimension.tariff = state.definition.dimensions.map PricingDimension.tariff := by
    refine ByDimension.ext_get fun d' => ?_
    rw [ByDimension.get_map, ByDimension.get_map]
    rcases eq_or_ne d' d with rfl | other
    · rw [present]
      simp [PricerState.add, addPricedData, PricingDimension.tariff]
    · rw [state.get_add_of_ne other]
  exact congrArg (fun dimensions => { state.definition with dimensions := dimensions }) dimensions

/-- Exact data adds its amount to exact data. -/
theorem amountOf_addPricedData {pricingDimension : PricingDimension}
    {pricedData : PricedDimensionData} (exactly : ∀ data ∈ pricingDimension.pricedData, data.IsExact)
    (isExact : pricedData.IsExact) :
    amountOf (addPricedData pricingDimension pricedData).pricedData =
      amountOf pricingDimension.pricedData + pricedData.amount := by
  unfold addPricedData
  cases hprevious : pricingDimension.pricedData with
  | none => exact (zero_add _).symm
  | some previousData =>
      have decimal := (exactly previousData hprevious).1
      simp [amountOf, decimal, isExact.1]

/-- The amount that a dimension returns is added to the definition. -/
theorem DimensionOutcome.addsAmount {ahead : Prop} {data : Option PricedDimensionData}
    {definition' : ResolvedPricingDefinition}
    (h : DimensionOutcome d ahead state data definition') :
    AddsAmount ahead [state.definition] [definition'] (amountOf data) := by
  cases h with
  | nothing => exact .refl _ _
  | free data isExact nothing =>
      have free : amountOf (some data) = 0 := nothing
      rw [free]
      exact .refl _ _
  | adds pricingDimension data isExact active nonneg =>
      obtain ⟨present, -⟩ := Option.filter_eq_some_iff.mp active
      refine ⟨?_, ?_, ?_, ?_⟩
      · rw [List.map_singleton, List.map_singleton, state.tariff_add present]
      · intro exactly
        rw [List.forall_mem_singleton] at exactly ⊢
        exact pricesExactly_add exactly isExact
      · intro exactly
        rw [List.forall_mem_singleton] at exactly
        rw [List.map_singleton, List.map_singleton, List.sum_singleton, List.sum_singleton]
        refine ResolvedPricingDefinition.pricedAmount_eq_add (d := d) ?_ ?_
        · intro d' other
          rw [ResolvedPricingDefinition.pricedData, state.get_add_of_ne other]
          rfl
        · rw [state.pricedData_add_self, pricedData_of_activeDimension active]
          refine amountOf_addPricedData ?_ isExact
          rw [← pricedData_of_activeDimension active]
          exact exactly d
      · intro prices forward
        rw [List.forall_mem_singleton] at prices
        refine nonneg (prices d pricingDimension present) (forward.imp_left fun steps => ?_)
        exact List.forall_mem_singleton.mp steps d pricingDimension present

/-! ## The four dimensions -/

/-- The chunk is ahead of what has been absorbed. -/
def IsAhead (chunk : ConsumptionChunk) (context : ConsumptionPricerContext) : Prop :=
  context.AbsorbedUpTo chunk.cumulatedConsumptionWh chunk.endedAt

/-- **The amounts of a chunk** are added to the definition that prices it. -/
theorem addsAmount_priceDimensions (chunk : ConsumptionChunk) (state : PricerState) :
    AddsAmount (IsAhead chunk state.context) [state.definition]
      [(priceDimensions chunk state).2.definition]
      (BuiltInPricingIntegration.sumDimensions PricedDimensionData.amount
        (priceDimensions chunk state).1) := by
  let fee := (priceFlatFeeConsumption chunk state).2
  let energy := (priceEnergyConsumption chunk fee).2
  let charging := (priceChargingTimeConsumption chunk energy).2
  have feeEnergy : SameEnergy state fee := sameEnergy_priceFlatFeeConsumption chunk state
  have energyTime {d : DimensionType} (notFee : d ≠ .flatFee) (notEnergy : d ≠ .energy) :
      SameTime d state energy :=
    (sameTime_priceFlatFeeConsumption notFee chunk state).trans
      (sameTime_priceEnergyConsumption notEnergy chunk fee)
  have chargingTime : SameTime .parkingTime energy charging := by
    apply sameTime_priceTimeConsumption (by decide)
    exact fun _ => ⟨rfl, rfl, rfl⟩
  have energyAhead (ahead : IsAhead chunk state.context) :
      fee.absorbed ≤ chunk.cumulatedConsumptionWh := by
    rw [PricerState.absorbed, feeEnergy.absorbed]
    exact ahead.energy
  have chargingAhead (ahead : IsAhead chunk state.context) :
      energy.context.lastStepDate .chargingTime ≤ chunk.endedAt := by
    rw [(energyTime (by decide) (by decide)).lastStepDate_eq]
    exact ahead.times _ (by decide)
  have parkingAhead (ahead : IsAhead chunk state.context) :
      charging.context.lastStepDate .parkingTime ≤ chunk.endedAt := by
    rw [((energyTime (by decide) (by decide)).trans chargingTime).lastStepDate_eq]
    exact ahead.times _ (by decide)
  have first : AddsAmount (IsAhead chunk state.context) [state.definition] [fee.definition] _ :=
    (dimensionOutcome_priceFlatFeeConsumption chunk state).addsAmount
  have second := (dimensionOutcome_priceEnergyConsumption chunk fee).addsAmount.mono energyAhead
  have third := (dimensionOutcome_priceChargingTimeConsumption chunk energy).addsAmount.mono
    chargingAhead
  have fourth := (dimensionOutcome_priceParkingTimeConsumption chunk charging).addsAmount.mono
    parkingAhead
  exact ((first.trans second).trans third).trans fourth

/-- The data of a chunk is exact. -/
theorem isExact_priceDimensions (chunk : ConsumptionChunk) (state : PricerState) :
    ∀ d, ∀ priced ∈ (priceDimensions chunk state).1.get d, priced.IsExact := by
  intro d
  cases d with
  | flatFee => exact (@dimensionOutcome_priceFlatFeeConsumption True chunk state).isExact
  | energy => exact (dimensionOutcome_priceEnergyConsumption chunk _).isExact
  | chargingTime => exact (dimensionOutcome_priceChargingTimeConsumption chunk _).isExact
  | parkingTime => exact (dimensionOutcome_priceParkingTimeConsumption chunk _).isExact

/-- Pricing the energy of a chunk does not absorb more than has been delivered. -/
theorem absorbed_priceEnergyConsumption_le (behind : state.absorbed ≤ chunk.cumulatedConsumptionWh) :
    (priceEnergyConsumption chunk state).2.absorbed ≤ chunk.cumulatedConsumptionWh := by
  unfold priceEnergyConsumption
  split
  · exact le_rfl
  · rename_i dimensionToPrice active
    dsimp only
    split
    · split
      · rename_i fires
        obtain ⟨delivered, steps⟩ := fires
        -- A whole step has been delivered, so the step size is positive.
        have pos : 0 < dimensionToPrice.stepSize := by
          by_contra notPos
          have := Rounding.one_le_of_truncate_pos steps
          have := div_nonpos_of_nonneg_of_nonpos (sub_nonneg.mpr behind) (not_lt.mp notPos)
          unfold PricerState.absorbed at this
          linarith
        have whole : Rounding.truncate
            (chunk.cumulatedConsumptionWh / dimensionToPrice.stepSize) =
              ⌊chunk.cumulatedConsumptionWh / dimensionToPrice.stepSize⌋ :=
          Rounding.truncate_of_nonneg (by positivity)
        show (Rounding.truncate _ : ℚ) * dimensionToPrice.stepSize ≤ _
        rw [whole]
        exact Rounding.floor_div_mul_le pos _
      · exact behind
    · split
      · exact le_rfl
      · exact behind

/-- A dimension of time is absorbed no further than the chunk goes. -/
theorem TimeOutcome.le {lastStepDate lastStepDate' : Timestamp} {time : Option PricedTime}
    (outcome : TimeOutcome chunk lastStepDate time lastStepDate')
    (ahead : lastStepDate ≤ chunk.endedAt) : lastStepDate' ≤ chunk.endedAt := by
  cases outcome with
  | skipped => exact le_rfl
  | waiting => exact ahead
  | priced => exact le_rfl

/-- A chunk that is ahead is absorbed no further than it goes. -/
theorem isAhead_priceDimensions (ahead : IsAhead chunk state.context) :
    IsAhead chunk (priceDimensions chunk state).2.context := by
  constructor
  · obtain ⟨before, same, same'⟩ := priceDimensions_energy chunk state
    rw [same'.absorbed]
    refine absorbed_priceEnergyConsumption_le ?_
    rw [PricerState.absorbed, same.absorbed]
    exact ahead.energy
  · intro d mem
    exact (priceDimensions_time chunk state d mem).outcome.le (ahead.times d mem)

variable {zoneTime : String → Timestamp → LocalTime} {model model' : ResolvedPricingModel}

/-- What a chunk does to the model. -/
structure PricesChunk (chunk : ConsumptionChunk) (model model' : ResolvedPricingModel)
    (pricedData : PricedConsumptionData) : Prop where
  amount : AddsAmount (IsAhead chunk model.pricerContext) model.pricingDefinitions
    model'.pricingDefinitions
    (BuiltInPricingIntegration.sumDimensions PricedDimensionData.amount pricedData)
  isExact : ∀ d, ∀ priced ∈ pricedData.get d, priced.IsExact
  ahead : IsAhead chunk model.pricerContext → IsAhead chunk model'.pricerContext

theorem pricesChunk_of_priceConsumptionChunk {pricedData : PricedConsumptionData}
    (h : priceConsumptionChunk zoneTime model chunk = .ok (pricedData, model')) :
    PricesChunk chunk model model' pricedData := by
  obtain ⟨index, definition, actual, rfl, rfl⟩ := priceConsumptionChunk_ok h
  exact ⟨(addsAmount_priceDimensions chunk ⟨definition, model.pricerContext⟩).set
      (getElem?_of_actualPricingDefinitions actual),
    isExact_priceDimensions chunk _,
    @isAhead_priceDimensions chunk ⟨definition, model.pricerContext⟩⟩

end ConsumptionChunkPricer

/-! ## The chunks of a consumption -/

namespace PricingHelper

open BuiltInPricingIntegration (sumDimensions)

/-- Accumulated data has its amount as a decimal. -/
def HasDecimals (pricedData : PricedConsumptionData) : Prop :=
  ∀ d, ∀ data ∈ pricedData.get d, data.amountAsDecimal = some data.amount

/-- Accumulating two records adds their amounts. -/
theorem accumulatePricedConsumption_pair {first second : PricedConsumptionData}
    (decimals : HasDecimals first) (decimals' : HasDecimals second) :
    HasDecimals (accumulatePricedConsumption [first, second]) ∧
      sumDimensions PricedDimensionData.amount (accumulatePricedConsumption [first, second]) =
        sumDimensions PricedDimensionData.amount first +
          sumDimensions PricedDimensionData.amount second := by
  have sums (d : DimensionType) : ∃ quantity, Accumulates quantity
      (0 + amountOf (first.get d) + amountOf (second.get d))
      ((accumulatePricedConsumption [first, second]).get d) := by
    have both := get_foldl_accumulate [first, second] {} d
    rw [accumulatePricedConsumption, both, ByDimension.get_empty]
    have nothing : Accumulates 0 0 none := ⟨rfl, rfl⟩
    exact ⟨_, accumulates_accumulatePricedConsumptionData
      (accumulates_accumulatePricedConsumptionData nothing (decimals d)) (decimals' d)⟩
  have amount (d : DimensionType) :
      amountOf ((accumulatePricedConsumption [first, second]).get d) =
        amountOf (first.get d) + amountOf (second.get d) := by
    obtain ⟨quantity, sums⟩ := sums d
    rw [zero_add] at sums
    cases hdata : (accumulatePricedConsumption [first, second]).get d with
    | none =>
        rw [hdata] at sums
        exact sums.2.symm
    | some data =>
        rw [hdata] at sums
        exact sums.2.2.1
  constructor
  · intro d data hdata
    obtain ⟨quantity, sums⟩ := sums d
    rw [Option.mem_def.mp hdata] at sums
    rw [sums.2.1, sums.2.2.1]
  · have flatFee := amount .flatFee
    have energy := amount .energy
    have chargingTime := amount .chargingTime
    have parkingTime := amount .parkingTime
    simp only [amountOf, ByDimension.get] at flatFee energy chargingTime parkingTime
    rw [sumDimensions, sumDimensions, sumDimensions, flatFee, energy, chargingTime, parkingTime]
    ring

end PricingHelper

namespace ConsumptionPricer

open BuiltInPricingIntegration (sumDimensions)
open ConsumptionChunkPricer (pricesChunk_of_priceConsumptionChunk)
open PricingHelper (HasDecimals accumulatePricedConsumption_pair)

variable {zoneTime : String → Timestamp → LocalTime} {ahead : Prop}

/-- **The chunks of a consumption** add what is returned for them. -/
theorem addsAmount_foldlM {chunks : List ConsumptionChunk} {start total : ℚ}
    {now last : Timestamp} {state state' : PricedConsumptionData × ResolvedPricingModel}
    (h : chunks.foldlM (priceNextChunk zoneTime) state = .ok state')
    (decimals : HasDecimals state.1)
    (forward : ahead → state.2.pricerContext.AbsorbedUpTo start now ∧
      Delivers start chunks total ∧ Periods.Follow now (chunks.map ConsumptionChunk.period) last) :
    ∃ amount, AddsAmount ahead state.2.pricingDefinitions state'.2.pricingDefinitions amount ∧
      sumDimensions PricedDimensionData.amount state'.1 =
        sumDimensions PricedDimensionData.amount state.1 + amount ∧
      (ahead → state'.2.pricerContext.AbsorbedUpTo total last) := by
  induction chunks generalizing state start now with
  | nil =>
      cases h
      refine ⟨0, .refl _ _, (add_zero _).symm, fun isAhead => ?_⟩
      obtain ⟨absorbed, delivers, follows⟩ := forward isAhead
      cases delivers with
      | done le => exact absorbed.mono le follows.le
  | cons chunk rest ih =>
      obtain ⟨between, hchunk, h⟩ := Outcome.foldlM_cons_eq_ok.mp h
      obtain ⟨⟨pricedData, model⟩, hpriced, hbetween⟩ := Outcome.bind_eq_ok.mp hchunk
      obtain rfl := Outcome.pure_eq_ok_iff.mp hbetween
      have prices := pricesChunk_of_priceConsumptionChunk hpriced
      obtain ⟨decimals', accumulated⟩ := accumulatePricedConsumption_pair decimals
        fun d data mem => (prices.isExact d data mem).1
      have isAhead (forth : ahead) :
          ConsumptionChunkPricer.IsAhead chunk state.2.pricerContext := by
        obtain ⟨absorbed, delivers, follows⟩ := forward forth
        cases delivers with
        | next nonneg reached _ =>
            cases follows with
            | cons late forth _ =>
                refine absorbed.mono ?_ (late.trans forth)
                linarith
      have forward' (forth : ahead) : model.pricerContext.AbsorbedUpTo
          chunk.cumulatedConsumptionWh chunk.endedAt ∧
          Delivers chunk.cumulatedConsumptionWh rest total ∧
          Periods.Follow chunk.endedAt (rest.map ConsumptionChunk.period) last := by
        obtain ⟨absorbed, delivers, follows⟩ := forward forth
        cases delivers with
        | next _ _ delivers =>
            cases follows with
            | cons _ _ follows => exact ⟨prices.ahead (isAhead forth), delivers, follows⟩
      obtain ⟨amount, adds, sums, absorbed⟩ := ih h decimals' forward'
      refine ⟨_, (prices.amount.mono isAhead).trans adds, ?_, absorbed⟩
      rw [sums, accumulated, add_assoc]

/-- A consumption that goes on where the session is: it delivers no negative energy and takes no
negative time. -/
structure GoesOn (consumptionData : PricerInput) (cumulatedConsumptionWh : ℚ) (now : Timestamp) :
    Prop where
  nonneg : 0 ≤ consumptionData.consumptionWh
  reached : cumulatedConsumptionWh + consumptionData.consumptionWh ≤
    consumptionData.cumulatedConsumptionWh
  late : now ≤ consumptionData.startedAt
  forth : consumptionData.startedAt ≤ consumptionData.endedAt

/-- **A consumption** adds what is returned for it. -/
theorem addsAmount_priceConsumption {model : ResolvedPricingModel} {consumptionData : PricerInput}
    {priced : PricedConsumptionData × ResolvedPricingModel} {start : ℚ} {now : Timestamp}
    (h : priceConsumption zoneTime model consumptionData = .ok priced)
    (forward : ahead → model.pricerContext.AbsorbedUpTo start now ∧
      GoesOn consumptionData start now) :
    AddsAmount ahead model.pricingDefinitions priced.2.pricingDefinitions
        (sumDimensions PricedDimensionData.amount priced.1) ∧
      (ahead → priced.2.pricerContext.AbsorbedUpTo consumptionData.cumulatedConsumptionWh
        consumptionData.endedAt) := by
  have decimals : HasDecimals {} := by
    intro d data mem
    rw [ByDimension.get_empty] at mem
    cases mem
  obtain ⟨amount, adds, sums, absorbed⟩ := @addsAmount_foldlM zoneTime ahead _ start
    consumptionData.cumulatedConsumptionWh now consumptionData.endedAt _ _ h decimals
    fun forth => by
      obtain ⟨absorbed, goesOn⟩ := forward forth
      exact ⟨absorbed, delivers_generateChunk goesOn.nonneg goesOn.reached,
        (follow_generateChunk goesOn.forth).mono goesOn.late le_rfl⟩
  have nothing : sumDimensions PricedDimensionData.amount {} = 0 := by simp [sumDimensions]
  rw [nothing, zero_add] at sums
  rw [sums]
  exact ⟨adds, absorbed⟩

end ConsumptionPricer

end EvServer
