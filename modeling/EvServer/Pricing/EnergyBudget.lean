import EvServer.Lib.Runs
import EvServer.Pricing.ConsumptionPricer

/-!
# The energy priced in a session

All definitions of a model share one counter, `lastAbsorbedConsumption`, that says up to
where the energy of the session has been priced.  Pricing by the Wh moves it to the
cumulated energy.  Pricing by steps moves it to the whole steps in the cumulated energy,
although it prices the whole steps in what has not been absorbed: when another
definition has absorbed energy up to the middle of a step, the counter goes back over
energy that is priced, and a later chunk prices it again.

`pricedEnergy_le_of_run` says that the energy priced never exceeds the energy of the
session as long as no step pricing carries into a step that is already partly absorbed.
-/

namespace EvServer

/-- The energy a definition has priced. -/
def ResolvedPricingDefinition.pricedEnergy (definition : ResolvedPricingDefinition) : ℚ :=
  ((definition.pricedData .energy).map PricedDimensionData.quantity).getD 0

namespace ResolvedPricingModel

/-- The energy all definitions of the model have priced. -/
def pricedEnergy (model : ResolvedPricingModel) : ℚ :=
  (model.pricingDefinitions.map ResolvedPricingDefinition.pricedEnergy).sum

/-- `getAbsorbedConsumption`. -/
def absorbedConsumption (model : ResolvedPricingModel) : ℚ :=
  model.pricerContext.lastAbsorbedConsumption.getD 0

/-- The invariant of a session with a cumulated energy: no more is priced than is
absorbed, and no more is absorbed than has been delivered. -/
structure WithinBudget (model : ResolvedPricingModel) (cumulatedConsumptionWh : ℚ) : Prop where
  priced : model.pricedEnergy ≤ model.absorbedConsumption
  absorbed : model.absorbedConsumption ≤ cumulatedConsumptionWh

theorem Fresh.pricedEnergy_eq_zero {model : ResolvedPricingModel} (fresh : model.Fresh) :
    model.pricedEnergy = 0 := by
  apply List.sum_eq_zero
  intro energy mem
  obtain ⟨definition, hdefinition, rfl⟩ := List.mem_map.mp mem
  rw [ResolvedPricingDefinition.pricedEnergy, fresh.notPriced definition hdefinition]
  rfl

theorem Fresh.withinBudget {model : ResolvedPricingModel} (fresh : model.Fresh) :
    model.WithinBudget 0 where
  priced := by rw [fresh.pricedEnergy_eq_zero, absorbedConsumption, fresh.notAbsorbed]; rfl
  absorbed := by rw [absorbedConsumption, fresh.notAbsorbed]; rfl

/-- Pricing with one definition changes the energy priced by what it changes there. -/
theorem pricedEnergy_set {definitions : List ResolvedPricingDefinition} {index : ℕ}
    {definition : ResolvedPricingDefinition} (present : definitions[index]? = some definition)
    (definition' : ResolvedPricingDefinition) (context context' : ConsumptionPricerContext) :
    pricedEnergy ⟨definitions.set index definition', context'⟩ =
      pricedEnergy ⟨definitions, context⟩ +
        (definition'.pricedEnergy - definition.pricedEnergy) :=
  sum_map_set present definition' ResolvedPricingDefinition.pricedEnergy

end ResolvedPricingModel

namespace ConsumptionChunkPricer

open ResolvedPricingModel

variable {chunk : ConsumptionChunk} {state : PricerState}

/-! ## One chunk -/

/-- Adding priced energy adds its quantity. -/
theorem pricedEnergy_add {pricingDimension : PricingDimension}
    (active : activeDimension state.definition .energy = some pricingDimension)
    (pricedData : PricedDimensionData) :
    (state.add .energy pricingDimension pricedData).definition.pricedEnergy =
      state.definition.pricedEnergy + pricedData.quantity := by
  rw [ResolvedPricingDefinition.pricedEnergy, state.pricedData_add_self,
    ResolvedPricingDefinition.pricedEnergy, pricedData_of_activeDimension active, addPricedData]
  cases pricingDimension.pricedData with
  | none => exact (zero_add _).symm
  | some previousData => rfl

/-- The two figures that energy pricing is about. -/
structure SameEnergy (state state' : PricerState) : Prop where
  dimension : state'.definition.dimensions.get .energy = state.definition.dimensions.get .energy
  absorbed : state'.context.lastAbsorbedConsumption = state.context.lastAbsorbedConsumption

theorem SameEnergy.trans {between state' : PricerState} (first : SameEnergy state between)
    (second : SameEnergy between state') : SameEnergy state state' :=
  ⟨second.dimension.trans first.dimension, second.absorbed.trans first.absorbed⟩

theorem SameEnergy.pricedEnergy_eq {state' : PricerState} (same : SameEnergy state state') :
    state'.definition.pricedEnergy = state.definition.pricedEnergy := by
  rw [ResolvedPricingDefinition.pricedEnergy, ResolvedPricingDefinition.pricedData,
    same.dimension]
  rfl

theorem SameEnergy.activeDimension_eq {state' : PricerState} (same : SameEnergy state state') :
    activeDimension state'.definition .energy = activeDimension state.definition .energy := by
  rw [activeDimension, activeDimension, same.dimension]

theorem sameEnergy_priceFlatFeeConsumption (chunk : ConsumptionChunk) (state : PricerState) :
    SameEnergy state (priceFlatFeeConsumption chunk state).2 := by
  unfold priceFlatFeeConsumption
  split
  · exact ⟨rfl, rfl⟩
  · rename_i dimensionToPrice _
    split
    · simp only
      split
      · exact ⟨rfl, rfl⟩
      · exact ⟨PricerState.get_add_of_ne _ (by decide) _ _, rfl⟩
    · exact ⟨rfl, rfl⟩

theorem sameEnergy_priceTimeConsumption {d : DimensionType} (time : .energy ≠ d)
    {applies : Bool} {lastStepDate : Timestamp} {absorb : PricerState → PricerState}
    (keeps : ∀ state, SameEnergy state (absorb state)) :
    SameEnergy state (priceTimeConsumption chunk d applies lastStepDate absorb state).2 := by
  unfold priceTimeConsumption
  split
  · exact keeps state
  · split
    · exact ⟨rfl, rfl⟩
    · exact SameEnergy.trans ⟨PricerState.get_add_of_ne _ time _ _, rfl⟩ (keeps _)

/-- The energy of the chunk is priced from what the flat fee leaves, and what comes after
does not change it. -/
theorem priceDimensions_energy (chunk : ConsumptionChunk) (state : PricerState) :
    ∃ before, SameEnergy state before ∧
      SameEnergy (priceEnergyConsumption chunk before).2 (priceDimensions chunk state).2 := by
  refine ⟨_, sameEnergy_priceFlatFeeConsumption chunk state, ?_⟩
  have charging : ∀ state, SameEnergy state (priceChargingTimeConsumption chunk state).2 :=
    fun _ => sameEnergy_priceTimeConsumption (by decide) fun _ => ⟨rfl, rfl⟩
  have parking : ∀ state, SameEnergy state (priceParkingTimeConsumption chunk state).2 :=
    fun _ => sameEnergy_priceTimeConsumption (by decide) fun _ => ⟨rfl, rfl⟩
  exact (charging _).trans (parking _)

/-- Pricing by steps from an absorbed energy does not go back over energy that is
priced: the absorbed energy is a whole number of steps, or the cumulated energy is less
far into its step. -/
def CountsStepsOnce (absorbed cumulated stepSize : ℚ) : Prop :=
  Int.fract (absorbed / stepSize) = 0 ∨
    Int.fract (cumulated / stepSize) < Int.fract (absorbed / stepSize)

instance (absorbed cumulated stepSize : ℚ) :
    Decidable (CountsStepsOnce absorbed cumulated stepSize) :=
  inferInstanceAs (Decidable (_ ∨ _))

/-- The condition on a chunk and the state it is priced in: if energy is priced by
steps, then each step once. -/
def PricesEnergyOnce (context : ConsumptionPricerContext) (chunk : ConsumptionChunk)
    (definition : ResolvedPricingDefinition) : Prop :=
  ∀ dimension ∈ activeDimension definition .energy,
    dimension.stepSize ≠ 0 → 0 < chunk.cumulatedConsumptionWh →
      0 < energySteps context chunk dimension.stepSize →
        CountsStepsOnce (context.lastAbsorbedConsumption.getD 0) chunk.cumulatedConsumptionWh
          dimension.stepSize

instance (context : ConsumptionPricerContext) (chunk : ConsumptionChunk)
    (definition : ResolvedPricingDefinition) :
    Decidable (PricesEnergyOnce context chunk definition) :=
  inferInstanceAs (Decidable (∀ dimension ∈ activeDimension definition .energy, _ → _ → _ → _))

/-- What has been absorbed in a pricer state. -/
def PricerState.absorbed (state : PricerState) : ℚ :=
  state.context.lastAbsorbedConsumption.getD 0

/-- Pricing the energy of a chunk prices no more than it absorbs, and absorbs no more
than has been delivered. -/
theorem pricedEnergy_priceEnergyConsumption_le {start : ℚ} (behind : state.absorbed ≤ start)
    (nonneg : 0 ≤ chunk.consumptionWh)
    (reached : start + chunk.consumptionWh ≤ chunk.cumulatedConsumptionWh)
    (once : PricesEnergyOnce state.context chunk state.definition) :
    (priceEnergyConsumption chunk state).2.definition.pricedEnergy -
          state.definition.pricedEnergy ≤
        (priceEnergyConsumption chunk state).2.absorbed - state.absorbed ∧
      (priceEnergyConsumption chunk state).2.absorbed ≤ chunk.cumulatedConsumptionWh := by
  unfold priceEnergyConsumption
  split
  · -- No active dimension: everything is absorbed and nothing priced.
    refine ⟨?_, le_rfl⟩
    show state.definition.pricedEnergy - _ ≤ chunk.cumulatedConsumptionWh - state.absorbed
    linarith
  · rename_i dimensionToPrice active
    have unchanged : state.definition.pricedEnergy - state.definition.pricedEnergy ≤
        state.absorbed - state.absorbed ∧ state.absorbed ≤ chunk.cumulatedConsumptionWh :=
      ⟨by linarith, by linarith⟩
    simp only
    split
    · rename_i bySteps
      split
      · rename_i fires
        obtain ⟨delivered, steps⟩ := fires
        have once := once dimensionToPrice active bySteps delivered steps
        have ahead : (0 : ℚ) ≤ chunk.cumulatedConsumptionWh - state.absorbed := by linarith
        -- A whole step has been delivered, so the step size is positive.
        have pos : 0 < dimensionToPrice.stepSize := by
          by_contra notPos
          have := Rounding.one_le_of_truncate_pos steps
          have := div_nonpos_of_nonneg_of_nonpos ahead (not_lt.mp notPos)
          unfold PricerState.absorbed at this
          linarith
        have count : energySteps state.context chunk dimensionToPrice.stepSize =
            ⌊(chunk.cumulatedConsumptionWh - state.absorbed) / dimensionToPrice.stepSize⌋ :=
          Rounding.truncate_eq_floor_of_pos steps
        have whole : Rounding.truncate
            (chunk.cumulatedConsumptionWh / dimensionToPrice.stepSize) =
              ⌊chunk.cumulatedConsumptionWh / dimensionToPrice.stepSize⌋ :=
          Rounding.truncate_of_nonneg (by positivity)
        have bound := (Rounding.add_floor_div_mul_le_iff pos state.absorbed
          chunk.cumulatedConsumptionWh).mpr once
        constructor
        · show (state.add .energy dimensionToPrice _).definition.pricedEnergy - _ ≤
            (Rounding.truncate _ : ℚ) * dimensionToPrice.stepSize - _
          rw [pricedEnergy_add active, whole]
          show state.definition.pricedEnergy +
            (energySteps state.context chunk dimensionToPrice.stepSize : ℚ) *
              dimensionToPrice.stepSize - _ ≤ _
          rw [count]
          linarith
        · show (Rounding.truncate _ : ℚ) * dimensionToPrice.stepSize ≤ _
          rw [whole]
          exact Rounding.floor_div_mul_le pos _
      · exact unchanged
    · split
      · refine ⟨?_, le_rfl⟩
        show (state.add .energy dimensionToPrice _).definition.pricedEnergy - _ ≤
          chunk.cumulatedConsumptionWh - state.absorbed
        rw [pricedEnergy_add active]
        show state.definition.pricedEnergy + chunk.consumptionWh - _ ≤ _
        linarith
      · exact unchanged

variable {zoneTime : String → Timestamp → LocalTime} {model model' : ResolvedPricingModel}

/-- **A chunk keeps the budget.** -/
theorem withinBudget_priceConsumptionChunk {pricedData : PricedConsumptionData} {start : ℚ}
    (h : priceConsumptionChunk zoneTime model chunk = .ok (pricedData, model'))
    (budget : model.WithinBudget start) (nonneg : 0 ≤ chunk.consumptionWh)
    (reached : start + chunk.consumptionWh ≤ chunk.cumulatedConsumptionWh)
    (once : ∀ actual ∈ actualPricingDefinitions zoneTime model chunk,
      PricesEnergyOnce model.pricerContext chunk actual.2) :
    model'.WithinBudget chunk.cumulatedConsumptionWh := by
  obtain ⟨index, definition, actual, rfl, -⟩ := priceConsumptionChunk_ok h
  obtain ⟨before, same, same'⟩ := priceDimensions_energy chunk ⟨definition, model.pricerContext⟩
  have once' : PricesEnergyOnce before.context chunk before.definition := by
    intro dimension active
    rw [same.activeDimension_eq] at active
    have once := once (index, definition) actual dimension active
    unfold energySteps at once ⊢
    rw [same.absorbed]
    exact once
  have absorbedBefore : before.absorbed = model.absorbedConsumption :=
    congrArg (Option.getD · 0) same.absorbed
  have absorbedAfter := congrArg (Option.getD · (0 : ℚ)) same'.absorbed
  obtain ⟨priced, absorbed⟩ := pricedEnergy_priceEnergyConsumption_le
    (absorbedBefore.trans_le budget.absorbed) nonneg reached once'
  constructor
  · rw [pricedEnergy_set (getElem?_of_actualPricingDefinitions actual) _ model.pricerContext,
      same'.pricedEnergy_eq]
    have spent := same.pricedEnergy_eq
    have within := budget.priced
    show model.pricedEnergy + _ ≤ Option.getD _ 0
    rw [absorbedAfter]
    change _ ≤ (priceEnergyConsumption chunk before).2.absorbed
    change before.definition.pricedEnergy = definition.pricedEnergy at spent
    linarith
  · show Option.getD _ 0 ≤ _
    rw [absorbedAfter]
    exact absorbed

end ConsumptionChunkPricer

/-! ## One consumption -/

namespace ConsumptionPricer

open ConsumptionChunkPricer (priceConsumptionChunk actualPricingDefinitions)

/-- Each chunk prices its energy once, in the model the chunks before it left. -/
def PricesEnergyOnce (zoneTime : String → Timestamp → LocalTime) :
    ResolvedPricingModel → List ConsumptionChunk → Prop
  | _, [] => True
  | model, chunk :: rest =>
      (∀ actual ∈ actualPricingDefinitions zoneTime model chunk,
        ConsumptionChunkPricer.PricesEnergyOnce model.pricerContext chunk actual.2) ∧
      ∀ priced ∈ (priceConsumptionChunk zoneTime model chunk).toOption,
        PricesEnergyOnce zoneTime priced.2 rest

instance decidablePricesEnergyOnce (zoneTime : String → Timestamp → LocalTime) :
    ∀ (model : ResolvedPricingModel) (chunks : List ConsumptionChunk),
      Decidable (PricesEnergyOnce zoneTime model chunks)
  | _, [] => isTrue trivial
  | model, chunk :: rest =>
      have := fun model => decidablePricesEnergyOnce zoneTime model rest
      inferInstanceAs (Decidable
        ((∀ actual ∈ actualPricingDefinitions zoneTime model chunk,
          ConsumptionChunkPricer.PricesEnergyOnce model.pricerContext chunk actual.2) ∧
        ∀ priced ∈ (priceConsumptionChunk zoneTime model chunk).toOption,
          PricesEnergyOnce zoneTime priced.2 rest))

variable {zoneTime : String → Timestamp → LocalTime}

/-- The chunks of a consumption keep the budget one after the other. -/
theorem withinBudget_foldlM {chunks : List ConsumptionChunk} {start total : ℚ}
    (delivers : Delivers start chunks total)
    {state state' : PricedConsumptionData × ResolvedPricingModel}
    (h : chunks.foldlM (priceNextChunk zoneTime) state = .ok state')
    (budget : state.2.WithinBudget start) (once : PricesEnergyOnce zoneTime state.2 chunks) :
    state'.2.WithinBudget total := by
  induction delivers generalizing state with
  | done behind =>
      rw [List.foldlM_nil, Outcome.pure_eq_ok_iff] at h
      subst h
      exact ⟨budget.priced, budget.absorbed.trans behind⟩
  | next nonneg reached _ ih =>
      obtain ⟨between, hchunk, h⟩ := Outcome.foldlM_cons_eq_ok.mp h
      obtain ⟨⟨pricedData, model⟩, hpriced, hbetween⟩ := Outcome.bind_eq_ok.mp hchunk
      rw [Outcome.pure_eq_ok_iff] at hbetween
      subst hbetween
      refine ih h ?_ ?_
      · exact ConsumptionChunkPricer.withinBudget_priceConsumptionChunk hpriced budget nonneg
          reached once.1
      · exact once.2 (pricedData, model) (by rw [hpriced]; rfl)

end ConsumptionPricer

/-! ## Runs of a session -/

/-- The pricing of a session: its model, and how much energy it has had. -/
structure PricedSession where
  model : ResolvedPricingModel
  cumulatedConsumptionWh : ℚ := 0
  deriving DecidableEq, Repr

namespace PricedSession

variable (zoneTime : String → Timestamp → LocalTime)

/-- The session after a consumption; when pricing throws, the stored model stays. -/
def price (session : PricedSession) (consumptionData : PricerInput) : PricedSession :=
  { model :=
      match ConsumptionPricer.priceConsumption zoneTime session.model consumptionData with
      | .ok (_, model) => model
      | .error _ => session.model
    cumulatedConsumptionWh := consumptionData.cumulatedConsumptionWh }

/-- The step relation of a session: the consumption delivers no negative energy, and its
cumulated energy counts what the session had and what it delivers. -/
def Step (session : PricedSession) (consumptionData : PricerInput) (session' : PricedSession) :
    Prop :=
  0 ≤ consumptionData.consumptionWh ∧
    session.cumulatedConsumptionWh + consumptionData.consumptionWh ≤
      consumptionData.cumulatedConsumptionWh ∧
    session' = session.price zoneTime consumptionData

/-- The consumption prices its energy once. -/
def PricesEnergyOnce (session : PricedSession) (consumptionData : PricerInput) : Prop :=
  ConsumptionPricer.PricesEnergyOnce zoneTime session.model
    (ConsumptionPricer.generateChunk consumptionData)

variable {zoneTime} {session session' : PricedSession} {consumptionData : PricerInput}

theorem withinBudget_step (once : PricesEnergyOnce zoneTime session consumptionData)
    (step : Step zoneTime session consumptionData session')
    (budget : session.model.WithinBudget session.cumulatedConsumptionWh) :
    session'.model.WithinBudget session'.cumulatedConsumptionWh := by
  obtain ⟨nonneg, reached, rfl⟩ := step
  unfold price
  split
  · rename_i pricedData model hpriced
    exact ConsumptionPricer.withinBudget_foldlM
      (ConsumptionPricer.delivers_generateChunk nonneg reached) hpriced budget once
  · refine ⟨budget.priced, budget.absorbed.trans ?_⟩
    show session.cumulatedConsumptionWh ≤ consumptionData.cumulatedConsumptionWh
    linarith

/-- A plain tariff up to 600 Wh, steps of 1000 Wh above, and the default tariff. -/
def exampleModel : ResolvedPricingModel :=
  { pricingDefinitions :=
      [{ name := "First 600 Wh"
         restrictions := some { maxEnergyKWh := some (6 / 10) }
         dimensions := { energy := some { active := true, price := 1 } } },
       { name := "By the kWh"
         dimensions := { energy := some { active := true, price := 1, stepSize := 1000 } } },
       { name := "No Tariff"
         dimensions := { energy := some { active := true } } }]
    pricerContext := { sessionStartDate := 0 } }

/-- A consumption of a minute. -/
def exampleConsumption (minute : ℤ) (consumptionWh cumulatedConsumptionWh : ℚ) : PricerInput :=
  { startedAt := 60000 * minute
    endedAt := 60000 * (minute + 1)
    consumptionWh := consumptionWh
    cumulatedConsumptionWh := cumulatedConsumptionWh
    totalDurationSecs := 60 * (minute + 1)
    totalInactivitySecs := 0 }

/-- A place where it is always Monday, midnight. -/
def exampleZone : String → Timestamp → LocalTime := fun _ _ => ⟨1, ⟨0, 0, 0⟩⟩

theorem exampleModel_fresh : exampleModel.Fresh where
  notPriced := by
    intro definition mem d
    simp only [exampleModel, List.mem_cons, List.not_mem_nil, or_false] at mem
    rcases mem with rfl | rfl | rfl <;> cases d <;> rfl
  notAbsorbed := rfl

instance : Decidable (PricesEnergyOnce zoneTime session consumptionData) :=
  ConsumptionPricer.decidablePricesEnergyOnce _ _ _

end PricedSession

end EvServer
