import EvServer.Pricing.Types

/-!
# Pricing one chunk of a consumption (`ConsumptionChunkPricer`)

A chunk is priced by the first definition of the model whose restrictions it meets.
Each dimension the definition has active adds what it prices to the `pricedData` of
the dimension, and the context of the model remembers up to where the session has
been priced: `lastAbsorbedConsumption` for the energy, one date each for charging and
parking time.

The local time of a charging station comes from `moment-tz` and is the parameter
`zoneTime`.  A model none of whose definitions matches makes the code read a property
of `undefined`.
-/

namespace EvServer

/-! ## Times of day -/

/-- `PricingTimeLimit`. -/
structure PricingTimeLimit where
  hour : ℕ
  minute : ℕ
  second : ℕ := 0
  deriving DecidableEq, Repr

namespace PricingTimeLimit

/-- The number at a position of a time such as `"08:30"`; nothing there is `0`. -/
def numberAt (position : ℕ) (timeAsString : String) : ℕ :=
  Utils.digitsValue (((timeAsString.toList.drop position).take 2).takeWhile Char.isDigit)

/-- `PricingTimeLimit.parseTime`. -/
def parseTime (timeAsString : String) : PricingTimeLimit :=
  ⟨numberAt 0 timeAsString, numberAt 3 timeAsString, numberAt 6 timeAsString⟩

/-- `PricingTimeLimit.isLowerThan`. -/
def isLowerThan (time aTimeLimit : PricingTimeLimit) : Bool :=
  if time.hour = aTimeLimit.hour then
    if time.minute = aTimeLimit.minute then time.second < aTimeLimit.second
    else time.minute < aTimeLimit.minute
  else time.hour < aTimeLimit.hour

/-- `PricingTimeLimit.isSameOrGreaterThan`. -/
def isSameOrGreaterThan (time aTimeLimit : PricingTimeLimit) : Bool :=
  !time.isLowerThan aTimeLimit

/-- `PricingTimeLimit.isBetween`; a range that spans two days is checked by its
opposite, which does not. -/
def isBetween (time timeFrom timeTo : PricingTimeLimit) : Bool :=
  if timeTo.isLowerThan timeFrom then
    !(time.isSameOrGreaterThan timeTo && time.isLowerThan timeFrom)
  else time.isSameOrGreaterThan timeFrom && time.isLowerThan timeTo

end PricingTimeLimit

/-- A date in a time zone: `isoWeekday()` and `format('HH:mm:ss')`, parsed. -/
structure LocalTime where
  isoWeekday : ℕ
  time : PricingTimeLimit

namespace ConsumptionChunkPricer

variable (zoneTime : String → Timestamp → LocalTime)

/-! ## Restrictions -/

/-- `checkDayOfWeek`. -/
def checkDayOfWeek (context : ConsumptionPricerContext) (chunk : ConsumptionChunk)
    (restrictions : PricingRestriction) : Bool :=
  match restrictions.daysOfWeek with
  | none => true
  | some daysOfWeek =>
      match context.timezone with
      | none => false
      | some timezone => daysOfWeek.contains (zoneTime timezone chunk.startedAt).isoWeekday

/-- `checkTimeValidity`. -/
def checkTimeValidity (context : ConsumptionPricerContext) (chunk : ConsumptionChunk)
    (restrictions : PricingRestriction) : Bool :=
  if restrictions.timeFrom.isNone ∧ restrictions.timeTo.isNone then true
  else
    match context.timezone with
    | none => false
    | some timezone =>
        let timeFrom := PricingTimeLimit.parseTime (restrictions.timeFrom.getD "00:00")
        let timeTo := PricingTimeLimit.parseTime (restrictions.timeTo.getD "00:00")
        (zoneTime timezone chunk.startedAt).time.isBetween timeFrom timeTo

/-- `checkMinEnergy`. -/
def checkMinEnergy (chunk : ConsumptionChunk) (restrictions : PricingRestriction) : Bool :=
  match restrictions.minEnergyKWh with
  | none => true
  | some minEnergyKWh => ¬ chunk.cumulatedConsumptionWh / 1000 < minEnergyKWh

/-- `checkMaxEnergy`. -/
def checkMaxEnergy (chunk : ConsumptionChunk) (restrictions : PricingRestriction) : Bool :=
  match restrictions.maxEnergyKWh with
  | none => true
  | some maxEnergyKWh => ¬ maxEnergyKWh ≤ chunk.cumulatedConsumptionWh / 1000

/-- `checkMinDuration`. -/
def checkMinDuration (chunk : ConsumptionChunk) (restrictions : PricingRestriction) : Bool :=
  match restrictions.minDurationSecs with
  | none => true
  | some minDurationSecs => ¬ chunk.totalDurationSecs < minDurationSecs

/-- `checkMaxDuration`. -/
def checkMaxDuration (chunk : ConsumptionChunk) (restrictions : PricingRestriction) : Bool :=
  match restrictions.maxDurationSecs with
  | none => true
  | some maxDurationSecs => ¬ maxDurationSecs ≤ chunk.totalDurationSecs

/-- `checkPricingDefinitionRestrictions`. -/
def checkPricingDefinitionRestrictions (context : ConsumptionPricerContext)
    (chunk : ConsumptionChunk) (pricingDefinition : ResolvedPricingDefinition) : Bool :=
  match pricingDefinition.restrictions with
  | none => true
  | some restrictions =>
      checkDayOfWeek zoneTime context chunk restrictions &&
        checkTimeValidity zoneTime context chunk restrictions &&
        checkMinEnergy chunk restrictions && checkMaxEnergy chunk restrictions &&
        checkMinDuration chunk restrictions && checkMaxDuration chunk restrictions

/-- The index of the definition that prices the chunk: the first one that matches. -/
def actualPricingDefinition (model : ResolvedPricingModel) (chunk : ConsumptionChunk) :
    Option ℕ :=
  model.pricingDefinitions.findIdx?
    (checkPricingDefinitionRestrictions zoneTime model.pricerContext chunk)

/-! ## Priced data -/

/-- The data a dimension prices for a quantity; `perUnit` is the number of its units
(Wh, seconds) in the unit of the price. -/
def pricedQuantity (pricingDimension : PricingDimension) (quantity perUnit : ℚ)
    (stepSize : Option ℚ) : PricedDimensionData :=
  let amountAsDecimal := pricingDimension.price * quantity / perUnit
  { unitPrice := some pricingDimension.price
    amountAsDecimal := some amountAsDecimal
    amount := amountAsDecimal
    roundedAmount := Utils.truncTo amountAsDecimal 2
    quantity := quantity
    stepSize := stepSize }

/-- `addPricedData`: add the consumption to the previous data, if any. -/
def addPricedData (pricingDimension : PricingDimension) (pricedData : PricedDimensionData) :
    PricingDimension :=
  { pricingDimension with
    pricedData := some
      (match pricingDimension.pricedData with
        | none => pricedData
        | some previousData =>
            let amountAsDecimal :=
              previousData.amountAsDecimal.getD 0 + pricedData.amountAsDecimal.getD 0
            { previousData with
              amountAsDecimal := some amountAsDecimal
              amount := amountAsDecimal
              quantity := previousData.quantity + pricedData.quantity
              roundedAmount := Utils.truncTo amountAsDecimal 2 }) }

/-- The data of `priceConsumptionStep`. -/
def priceConsumptionStep (pricingDimension : PricingDimension) (steps : ℤ) :
    PricedDimensionData :=
  pricedQuantity pricingDimension (steps * pricingDimension.stepSize) 1000
    (some pricingDimension.stepSize)

/-- The data of `priceConsumptionWh`. -/
def priceConsumptionWh (pricingDimension : PricingDimension) (consumptionWh : ℚ) :
    PricedDimensionData :=
  pricedQuantity pricingDimension consumptionWh 1000 none

/-- The data of `priceTimeSteps`. -/
def priceTimeSteps (pricingDimension : PricingDimension) (steps : ℤ) : PricedDimensionData :=
  pricedQuantity pricingDimension (steps * pricingDimension.stepSize) 3600
    (some pricingDimension.stepSize)

/-- The data of `priceTimeSpent`. -/
def priceTimeSpent (pricingDimension : PricingDimension) (seconds : ℤ) : PricedDimensionData :=
  pricedQuantity pricingDimension seconds 3600 none

/-! ## The four dimensions -/

/-- What pricing a dimension works on: the definition that prices the chunk and the
context of the model. -/
structure PricerState where
  definition : ResolvedPricingDefinition
  context : ConsumptionPricerContext

/-- `getActiveDefinition4Dimension`: the dimension, when the definition has it active. -/
def activeDimension (definition : ResolvedPricingDefinition) (dimensionType : DimensionType) :
    Option PricingDimension :=
  (definition.dimensions.get dimensionType).filter PricingDimension.active

/-- `pricingDimension.pricedData` of the definition after `addPricedData`; the data
carries the name of the definition (`enrichPricedData`). -/
def PricerState.add (state : PricerState) (dimensionType : DimensionType)
    (pricingDimension : PricingDimension) (pricedData : PricedDimensionData) : PricerState :=
  { state with
    definition :=
      { state.definition with
        dimensions := state.definition.dimensions.set dimensionType
          (some (addPricedData pricingDimension
            { pricedData with sourceName := some state.definition.name })) } }

theorem PricerState.pricedData_add_self (state : PricerState) (d : DimensionType)
    (pricingDimension : PricingDimension) (pricedData : PricedDimensionData) :
    (state.add d pricingDimension pricedData).definition.pricedData d =
      (addPricedData pricingDimension
        { pricedData with sourceName := some state.definition.name }).pricedData := by
  simp [PricerState.add, ResolvedPricingDefinition.pricedData]

theorem PricerState.get_add_of_ne (state : PricerState) {d d' : DimensionType} (h : d' ≠ d)
    (pricingDimension : PricingDimension) (pricedData : PricedDimensionData) :
    (state.add d pricingDimension pricedData).definition.dimensions.get d' =
      state.definition.dimensions.get d' :=
  state.definition.dimensions.get_set_of_ne h _

/-- A dimension that is active has priced what the definition has priced in it. -/
theorem pricedData_of_activeDimension {definition : ResolvedPricingDefinition}
    {d : DimensionType} {pricingDimension : PricingDimension}
    (h : activeDimension definition d = some pricingDimension) :
    definition.pricedData d = pricingDimension.pricedData := by
  obtain ⟨present, -⟩ := Option.filter_eq_some_iff.mp h
  rw [ResolvedPricingDefinition.pricedData, present, Option.bind_some]

/-- `priceFlatFeeDimension`: the fee is billed once per session. -/
def priceFlatFeeDimension (pricingDimension : PricingDimension) : PricedDimensionData :=
  match pricingDimension.pricedData with
  | some _ => { unitPrice := some 0 }
  | none =>
      { unitPrice := some pricingDimension.price
        amountAsDecimal := some pricingDimension.price
        amount := pricingDimension.price
        roundedAmount := Utils.truncTo pricingDimension.price 2
        quantity := 1 }

/-- `priceFlatFeeConsumption`; no fee is priced before energy has been delivered. -/
def priceFlatFeeConsumption (chunk : ConsumptionChunk) (state : PricerState) :
    Option PricedDimensionData × PricerState :=
  match activeDimension state.definition .flatFee with
  | none => (none, state)
  | some dimensionToPrice =>
      if ¬ state.context.flatFeeAlreadyPriced ∧ 0 < chunk.cumulatedConsumptionWh then
        let pricedData :=
          { priceFlatFeeDimension dimensionToPrice with sourceName := some state.definition.name }
        let state :=
          { state with context := { state.context with flatFeeAlreadyPriced := true } }
        if dimensionToPrice.pricedData.isSome then (some pricedData, state)
        else (some pricedData, state.add .flatFee dimensionToPrice pricedData)
      else (none, state)

/-- `absorbConsumption`. -/
def absorbConsumption (absorbed : ℚ) (state : PricerState) : PricerState :=
  { state with context := { state.context with lastAbsorbedConsumption := some absorbed } }

/-- The number of whole steps that have not been priced yet. -/
def energySteps (context : ConsumptionPricerContext) (chunk : ConsumptionChunk)
    (stepSize : ℚ) : ℤ :=
  Rounding.truncate
    ((chunk.cumulatedConsumptionWh - context.lastAbsorbedConsumption.getD 0) / stepSize)

/-- `priceEnergyConsumption`. -/
def priceEnergyConsumption (chunk : ConsumptionChunk) (state : PricerState) :
    Option PricedDimensionData × PricerState :=
  match activeDimension state.definition .energy with
  | none => (none, absorbConsumption chunk.cumulatedConsumptionWh state)
  | some dimensionToPrice =>
      if dimensionToPrice.stepSize ≠ 0 then
        let nbSteps := energySteps state.context chunk dimensionToPrice.stepSize
        if 0 < chunk.cumulatedConsumptionWh ∧ 0 < nbSteps then
          let pricedData := priceConsumptionStep dimensionToPrice nbSteps
          -- Consider the step size to avoid absorbing something not yet priced
          let absorbed :=
            Rounding.truncate (chunk.cumulatedConsumptionWh / dimensionToPrice.stepSize)
              * dimensionToPrice.stepSize
          (some { pricedData with sourceName := some state.definition.name },
            absorbConsumption absorbed (state.add .energy dimensionToPrice pricedData))
        else (none, state)
      else if 0 < chunk.consumptionWh then
        let pricedData := priceConsumptionWh dimensionToPrice chunk.consumptionWh
        (some { pricedData with sourceName := some state.definition.name },
          absorbConsumption chunk.cumulatedConsumptionWh
            (state.add .energy dimensionToPrice pricedData))
      else (none, state)

/-- `priceTimeDimension`: what is priced, if anything. -/
def priceTimeDimension (chunk : ConsumptionChunk) (pricingDimension : PricingDimension)
    (lastStepDate : Timestamp) : Option PricedDimensionData :=
  if pricingDimension.stepSize ≠ 0 then
    let timeSpent := Utils.diffSeconds chunk.endedAt lastStepDate
    let nbSteps := Rounding.truncate (timeSpent / pricingDimension.stepSize)
    if 0 < nbSteps then some (priceTimeSteps pricingDimension nbSteps) else none
  else
    let seconds := Utils.diffSeconds chunk.endedAt chunk.startedAt
    if 0 < seconds then some (priceTimeSpent pricingDimension seconds) else none

/-- A time dimension that applies to the chunk is priced and absorbed together; one
that does not apply is absorbed. -/
def priceTimeConsumption (chunk : ConsumptionChunk) (dimensionType : DimensionType)
    (applies : Bool) (lastStepDate : Timestamp) (absorb : PricerState → PricerState)
    (state : PricerState) : Option PricedDimensionData × PricerState :=
  match (activeDimension state.definition dimensionType).filter fun _ => applies with
  | none => (none, absorb state)
  | some dimensionToPrice =>
      match priceTimeDimension chunk dimensionToPrice lastStepDate with
      | none => (none, state)
      | some pricedData =>
          (some { pricedData with sourceName := some state.definition.name },
            absorb (state.add dimensionType dimensionToPrice pricedData))

/-- `priceChargingTimeConsumption`: only when charging. -/
def priceChargingTimeConsumption (chunk : ConsumptionChunk) (state : PricerState) :
    Option PricedDimensionData × PricerState :=
  priceTimeConsumption chunk .chargingTime (0 < chunk.consumptionWh)
    (state.context.lastAbsorbedChargingTime.getD state.context.sessionStartDate)
    (fun state => { state with
      context := { state.context with lastAbsorbedChargingTime := some chunk.endedAt } })
    state

/-- `priceParkingTimeConsumption`: only when it makes sense, not during the warmup. -/
def priceParkingTimeConsumption (chunk : ConsumptionChunk) (state : PricerState) :
    Option PricedDimensionData × PricerState :=
  priceTimeConsumption chunk .parkingTime
    (0 < chunk.totalInactivitySecs ∧ 0 < chunk.cumulatedConsumptionWh ∧ chunk.consumptionWh ≤ 0)
    (state.context.lastAbsorbedParkingTime.getD state.context.sessionStartDate)
    (fun state => { state with
      context := { state.context with lastAbsorbedParkingTime := some chunk.endedAt } })
    state

/-- The four dimensions in their order. -/
def priceDimensions (chunk : ConsumptionChunk) (state : PricerState) :
    PricedConsumptionData × PricerState :=
  let (flatFee, state) := priceFlatFeeConsumption chunk state
  let (energy, state) := priceEnergyConsumption chunk state
  let (chargingTime, state) := priceChargingTimeConsumption chunk state
  let (parkingTime, state) := priceParkingTimeConsumption chunk state
  ({ flatFee := flatFee, energy := energy, chargingTime := chargingTime,
     parkingTime := parkingTime }, state)

/-- `actualPricingDefinitions`: the definition that prices the chunk, with its index. -/
def actualPricingDefinitions (model : ResolvedPricingModel) (chunk : ConsumptionChunk) :
    Option (ℕ × ResolvedPricingDefinition) :=
  (actualPricingDefinition zoneTime model chunk).bind fun index =>
    (model.pricingDefinitions[index]?).map (index, ·)

/-- `priceConsumptionChunk`: the priced data of the chunk and the model after it. -/
def priceConsumptionChunk (model : ResolvedPricingModel) (chunk : ConsumptionChunk) :
    Except String (PricedConsumptionData × ResolvedPricingModel) :=
  match actualPricingDefinitions zoneTime model chunk with
  | none => .error "TypeError: Cannot read properties of undefined (reading 'dimensions')"
  | some (index, definition) =>
      let (pricedData, state) := priceDimensions chunk ⟨definition, model.pricerContext⟩
      .ok (pricedData,
        { pricingDefinitions := model.pricingDefinitions.set index state.definition
          pricerContext := state.context })

variable {zoneTime} {model model' : ResolvedPricingModel} {chunk : ConsumptionChunk}
variable {index : ℕ} {definition : ResolvedPricingDefinition}

theorem getElem?_of_actualPricingDefinitions
    (h : actualPricingDefinitions zoneTime model chunk = some (index, definition)) :
    model.pricingDefinitions[index]? = some definition := by
  obtain ⟨i, -, h⟩ := Option.bind_eq_some_iff.mp h
  obtain ⟨found, present, same⟩ := Option.map_eq_some_iff.mp h
  obtain ⟨rfl, rfl⟩ := Prod.mk.inj same
  exact present

/-- A chunk that is priced changes the definition that prices it, and the context. -/
theorem priceConsumptionChunk_ok {pricedData : PricedConsumptionData}
    (h : priceConsumptionChunk zoneTime model chunk = .ok (pricedData, model')) :
    ∃ index definition,
      actualPricingDefinitions zoneTime model chunk = some (index, definition) ∧
        model' =
          { pricingDefinitions := model.pricingDefinitions.set index
              (priceDimensions chunk ⟨definition, model.pricerContext⟩).2.definition
            pricerContext :=
              (priceDimensions chunk ⟨definition, model.pricerContext⟩).2.context } ∧
        pricedData = (priceDimensions chunk ⟨definition, model.pricerContext⟩).1 := by
  unfold priceConsumptionChunk at h
  split at h
  · cases h
  · rename_i index definition actual
    refine ⟨index, definition, actual, ?_⟩
    cases h
    exact ⟨rfl, rfl⟩

/-- A chunk that some definition matches is priced. -/
theorem exists_priceConsumptionChunk_of_actual
    (actual : actualPricingDefinition zoneTime model chunk = some index) :
    ∃ priced, priceConsumptionChunk zoneTime model chunk = .ok priced := by
  obtain ⟨inside, -⟩ := List.findIdx?_eq_some_iff_findIdx_eq.mp actual
  have found : actualPricingDefinitions zoneTime model chunk =
      some (index, model.pricingDefinitions[index]) := by
    rw [actualPricingDefinitions, actual, Option.bind_some, List.getElem?_eq_getElem inside,
      Option.map_some]
  unfold priceConsumptionChunk
  rw [found]
  exact ⟨_, rfl⟩

end ConsumptionChunkPricer

end EvServer
