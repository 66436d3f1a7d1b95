import EvServer.Utils

/-!
# Pricing models (`types/Pricing.ts`)

A resolved pricing model is the list of tariffs that apply to a session together
with the context the pricer updates while the session runs.  Each tariff prices up
to four dimensions and keeps, per dimension, what has been priced so far.

`PricingDimensions` is indexed by `DimensionType`, as the source indexes it with the
name of the dimension.  A price or a step size that is not set is `0`.
-/

namespace EvServer

/-- `DimensionType`. -/
inductive DimensionType
  | flatFee
  | energy
  | chargingTime
  | parkingTime
  deriving DecidableEq, Repr

/-- The dimensions in the order in which they are accumulated. -/
def DimensionType.all : List DimensionType := [.flatFee, .energy, .chargingTime, .parkingTime]

/-- `PricedDimensionData`. -/
structure PricedDimensionData where
  unitPrice : Option ℚ := none
  amountAsDecimal : Option ℚ := some 0
  amount : ℚ := 0
  roundedAmount : ℚ := 0
  quantity : ℚ := 0
  stepSize : Option ℚ := none
  sourceName : Option String := none
  deriving DecidableEq, Repr

/-- `PricingDimension`. -/
structure PricingDimension where
  active : Bool
  price : ℚ := 0
  stepSize : ℚ := 0
  pricedData : Option PricedDimensionData := none
  deriving DecidableEq, Repr

/-- A record with one optional property per dimension: `PricingDimensions` and
`PricedConsumptionData` in the source. -/
structure ByDimension (α : Type) where
  flatFee : Option α := none
  energy : Option α := none
  chargingTime : Option α := none
  parkingTime : Option α := none
  deriving DecidableEq, Repr

namespace ByDimension

variable {α : Type}

/-- `record[dimensionType]`. -/
def get (record : ByDimension α) : DimensionType → Option α
  | .flatFee => record.flatFee
  | .energy => record.energy
  | .chargingTime => record.chargingTime
  | .parkingTime => record.parkingTime

/-- `record[dimensionType] = value`. -/
def set (record : ByDimension α) (dimension : DimensionType) (value : Option α) :
    ByDimension α :=
  match dimension with
  | .flatFee => { record with flatFee := value }
  | .energy => { record with energy := value }
  | .chargingTime => { record with chargingTime := value }
  | .parkingTime => { record with parkingTime := value }

@[simp] theorem get_set_self (record : ByDimension α) (d : DimensionType) (value : Option α) :
    (record.set d value).get d = value := by
  cases d <;> rfl

theorem get_set_of_ne (record : ByDimension α) {d d' : DimensionType} (h : d' ≠ d)
    (value : Option α) : (record.set d value).get d' = record.get d' := by
  cases d <;> cases d' <;> first | rfl | exact absurd rfl h

@[simp] theorem get_empty (d : DimensionType) : (({} : ByDimension α).get d) = none := by
  cases d <;> rfl

/-- Two records with the same properties are equal. -/
theorem ext_get {record record' : ByDimension α} (h : ∀ d, record.get d = record'.get d) :
    record = record' := by
  cases record
  cases record'
  simpa [get] using
    And.intro (h .flatFee) (And.intro (h .energy) (And.intro (h .chargingTime) (h .parkingTime)))

end ByDimension

/-- `PricingDimensions`. -/
abbrev PricingDimensions := ByDimension PricingDimension

/-- `PricedConsumptionData`. -/
abbrev PricedConsumptionData := ByDimension PricedDimensionData

/-- `PricingRestriction`; times of day are texts such as `"08:30"`. -/
structure PricingRestriction where
  daysOfWeek : Option (List ℕ) := none
  timeFrom : Option String := none
  timeTo : Option String := none
  minEnergyKWh : Option ℚ := none
  maxEnergyKWh : Option ℚ := none
  minDurationSecs : Option ℚ := none
  maxDurationSecs : Option ℚ := none
  deriving DecidableEq, Repr

/-- `ResolvedPricingDefinition`. -/
structure ResolvedPricingDefinition where
  name : String := ""
  restrictions : Option PricingRestriction := none
  dimensions : PricingDimensions := {}
  deriving DecidableEq, Repr

/-- `ConsumptionPricerContext`. -/
structure ConsumptionPricerContext where
  flatFeeAlreadyPriced : Bool := false
  sessionStartDate : Timestamp
  lastAbsorbedConsumption : Option ℚ := none
  lastAbsorbedChargingTime : Option Timestamp := none
  lastAbsorbedParkingTime : Option Timestamp := none
  timezone : Option String := none
  deriving DecidableEq, Repr

/-- `ResolvedPricingModel`. -/
structure ResolvedPricingModel where
  pricingDefinitions : List ResolvedPricingDefinition
  pricerContext : ConsumptionPricerContext
  deriving DecidableEq, Repr

/-- `ConsumptionChunk`. -/
structure ConsumptionChunk where
  startedAt : Timestamp
  endedAt : Timestamp
  consumptionWh : ℚ
  cumulatedConsumptionWh : ℚ
  totalDurationSecs : ℚ
  totalInactivitySecs : ℚ
  deriving DecidableEq, Repr

/-- The properties of a `Consumption` that the pricer reads. -/
structure PricerInput extends ConsumptionChunk where
  inactivitySecs : ℚ := 0
  deriving DecidableEq, Repr

/-- `PricingSource`. -/
inductive PricingSource
  | simple
  | convergentCharging
  | ocpi
  deriving DecidableEq, Repr

/-- `PricedConsumption`. -/
structure PricedConsumption where
  amount : ℚ
  cumulatedAmount : ℚ
  roundedAmount : ℚ
  cumulatedRoundedAmount : ℚ
  currencyCode : String
  pricingSource : PricingSource
  pricingModel : Option ResolvedPricingModel := none
  deriving DecidableEq, Repr

/-- Replacing a member of a list changes the sum of a figure by what it changes there. -/
theorem sum_map_set {α : Type} {members : List α} {index : ℕ} {member : α}
    (present : members[index]? = some member) (member' : α) (figure : α → ℚ) :
    ((members.set index member').map figure).sum =
      (members.map figure).sum + (figure member' - figure member) := by
  obtain ⟨inside, rfl⟩ := List.getElem?_eq_some_iff.mp present
  have inside' : index < (members.map figure).length := by
    rwa [List.length_map]
  rw [List.map_set, List.sum_set', dif_pos inside', List.getElem_map]
  ring

namespace ResolvedPricingDefinition

/-- What the definition has priced so far in a dimension. -/
def pricedData (definition : ResolvedPricingDefinition) (d : DimensionType) :
    Option PricedDimensionData :=
  (definition.dimensions.get d).bind PricingDimension.pricedData

end ResolvedPricingDefinition

/-- A model as it is resolved at the start of a session: nothing has been priced, and
no energy has been absorbed. -/
structure ResolvedPricingModel.Fresh (model : ResolvedPricingModel) : Prop where
  notPriced : ∀ definition ∈ model.pricingDefinitions, ∀ d, definition.pricedData d = none
  notAbsorbed : model.pricerContext.lastAbsorbedConsumption = none

end EvServer
