import EvServer.Pricing.Types

/-!
# Accumulating priced data (`PricingHelper`)

Amounts are accumulated in two ways.  `accumulatePricingDimensions` sums what the
definitions of a model have priced, each with its own truncated amount; it gives the
price shown to the user.  `accumulatePricedConsumption` merges several priced data
into one, dimension by dimension, and truncates the amount of the result.
-/

namespace EvServer

namespace PricingHelper

/-- `{ cumulatedAmount, cumulatedRoundedAmount }`. -/
structure CumulatedAmounts where
  cumulatedAmount : ℚ
  cumulatedRoundedAmount : ℚ
  deriving DecidableEq, Repr

/-- `PricingHelper.accumulatePricingDimension`. -/
def accumulatePricingDimension (pricingDimensions : List PricingDimensions)
    (dimensionType : DimensionType) : CumulatedAmounts :=
  pricingDimensions.foldl
    (fun cumulated pricingDimension =>
      let pricedData := (pricingDimension.get dimensionType).bind PricingDimension.pricedData
      { cumulatedAmount :=
          cumulated.cumulatedAmount + (pricedData.map PricedDimensionData.amount).getD 0
        cumulatedRoundedAmount :=
          cumulated.cumulatedRoundedAmount +
            (pricedData.map PricedDimensionData.roundedAmount).getD 0 })
    ⟨0, 0⟩

/-- `PricingHelper.accumulatePricingDimensions`. -/
def accumulatePricingDimensions (pricingDimensions : List PricingDimensions) :
    CumulatedAmounts :=
  let flatFee := accumulatePricingDimension pricingDimensions .flatFee
  let energy := accumulatePricingDimension pricingDimensions .energy
  let chargingTime := accumulatePricingDimension pricingDimensions .chargingTime
  let parkingTime := accumulatePricingDimension pricingDimensions .parkingTime
  { cumulatedAmount :=
      0 + flatFee.cumulatedAmount + energy.cumulatedAmount + chargingTime.cumulatedAmount +
        parkingTime.cumulatedAmount
    cumulatedRoundedAmount :=
      0 + flatFee.cumulatedRoundedAmount + energy.cumulatedRoundedAmount +
        chargingTime.cumulatedRoundedAmount + parkingTime.cumulatedRoundedAmount }

/-- `PricingHelper.accumulatePricedConsumptionData` for the data of one dimension. -/
def accumulatePricedConsumptionData (accumulatedData pricedData : Option PricedDimensionData) :
    Option PricedDimensionData :=
  match pricedData with
  | none => accumulatedData
  | some priced =>
      let accumulated := accumulatedData.getD {}
      -- Without `amountAsDecimal` the amount is used instead.
      let persistedAmount := priced.amountAsDecimal.getD priced.amount
      let amountAsDecimal := accumulated.amountAsDecimal.getD 0 + persistedAmount
      some
        { accumulated with
          quantity := accumulated.quantity + priced.quantity
          amountAsDecimal := some amountAsDecimal
          amount := amountAsDecimal
          roundedAmount := Utils.truncTo amountAsDecimal 2 }

/-- `PricingHelper.accumulatePricedConsumption`. -/
def accumulatePricedConsumption (pricingData : List PricedConsumptionData) :
    PricedConsumptionData :=
  pricingData.foldl
    (fun accumulated pricingConsumptionData =>
      { flatFee := accumulatePricedConsumptionData accumulated.flatFee
          pricingConsumptionData.flatFee
        energy := accumulatePricedConsumptionData accumulated.energy pricingConsumptionData.energy
        chargingTime := accumulatePricedConsumptionData accumulated.chargingTime
          pricingConsumptionData.chargingTime
        parkingTime := accumulatePricedConsumptionData accumulated.parkingTime
          pricingConsumptionData.parkingTime })
    {}

/-! ## What accumulates -/

/-- Accumulating a dimension sums what the definitions have priced in it. -/
theorem accumulatePricingDimension_eq (definitions : List ResolvedPricingDefinition)
    (d : DimensionType) :
    accumulatePricingDimension (definitions.map ResolvedPricingDefinition.dimensions) d =
      { cumulatedAmount := (definitions.map fun definition =>
          ((definition.pricedData d).map PricedDimensionData.amount).getD 0).sum
        cumulatedRoundedAmount := (definitions.map fun definition =>
          ((definition.pricedData d).map PricedDimensionData.roundedAmount).getD 0).sum } := by
  unfold accumulatePricingDimension
  have general : ∀ start : CumulatedAmounts,
      (definitions.map ResolvedPricingDefinition.dimensions).foldl
          (fun cumulated pricingDimension =>
            let pricedData := (pricingDimension.get d).bind PricingDimension.pricedData
            { cumulatedAmount :=
                cumulated.cumulatedAmount + (pricedData.map PricedDimensionData.amount).getD 0
              cumulatedRoundedAmount :=
                cumulated.cumulatedRoundedAmount +
                  (pricedData.map PricedDimensionData.roundedAmount).getD 0 })
          start =
        { cumulatedAmount := start.cumulatedAmount + (definitions.map fun definition =>
            ((definition.pricedData d).map PricedDimensionData.amount).getD 0).sum
          cumulatedRoundedAmount := start.cumulatedRoundedAmount +
            (definitions.map fun definition =>
              ((definition.pricedData d).map PricedDimensionData.roundedAmount).getD 0).sum } := by
    induction definitions with
    | nil =>
        intro start
        simp
    | cons definition rest ih =>
        intro start
        rw [List.map_cons, List.foldl_cons, ih]
        simp only [List.map_cons, List.sum_cons, add_assoc]
        rfl
  rw [general]
  simp only [zero_add]

/-- The accumulated data of a dimension when so much has been accumulated: no data, or
data with the sums and the truncated amount. -/
def Accumulates (quantity amount : ℚ) : Option PricedDimensionData → Prop
  | none => quantity = 0 ∧ amount = 0
  | some data =>
      data.quantity = quantity ∧ data.amountAsDecimal = some amount ∧ data.amount = amount ∧
        data.roundedAmount = Utils.truncTo amount 2

/-- Accumulating the data of a definition adds its quantity and its amount. -/
theorem accumulates_accumulatePricedConsumptionData {quantity amount : ℚ}
    {accumulated : Option PricedDimensionData} (sums : Accumulates quantity amount accumulated)
    {priced : Option PricedDimensionData}
    (exactly : ∀ data ∈ priced, data.amountAsDecimal = some data.amount) :
    Accumulates (quantity + (priced.map PricedDimensionData.quantity).getD 0)
      (amount + (priced.map PricedDimensionData.amount).getD 0)
      (accumulatePricedConsumptionData accumulated priced) := by
  cases priced with
  | none => simpa [accumulatePricedConsumptionData] using sums
  | some data =>
      have decimal := exactly data rfl
      cases accumulated with
      | none =>
          obtain ⟨rfl, rfl⟩ := sums
          refine ⟨rfl, ?_, ?_, ?_⟩ <;> simp [decimal]
      | some accumulatedData =>
          obtain ⟨rfl, hdecimal, rfl, -⟩ := sums
          refine ⟨rfl, ?_, ?_, ?_⟩ <;> simp [decimal, hdecimal]

/-- Accumulating is done dimension by dimension. -/
theorem get_foldl_accumulate (pricingData : List PricedConsumptionData)
    (accumulated : PricedConsumptionData) (d : DimensionType) :
    (pricingData.foldl (fun accumulated pricingConsumptionData =>
      { flatFee := accumulatePricedConsumptionData accumulated.flatFee
          pricingConsumptionData.flatFee
        energy := accumulatePricedConsumptionData accumulated.energy pricingConsumptionData.energy
        chargingTime := accumulatePricedConsumptionData accumulated.chargingTime
          pricingConsumptionData.chargingTime
        parkingTime := accumulatePricedConsumptionData accumulated.parkingTime
          pricingConsumptionData.parkingTime }) accumulated).get d =
      (pricingData.map fun pricedData => pricedData.get d).foldl accumulatePricedConsumptionData
        (accumulated.get d) := by
  induction pricingData generalizing accumulated with
  | nil => rfl
  | cons pricedData rest ih =>
      rw [List.foldl_cons, ih, List.map_cons, List.foldl_cons]
      cases d <;> rfl

end PricingHelper

end EvServer
