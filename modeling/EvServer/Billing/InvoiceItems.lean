import EvServer.Ocpp.Transaction
import EvServer.Pricing.Helper

/-!
# Invoice items (`StripeBillingIntegration`, `PricingEngine.extractFinalPricingData`)

A transaction is billed with one invoice item per dimension and a header.  What is
billed is extracted from the pricing model of the transaction.  The feature toggle
`BILLING_SHOW_PRICING_DETAIL` decides whether each definition is billed with items of its
own; it is switched off, so the definitions are merged first.

Descriptions, taxes and the metadata of an item are left out; a header without a text is
not created.
-/

namespace EvServer

/-- `Feature`. -/
inductive Feature
  | billingPreventCustomerDeletion
  | billingShowPricingDetail
  deriving DecidableEq, Repr

namespace FeatureToggles

/-- `FeatureToggles.activeFeatures`, with the detail commented out. -/
def activeFeatures : List Feature := [.billingPreventCustomerDeletion]

/-- `FeatureToggles.isFeatureActive`. -/
def isFeatureActive (feature : Feature) : Bool := activeFeatures.contains feature

end FeatureToggles

namespace PricingEngine

/-- `extractFinalPricedConsumptionData`: nothing when the definition priced nothing. -/
def extractFinalPricedConsumptionData (pricingDefinition : ResolvedPricingDefinition) :
    Option PricedConsumptionData :=
  let flatFee := pricingDefinition.pricedData .flatFee
  let energy := pricingDefinition.pricedData .energy
  let chargingTime := pricingDefinition.pricedData .chargingTime
  let parkingTime := pricingDefinition.pricedData .parkingTime
  if flatFee.isSome || energy.isSome || chargingTime.isSome || parkingTime.isSome then
    some { flatFee := flatFee, energy := energy, chargingTime := chargingTime,
           parkingTime := parkingTime }
  else none

/-- `PricingEngine.extractFinalPricingData`; a transaction of the former pricing has no
model. -/
def extractFinalPricingData (pricingModel : Option ResolvedPricingModel) :
    List PricedConsumptionData :=
  match pricingModel with
  | none => []
  | some pricingModel =>
      pricingModel.pricingDefinitions.filterMap extractFinalPricedConsumptionData

end PricingEngine

/-- An invoice item; the header has no dimension. -/
structure InvoiceItem where
  dimension : Option DimensionType
  /-- Distinguishes the items of the definitions. -/
  counter : ℕ
  /-- In cents. -/
  amount : ℚ
  deriving DecidableEq, Repr

namespace StripeBillingIntegration

/-- `extractTransactionPricingData`. -/
def extractTransactionPricingData (transaction : Transaction) : List PricedConsumptionData :=
  let pricingData := PricingEngine.extractFinalPricingData transaction.pricingModel
  if FeatureToggles.isFeatureActive .billingShowPricingDetail then pricingData
  -- Accumulate data per dimensions = less details, less disputes
  else [PricingHelper.accumulatePricedConsumption pricingData]

/-- `createStripeInvoiceItem4Dimension`. -/
def createStripeInvoiceItem4Dimension (pricedData : PricedConsumptionData) (counter : ℕ)
    (dimension : DimensionType) : Option InvoiceItem :=
  match pricedData.get dimension with
  | none => none
  | some dimensionData =>
      if dimensionData.amount = 0 ∨ dimensionData.quantity = 0 then none
      else some
        { dimension := some dimension
          counter := counter
          amount := dimensionData.roundedAmount * 100 }

/-- `createStripeInvoiceItems4PricingConsumptionData`. -/
def createStripeInvoiceItems4PricingConsumptionData (pricedData : PricedConsumptionData)
    (counter : ℕ) : List InvoiceItem :=
  [.flatFee, .chargingTime, .energy, .parkingTime].filterMap
    (createStripeInvoiceItem4Dimension pricedData counter)

/-- `createStripeInvoiceItemHeader`. -/
def createStripeInvoiceItemHeader (headerDescription : String) : List InvoiceItem :=
  if headerDescription = "" then [] else [{ dimension := none, counter := 0, amount := 0 }]

/-- `createStripeInvoiceItems`. -/
def createStripeInvoiceItems (headerDescription : String)
    (pricingData : List PricedConsumptionData) : List InvoiceItem :=
  createStripeInvoiceItemHeader headerDescription ++
    (pricingData.mapIdx fun index pricedData =>
      createStripeInvoiceItems4PricingConsumptionData pricedData (index + 1)).flatten

/-- What the customer is billed, in cents. -/
def billedCents (items : List InvoiceItem) : ℚ := (items.map InvoiceItem.amount).sum

end StripeBillingIntegration

end EvServer
