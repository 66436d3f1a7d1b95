import EvServer.Billing.InvoiceItems
import EvServer.Lib.Runs
import EvServer.Ocpp.StopTransaction
import EvServer.Ocpp.TransactionStorage
import EvServer.Pricing.ExactAmounts

/-!
# The invoice and the price shown to the user

The price shown to the user adds up the amounts of every definition and dimension, each
truncated to cents.  The invoice adds up the dimensions, and truncates each after the
definitions have been merged.  `billedCents_eq_iff` says when the two agree at the end
of a session: exactly when both drop the same fractions of a cent.
-/

namespace EvServer

/-! ## Amounts and quantities of a model -/

namespace ResolvedPricingDefinition

/-- The exact amount of a definition in a dimension, in cents. -/
def cents (definition : ResolvedPricingDefinition) (d : DimensionType) : ℚ :=
  ((definition.pricedData d).map PricedDimensionData.amount).getD 0 * 100

/-- The quantity of a definition in a dimension. -/
def quantity (definition : ResolvedPricingDefinition) (d : DimensionType) : ℚ :=
  ((definition.pricedData d).map PricedDimensionData.quantity).getD 0

end ResolvedPricingDefinition

namespace ResolvedPricingModel

/-- The exact amounts of the definitions in a dimension, in cents. -/
def cents (model : ResolvedPricingModel) (d : DimensionType) : List ℚ :=
  model.pricingDefinitions.map fun definition => definition.cents d

/-- The quantity of all definitions in a dimension. -/
def quantity (model : ResolvedPricingModel) (d : DimensionType) : ℚ :=
  (model.pricingDefinitions.map fun definition => definition.quantity d).sum

/-- The fractions of a cent that are dropped from the price shown to the user. -/
def centsNotShown (model : ResolvedPricingModel) : ℚ :=
  (DimensionType.all.map fun d => ((model.cents d).map Rounding.remainder).sum).sum

/-- What is dropped from the invoice: the fraction of a cent of every dimension, and all
of a dimension whose quantities cancel out. -/
def centsNotBilled (model : ResolvedPricingModel) : ℚ :=
  (DimensionType.all.map fun d =>
    if model.quantity d = 0 then (model.cents d).sum
    else Rounding.remainder (model.cents d).sum).sum

end ResolvedPricingModel

/-! ## The two totals -/

section Totals

variable {model : ResolvedPricingModel} {definition : ResolvedPricingDefinition}

/-- A truncated amount is the whole cents of the exact one. -/
theorem roundedAmount_mul_hundred (exactly : definition.PricesExactly) (d : DimensionType) :
    ((definition.pricedData d).map PricedDimensionData.roundedAmount).getD 0 * 100 =
      Rounding.truncate (definition.cents d) := by
  rw [ResolvedPricingDefinition.cents]
  cases hdata : definition.pricedData d with
  | none => simp
  | some data =>
      have rounded := (exactly d data hdata).2
      have whole := Utils.truncTo_mul_pow data.amount 2
      norm_num at whole
      simp only [Option.map_some, Option.getD_some, rounded, whole]

/-- The truncated amounts of the definitions and what they drop are the exact amounts. -/
theorem sum_roundedAmount_mul_hundred {definitions : List ResolvedPricingDefinition}
    (exactly : ∀ definition ∈ definitions, definition.PricesExactly) (d : DimensionType) :
    (definitions.map fun definition =>
        ((definition.pricedData d).map PricedDimensionData.roundedAmount).getD 0).sum * 100 +
      ((definitions.map fun definition => definition.cents d).map Rounding.remainder).sum =
      (definitions.map fun definition => definition.cents d).sum := by
  induction definitions with
  | nil => simp
  | cons definition rest ih =>
      rw [List.forall_mem_cons] at exactly
      have first := roundedAmount_mul_hundred exactly.1 d
      have split := Rounding.truncate_add_remainder (definition.cents d)
      have others := ih exactly.2
      simp only [List.map_cons, List.sum_cons]
      linarith

/-- The price shown to the user, in cents, is the exact amount less what is not shown. -/
theorem cumulatedRoundedAmount_add_centsNotShown (exactly : model.PricesExactly) :
    (BuiltInPricingIntegration.computeCumulatedAmount model).cumulatedRoundedAmount * 100 +
        model.centsNotShown =
      (DimensionType.all.map fun d => (model.cents d).sum).sum := by
  have dimension : ∀ d, (PricingHelper.accumulatePricingDimension
      (model.pricingDefinitions.map ResolvedPricingDefinition.dimensions)
        d).cumulatedRoundedAmount * 100 + ((model.cents d).map Rounding.remainder).sum =
      (model.cents d).sum := by
    intro d
    rw [PricingHelper.accumulatePricingDimension_eq]
    exact sum_roundedAmount_mul_hundred exactly d
  have flatFee := dimension .flatFee
  have energy := dimension .energy
  have chargingTime := dimension .chargingTime
  have parkingTime := dimension .parkingTime
  simp only [BuiltInPricingIntegration.computeCumulatedAmount,
    PricingHelper.accumulatePricingDimensions, ResolvedPricingModel.centsNotShown,
    DimensionType.all, List.map_cons, List.map_nil, List.sum_cons, List.sum_nil]
  linarith

/-! ### The invoice -/

/-- What is extracted of a definition is its priced data; a definition that is left out
has none. -/
theorem extractFinalPricedConsumptionData_get (definition : ResolvedPricingDefinition)
    (d : DimensionType) :
    (PricingEngine.extractFinalPricedConsumptionData definition).elim none (·.get d) =
      definition.pricedData d := by
  unfold PricingEngine.extractFinalPricedConsumptionData
  dsimp only
  split
  · cases d <;> rfl
  · rename_i nothing
    simp only [Bool.or_eq_true, not_or, Bool.not_eq_true, Option.isSome_eq_false_iff,
      Option.isNone_iff_eq_none] at nothing
    cases d <;> simp [nothing]

open PricingHelper in
/-- The definitions of a model are accumulated with their quantities and amounts. -/
theorem accumulates_extractFinalPricingData {definitions : List ResolvedPricingDefinition}
    (exactly : ∀ definition ∈ definitions, definition.PricesExactly) (d : DimensionType)
    {quantity amount : ℚ} {accumulated : Option PricedDimensionData}
    (sums : Accumulates quantity amount accumulated) :
    Accumulates (quantity + (definitions.map fun definition => definition.quantity d).sum)
      (amount + (definitions.map fun definition => definition.cents d).sum / 100)
      (((definitions.filterMap PricingEngine.extractFinalPricedConsumptionData).map
        fun pricedData => pricedData.get d).foldl accumulatePricedConsumptionData accumulated) := by
  induction definitions generalizing quantity amount accumulated with
  | nil => simpa using sums
  | cons definition rest ih =>
      rw [List.forall_mem_cons] at exactly
      have priced := extractFinalPricedConsumptionData_get definition d
      have next := accumulates_accumulatePricedConsumptionData sums
        fun data hdata => (exactly.1 d data hdata).1
      have others := ih exactly.2 next
      have total : amount + ((definition :: rest).map fun definition => definition.cents d).sum /
          100 = amount + ((definition.pricedData d).map PricedDimensionData.amount).getD 0 +
            (rest.map fun definition => definition.cents d).sum / 100 := by
        rw [List.map_cons, List.sum_cons, ResolvedPricingDefinition.cents]
        ring
      rw [List.map_cons, List.sum_cons, ← add_assoc, total]
      cases extracted : PricingEngine.extractFinalPricedConsumptionData definition with
      | none =>
          rw [extracted] at priced
          rw [List.filterMap_cons_none extracted]
          rw [← priced] at others
          simpa [accumulatePricedConsumptionData, ResolvedPricingDefinition.quantity, ← priced]
            using others
      | some pricedData =>
          rw [extracted] at priced
          rw [List.filterMap_cons_some extracted, List.map_cons, List.foldl_cons]
          change pricedData.get d = _ at priced
          rw [priced]
          exact others

namespace StripeBillingIntegration

/-- What a dimension is billed, in cents. -/
def dimensionCents (pricedData : PricedConsumptionData) (d : DimensionType) : ℚ :=
  ((createStripeInvoiceItem4Dimension pricedData 1 d).map InvoiceItem.amount).getD 0

/-- A dimension is billed its exact amount less the fraction of a cent, and nothing when
the quantities cancel out. -/
theorem dimensionCents_add {pricedData : PricedConsumptionData} {d : DimensionType}
    {quantity amount : ℚ} (sums : PricingHelper.Accumulates quantity amount (pricedData.get d)) :
    dimensionCents pricedData d +
        (if quantity = 0 then amount * 100 else Rounding.remainder (amount * 100)) =
      amount * 100 := by
  unfold dimensionCents createStripeInvoiceItem4Dimension
  cases hdata : pricedData.get d with
  | none =>
      rw [hdata] at sums
      obtain ⟨rfl, rfl⟩ := sums
      simp
  | some data =>
      rw [hdata] at sums
      obtain ⟨rfl, -, rfl, rounded⟩ := sums
      have whole := Utils.truncTo_mul_pow data.amount 2
      norm_num at whole
      have split := Rounding.truncate_add_remainder (data.amount * 100)
      by_cases billed : data.amount = 0 ∨ data.quantity = 0
      · rcases billed with zero | zero <;> simp [zero]
      · rw [not_or] at billed
        simp only [billed.1, billed.2, or_self, if_false, Option.map_some, Option.getD_some,
          rounded, whole, split]

/-- The items of one set of priced data are billed what its dimensions are. -/
theorem billedCents_createStripeInvoiceItems (headerDescription : String)
    (pricedData : PricedConsumptionData) :
    billedCents (createStripeInvoiceItems headerDescription [pricedData]) =
      (DimensionType.all.map (dimensionCents pricedData)).sum := by
  have header : (createStripeInvoiceItemHeader headerDescription).map InvoiceItem.amount = [] ∨
      (createStripeInvoiceItemHeader headerDescription).map InvoiceItem.amount = [0] := by
    unfold createStripeInvoiceItemHeader
    split
    · exact Or.inl rfl
    · exact Or.inr rfl
  have noHeader : ((createStripeInvoiceItemHeader headerDescription).map
      InvoiceItem.amount).sum = 0 := by
    rcases header with none | zero
    · rw [none, List.sum_nil]
    · rw [zero, List.sum_singleton]
  have items : ∀ dimensions : List DimensionType,
      ((dimensions.filterMap (createStripeInvoiceItem4Dimension pricedData 1)).map
        InvoiceItem.amount).sum = (dimensions.map (dimensionCents pricedData)).sum := by
    intro dimensions
    induction dimensions with
    | nil => rfl
    | cons d rest ih =>
        rw [List.filterMap_cons, List.map_cons, List.sum_cons, dimensionCents, ← ih]
        cases createStripeInvoiceItem4Dimension pricedData 1 d with
        | none => exact (zero_add _).symm
        | some item => rfl
  rw [billedCents, createStripeInvoiceItems, List.map_append, List.sum_append, noHeader, zero_add]
  show ((createStripeInvoiceItems4PricingConsumptionData pricedData 1 ++ []).map
    InvoiceItem.amount).sum = _
  rw [List.append_nil, createStripeInvoiceItems4PricingConsumptionData, items]
  simp only [DimensionType.all, List.map_cons, List.map_nil, List.sum_cons, List.sum_nil]
  ring

/-- The invoice, in cents, is the exact amount less what is not billed. -/
theorem billedCents_add_centsNotBilled {transaction : Transaction}
    (pricingModel : transaction.pricingModel = some model) (exactly : model.PricesExactly)
    (headerDescription : String) :
    billedCents (createStripeInvoiceItems headerDescription
        (extractTransactionPricingData transaction)) + model.centsNotBilled =
      (DimensionType.all.map fun d => (model.cents d).sum).sum := by
  have merged : extractTransactionPricingData transaction =
      [PricingHelper.accumulatePricedConsumption
        (model.pricingDefinitions.filterMap
          PricingEngine.extractFinalPricedConsumptionData)] := by
    rw [extractTransactionPricingData, pricingModel]
    rfl
  rw [merged, billedCents_createStripeInvoiceItems]
  have dimension : ∀ d, dimensionCents (PricingHelper.accumulatePricedConsumption
      (model.pricingDefinitions.filterMap PricingEngine.extractFinalPricedConsumptionData)) d +
        (if model.quantity d = 0 then (model.cents d).sum
          else Rounding.remainder (model.cents d).sum) = (model.cents d).sum := by
    intro d
    have sums : PricingHelper.Accumulates (0 + model.quantity d) (0 + (model.cents d).sum / 100)
        ((PricingHelper.accumulatePricedConsumption (model.pricingDefinitions.filterMap
          PricingEngine.extractFinalPricedConsumptionData)).get d) := by
      rw [PricingHelper.accumulatePricedConsumption, PricingHelper.get_foldl_accumulate,
        ByDimension.get_empty]
      exact accumulates_extractFinalPricingData exactly d ⟨rfl, rfl⟩
    rw [zero_add, zero_add] at sums
    have total := dimensionCents_add sums
    rwa [div_mul_cancel₀ _ (by norm_num : (100 : ℚ) ≠ 0)] at total
  have flatFee := dimension .flatFee
  have energy := dimension .energy
  have chargingTime := dimension .chargingTime
  have parkingTime := dimension .parkingTime
  simp only [ResolvedPricingModel.centsNotBilled, DimensionType.all, List.map_cons,
    List.map_nil, List.sum_cons, List.sum_nil]
  linarith

end StripeBillingIntegration

end Totals

/-! ## The life of a priced transaction -/

/-- What happens to a transaction that is priced. -/
inductive PricingEvent
  /-- A consumption is priced while the transaction runs, or the last one as it stops. -/
  | price (consumption : Consumption) (action : TransactionAction)
  /-- The transaction gets its `stop` part. -/
  | stop (chargingStation : ChargingStation) (stopTransaction : OCPPStopTransactionRequest)
      (userID : Option String) (tagId : String) (isSoftStop : Bool)
  /-- The extra inactivity is priced after the stop. -/
  | extraInactivity (lastConsumption : Option Consumption)
  /-- Anything that touches neither the model nor a price, such as storing the
  transaction. -/
  | other

namespace BuiltInPricingIntegration

variable (settings : Settings)

/-- The parts of a transaction that say what it costs are the same; while it runs, this
is the current price, and then that of the `stop` part. -/
structure SamePrice (transaction transaction' : Transaction) : Prop where
  pricingModel : transaction'.pricingModel = transaction.pricingModel
  shown : transaction.stop = none →
    transaction'.currentCumulatedRoundedPrice = transaction.currentCumulatedRoundedPrice
  stop : transaction'.stop.map TransactionStop.roundedPrice =
    transaction.stop.map TransactionStop.roundedPrice

/-- The transaction as its start leaves it: it was created without a model, and its first
consumption was priced with a model resolved for it. -/
def Started (transaction : Transaction) : Prop :=
  ∃ created consumption, created.pricingModel = none ∧ created.stop = none ∧
    (settings.resolvePricingContext created).Fresh ∧
    (OCPPUtils.processTransactionPricing (some (pricingImpl settings)) created consumption
      .start).toOption.map Prod.fst = some transaction

/-- The step relation of a priced transaction. -/
def Step (transaction : Transaction) (event : PricingEvent) (transaction' : Transaction) : Prop :=
  match event with
  | .price consumption action =>
      (action = .update ∨ action = .stop) ∧ transaction.stop = none ∧
        (OCPPUtils.processTransactionPricing (some (pricingImpl settings)) transaction
          consumption action).toOption.map Prod.fst = some transaction'
  | .stop chargingStation stopTransaction userID tagId isSoftStop =>
      transaction.stop = none ∧
        transaction' = OCPPUtils.updateTransactionWithStopTransaction transaction
          chargingStation stopTransaction userID tagId isSoftStop
  | .extraInactivity lastConsumption =>
      (OCPPUtils.buildAndPriceExtraConsumptionInactivity (some (pricingImpl settings))
        transaction lastConsumption).toOption.map Prod.fst = some transaction'
  | .other => SamePrice transaction transaction'

/-- The invariant: the transaction shows the price of its model, in its `stop` part once
it has one. -/
structure StopsAtPrice (model : ResolvedPricingModel) (transaction : Transaction) : Prop
    extends PricedWith model transaction where
  shown : transaction.stop = none → transaction.currentCumulatedRoundedPrice =
    (computeCumulatedAmount model).cumulatedRoundedAmount
  stop : ∀ stop ∈ transaction.stop,
    stop.roundedPrice = (computeCumulatedAmount model).cumulatedRoundedAmount

variable {settings} {transaction transaction' : Transaction} {event : PricingEvent}

/-- A running transaction that shows its price keeps the invariant. -/
theorem ShowsPrice.stopsAtPrice {model : ResolvedPricingModel}
    (shows_ : ShowsPrice model transaction) (running : transaction.stop = none) :
    StopsAtPrice model transaction := by
  refine ⟨shows_.toPricedWith, fun _ => shows_.shown, ?_⟩
  intro stop hstop
  rw [running] at hstop
  cases hstop

theorem stopsAtPrice_of_started (started : Started settings transaction) :
    ∃ model, StopsAtPrice model transaction := by
  obtain ⟨created, consumption, noModel, noStop, fresh, h⟩ := started
  obtain ⟨⟨priced, consumption'⟩, hcall, rfl⟩ := Outcome.exists_ok_of_toOption_map h
  have exactly : (created.pricingModel.getD
      (settings.resolvePricingContext created)).PricesExactly := by
    rw [noModel]
    exact fresh.pricesExactly
  obtain ⟨model, shows_⟩ := showsPrice_start hcall exactly
  obtain ⟨pricedConsumption, -, hpriced⟩ := Outcome.bind_eq_ok.mp hcall
  have stays : priced.stop = created.stop := by
    cases pricedConsumption <;> cases hpriced <;> rfl
  exact ⟨model, shows_.stopsAtPrice (stays.trans noStop)⟩

theorem StopsAtPrice.step {model : ResolvedPricingModel} (inv : StopsAtPrice model transaction)
    (step : Step settings transaction event transaction') :
    ∃ model', StopsAtPrice model' transaction' := by
  cases event with
  | price consumption action =>
      obtain ⟨later, running, h⟩ := step
      obtain ⟨⟨priced, consumption'⟩, hcall, rfl⟩ := Outcome.exists_ok_of_toOption_map h
      have notStart : action ≠ .start := by rcases later with rfl | rfl <;> decide
      obtain ⟨⟨model', shows_⟩, stays⟩ := showsPrice_later hcall notStart inv.toPricedWith
      exact ⟨model', shows_.stopsAtPrice (stays.trans running)⟩
  | stop chargingStation stopTransaction userID tagId isSoftStop =>
      obtain ⟨running, rfl⟩ := step
      refine ⟨model, ⟨inv.pricingModel, inv.exactly⟩, ?_, ?_⟩
      · intro stopped
        cases stopped
      · rintro stop ⟨⟩
        exact inv.shown running
  | extraInactivity lastConsumption =>
      obtain ⟨⟨priced, saved⟩, h, rfl⟩ := Outcome.exists_ok_of_toOption_map step
      unfold OCPPUtils.buildAndPriceExtraConsumptionInactivity at h
      split at h
      · cases h
        exact ⟨model, inv⟩
      · obtain ⟨⟨ended, consumption'⟩, hended, h⟩ := Outcome.bind_eq_ok.mp h
        obtain ⟨⟨model', current⟩, -⟩ := showsPrice_later hended (by decide) inv.toPricedWith
        cases h
        refine ⟨model', ⟨current.pricingModel, current.exactly⟩, fun _ => current.shown, ?_⟩
        intro stop hstop
        obtain ⟨_, -, rfl⟩ := Option.map_eq_some_iff.mp hstop
        exact current.shown
  | other =>
      refine ⟨model, ⟨step.pricingModel.trans inv.pricingModel, inv.exactly⟩, ?_, ?_⟩
      · intro running'
        have same := step.stop
        rw [running'] at same
        have running : transaction.stop = none := Option.map_eq_none_iff.mp same.symm
        exact (step.shown running).trans (inv.shown running)
      · intro stop hstop
        have same := step.stop
        rw [hstop, Option.map_some] at same
        obtain ⟨old, hold, price⟩ := Option.map_eq_some_iff.mp same.symm
        rw [← price, inv.stop old hold]

/-- **The invoice and the price shown to the user.**  For a transaction priced by the
built-in pricing from its start on and completed, the invoice items add up to the price
of its `stop` part exactly when the invoice drops what the price drops. -/
theorem billedCents_eq_iff {started completed : Transaction} {events : List PricingEvent}
    {stop : TransactionStop} (start : Started settings started)
    (run : Transition.Run (Step settings) started events completed)
    (stopped : completed.stop = some stop) (headerDescription : String) :
    ∃ model, completed.pricingModel = some model ∧
      (StripeBillingIntegration.billedCents
          (StripeBillingIntegration.createStripeInvoiceItems headerDescription
            (StripeBillingIntegration.extractTransactionPricingData completed)) =
          100 * stop.roundedPrice ↔
        model.centsNotBilled = model.centsNotShown) := by
  have inv : ∃ model, StopsAtPrice model completed := by
    refine run.invariant (I := fun transaction => ∃ model, StopsAtPrice model transaction)
      (stopsAtPrice_of_started start) ?_
    rintro _ _ _ ⟨model, inv⟩ step
    exact inv.step step
  obtain ⟨model, inv⟩ := inv
  have shown := cumulatedRoundedAmount_add_centsNotShown inv.exactly
  have billed := StripeBillingIntegration.billedCents_add_centsNotBilled inv.pricingModel
    inv.exactly headerDescription
  refine ⟨model, inv.pricingModel, ?_⟩
  rw [inv.stop stop stopped]
  constructor
  · intro equal
    linarith
  · intro equal
    linarith

/-- One tariff below 10 Wh and another of the same price from there on. -/
def exampleSettings : Settings :=
  { zoneTime := fun _ _ => ⟨1, ⟨0, 0, 0⟩⟩
    currency := "EUR"
    resolvePricingContext := fun transaction =>
      { pricingDefinitions :=
          [{ name := "Low"
             restrictions := some { maxEnergyKWh := some (1 / 100) }
             dimensions := { energy := some { active := true, price := 1 } } },
           { name := "High"
             dimensions := { energy := some { active := true, price := 1 } } },
           { name := "No Tariff"
             dimensions := { energy := some { active := true } } }]
        pricerContext := { sessionStartDate := transaction.timestamp } } }

/-- A transaction as it is created. -/
def exampleCreated : Transaction :=
  { id := 1, chargeBoxID := "CS-1", connectorId := 1, tagID := "TAG-1", meterStart := 0
    timestamp := 0 }

/-- A consumption of a minute. -/
def exampleConsumption (minute : ℤ) (consumptionWh cumulatedConsumptionWh : ℚ) : Consumption :=
  { transactionId := 1
    connectorId := 1
    chargeBoxID := "CS-1"
    startedAt := some (60000 * (minute - 1))
    endedAt := 60000 * minute
    consumptionWh := some consumptionWh
    cumulatedConsumptionWh := some cumulatedConsumptionWh
    totalDurationSecs := some (60 * minute)
    toPrice := some true }

/-- The transaction after a consumption has been priced. -/
def examplePriced (transaction : Transaction) (consumption : Consumption)
    (action : TransactionAction) : Transaction :=
  ((OCPPUtils.processTransactionPricing (some (pricingImpl exampleSettings)) transaction
    consumption action).toOption.map Prod.fst).getD transaction

/-- The session: nothing at the start, then twice 6 Wh. -/
def exampleStarted : Transaction := examplePriced exampleCreated (exampleConsumption 0 0 0) .start

def exampleRunning : Transaction :=
  examplePriced (examplePriced exampleStarted (exampleConsumption 1 6 6) .update)
    (exampleConsumption 2 6 12) .stop

def exampleStopped : Transaction :=
  OCPPUtils.updateTransactionWithStopTransaction exampleRunning { id := "CS-1" }
    { meterStop := 12, timestamp := 120000, transactionId := 1 } none "TAG-1" false

theorem exampleStarted_started : Started exampleSettings exampleStarted := by
  refine ⟨exampleCreated, exampleConsumption 0 0 0, rfl, rfl, ⟨?_, rfl⟩, by decide +kernel⟩
  intro definition mem d
  simp only [exampleSettings, List.mem_cons, List.not_mem_nil, or_false] at mem
  rcases mem with rfl | rfl | rfl <;> cases d <;> rfl

theorem exampleStopped_reached :
    ∃ events, Transition.Run (Step exampleSettings) exampleStarted events exampleStopped := by
  have first : Step exampleSettings exampleStarted (.price (exampleConsumption 1 6 6) .update)
      (examplePriced exampleStarted (exampleConsumption 1 6 6) .update) :=
    ⟨Or.inl rfl, by decide +kernel, by decide +kernel⟩
  have second : Step exampleSettings
      (examplePriced exampleStarted (exampleConsumption 1 6 6) .update)
      (.price (exampleConsumption 2 6 12) .stop) exampleRunning :=
    ⟨Or.inr rfl, by decide +kernel, by decide +kernel⟩
  have last : Step exampleSettings exampleRunning (.stop { id := "CS-1" }
      { meterStop := 12, timestamp := 120000, transactionId := 1 } none "TAG-1" false)
      exampleStopped :=
    ⟨by decide +kernel, rfl⟩
  exact ⟨_, ((Transition.Run.single first).snoc second).snoc last⟩

/-- The session with 6 Wh in either tariff. -/
theorem billedCents_eq_iff_two_tariffs :
    ∃ model, exampleStopped.pricingModel = some model ∧
      (StripeBillingIntegration.billedCents
          (StripeBillingIntegration.createStripeInvoiceItems "Session"
            (StripeBillingIntegration.extractTransactionPricingData exampleStopped)) =
          100 * ((exampleStopped.stop.map TransactionStop.roundedPrice).getD 0) ↔
        model.centsNotBilled = model.centsNotShown) := by
  obtain ⟨events, run⟩ := exampleStopped_reached
  exact billedCents_eq_iff exampleStarted_started run rfl "Session"

/-- Either tariff prices 0.6 cents: the user is shown nothing and billed one cent. -/
theorem billed_one_cent_shown_nothing :
    Started exampleSettings exampleStarted ∧
      (∃ events, Transition.Run (Step exampleSettings) exampleStarted events exampleStopped) ∧
      exampleStopped.stop.map TransactionStop.roundedPrice = some 0 ∧
      StripeBillingIntegration.billedCents
        (StripeBillingIntegration.createStripeInvoiceItems "Session"
          (StripeBillingIntegration.extractTransactionPricingData exampleStopped)) = 1 :=
  ⟨exampleStarted_started, exampleStopped_reached, by decide +kernel, by decide +kernel⟩

end BuiltInPricingIntegration

end EvServer
