import EvServer.Lib.Outcome
import EvServer.Lib.Register
import EvServer.Ocpp.Metering

/-!
# The energy register behind the meter values

What `createConsumptionsFromMeterValues` does with the readings of the energy
register is the reading of a `Register`: `register` is the mark a transaction holds
in `lastConsumption`, and `samples` is what the meter values of a request say about
it.  `createConsumption_cases` says what becomes of a single meter value, and
`createConsumption_spec` what it does to the register; the facts about requests go
through them.

The consumptions returned book the rises of the register by timestamp.  Two readings
of one timestamp share a consumption and the second one overwrites
`consumptionWh`, so the request adds up under the condition of
`sum_consumptionWh_eq_iff` only.
-/

namespace EvServer

open Register (Mark Sample)

/-- The mark a transaction holds of the energy register. -/
def Transaction.register (transaction : Transaction) : Mark Timestamp ℚ :=
  match transaction.lastConsumption with
  | none => ⟨none, transaction.meterStart⟩
  | some lastConsumption => ⟨some lastConsumption.timestamp, lastConsumption.value⟩

namespace OCPPUtils

/-- What a meter value says about the energy register. -/
def sample (meterValue : OCPPNormalizedMeterValue) : Sample Timestamp ℚ :=
  if isEnergyReading meterValue then
    .reading meterValue.timestamp (meterValueWh meterValue).value?
  else .other meterValue.timestamp

/-- What the meter values of a request say about the energy register. -/
def samples (meterValues : List OCPPNormalizedMeterValue) : List (Sample Timestamp ℚ) :=
  (meterValues.filter isValidMeterValue).map sample

/-- The book the consumptions of a request keep. -/
def booked (consumptions : List Consumption) : List (Timestamp × ℚ) :=
  consumptions.map fun consumption =>
    (consumption.endedAt, consumption.consumptionWh.getD 0)

@[simp] theorem sample_time (meterValue : OCPPNormalizedMeterValue) :
    (sample meterValue).time = meterValue.timestamp := by
  unfold sample
  split <;> rfl

@[simp] theorem sample_isReading (meterValue : OCPPNormalizedMeterValue) :
    (sample meterValue).isReading = isEnergyReading meterValue := by
  unfold sample
  split
  · rename_i h
    rw [h]
    rfl
  · rename_i h
    rw [Bool.not_eq_true] at h
    rw [h]
    rfl

/-- The code ignores a meter value exactly when the mark does not admit it. -/
theorem isInThePast_eq_false_iff (transaction : Transaction)
    (meterValue : OCPPNormalizedMeterValue) :
    isInThePast transaction meterValue = false ↔
      transaction.register.Admits (sample meterValue) := by
  unfold isInThePast Transaction.register Mark.Admits
  cases transaction.lastConsumption <;> simp

/-! ## One meter value -/

/-- What the handling of one meter value does to the transaction and says in the
consumption, as far as the energy register is concerned. -/
structure ReadsRegister (transaction : Transaction) (meterValue : OCPPNormalizedMeterValue)
    (transaction' : Transaction) (consumption : Consumption) : Prop where
  meterStart : transaction'.meterStart = transaction.meterStart
  timestamp : transaction'.timestamp = transaction.timestamp
  register : transaction'.register = transaction.register.next (sample meterValue)
  total : transaction'.currentTotalConsumptionWh =
    transaction.currentTotalConsumptionWh + transaction.register.rise (sample meterValue)
  endedAt : consumption.endedAt = meterValue.timestamp
  startedAt : consumption.startedAt =
    if isEnergyReading meterValue then
      some (transaction.register.time.getD transaction.timestamp)
    else none
  consumptionWh : consumption.consumptionWh =
    if isEnergyReading meterValue then
      some (transaction.register.rise (sample meterValue))
    else none
  cumulatedConsumptionWh : consumption.cumulatedConsumptionWh =
    if isEnergyReading meterValue then some transaction'.currentTotalConsumptionWh else none

/-- The mark read back from `lastConsumption`, with the default the code gives it. -/
theorem register_eq_getD (transaction : Transaction) :
    (transaction.lastConsumption.getD ⟨transaction.meterStart, transaction.timestamp⟩).value =
        transaction.register.value ∧
      (transaction.lastConsumption.getD ⟨transaction.meterStart, transaction.timestamp⟩).timestamp =
        transaction.register.time.getD transaction.timestamp := by
  unfold Transaction.register
  cases transaction.lastConsumption <;> exact ⟨rfl, rfl⟩

/-- The mark after the branch on the comparison. -/
theorem register_of_not_above {transaction transaction' : Transaction} {value : JsNumber}
    {time : Timestamp} (notAbove : JsNumber.isAbove transaction.register.value (some value) = false)
    (hmeterStart : transaction'.meterStart = transaction.meterStart)
    (hlast : transaction'.lastConsumption =
      if value = .num transaction.register.value then
        some ⟨transaction.register.value, time⟩
      else transaction.lastConsumption) :
    transaction'.register = transaction.register.next (.reading time value.value?) := by
  have kept : transaction'.lastConsumption = transaction.lastConsumption →
      transaction'.register = transaction.register := by
    intro h
    simp only [Transaction.register, h, hmeterStart]
  cases value with
  | nan => exact kept (by simpa using hlast)
  | num amount =>
      have notAbove : amount ≤ transaction.register.value := by
        simpa [JsNumber.isAbove] using notAbove
      by_cases equal : amount = transaction.register.value
      · rw [if_pos (by rw [equal])] at hlast
        simp [Transaction.register, hlast, Mark.next, equal]
      · have below : ¬ transaction.register.value ≤ amount :=
          fun h => equal (le_antisymm notAbove h)
        rw [if_neg (by simpa using equal)] at hlast
        simpa only [Mark.next, JsNumber.value?_num, below, if_false] using kept hlast

/-- A reading of the register moves the mark of the transaction and adds its rise to
the total. -/
theorem applyEnergyReading_spec (chargingStation : ChargingStation) (transaction : Transaction)
    (meterValue : OCPPNormalizedMeterValue) {consumption : Consumption}
    (hreading : isEnergyReading meterValue) (hended : consumption.endedAt = meterValue.timestamp)
    (hstarted : consumption.startedAt =
      some (transaction.register.time.getD transaction.timestamp)) :
    let result :=
      applyEnergyReading chargingStation transaction
        (transaction.lastConsumption.getD ⟨transaction.meterStart, transaction.timestamp⟩)
        meterValue consumption
    ReadsRegister transaction meterValue result.1 result.2 := by
  generalize hlast : transaction.lastConsumption.getD
    ⟨transaction.meterStart, transaction.timestamp⟩ = lastConsumption
  have hvalue : lastConsumption.value = transaction.register.value :=
    hlast ▸ (register_eq_getD transaction).1
  have hsample : sample meterValue =
      .reading meterValue.timestamp (meterValueWh meterValue).value? := if_pos hreading
  intro result
  by_cases above : JsNumber.isAbove lastConsumption.value (some (meterValueWh meterValue))
  · -- The reading raises the register.
    obtain ⟨amount, hread, raises⟩ : ∃ amount, meterValueWh meterValue = .num amount ∧
        transaction.register.value < amount := by
      cases hread : meterValueWh meterValue with
      | nan => simp [JsNumber.isAbove, hread] at above
      | num amount => exact ⟨amount, rfl, by simpa [JsNumber.isAbove, hread, hvalue] using above⟩
    have hnext : transaction.register.next (sample meterValue) =
        ⟨some meterValue.timestamp, amount⟩ := by
      simp [hsample, hread, Mark.next, raises.le]
    have hrise : transaction.register.rise (sample meterValue) =
        JsNumber.toFloat (some (meterValueWh meterValue)) - lastConsumption.value := by
      simp [hsample, hread, Mark.rise, JsNumber.toFloat, raises, hvalue]
    simp only [result, applyEnergyReading, if_pos above]
    exact
      { meterStart := rfl
        timestamp := rfl
        register := by
          rw [hnext]
          simp [Transaction.register, applyConsumption, hread, JsNumber.toFloat]
        total := congrArg _ hrise.symm
        endedAt := hended
        startedAt := hstarted.trans (if_pos hreading).symm
        consumptionWh := (congrArg some hrise.symm).trans (if_pos hreading).symm
        cumulatedConsumptionWh := (if_pos hreading).symm }
  · -- The register stays; a reading as high as it moves the date.
    have hrise : transaction.register.rise (sample meterValue) = 0 := by
      rw [hsample]
      cases hread : meterValueWh meterValue with
      | nan => rfl
      | num amount =>
          have : ¬ transaction.register.value < amount := by
            simpa [JsNumber.isAbove, hread, hvalue] using above
          simp [Mark.rise, this]
    simp only [result, applyEnergyReading, if_neg above]
    rw [hvalue, Bool.not_eq_true] at above
    exact
      { meterStart := rfl
        timestamp := rfl
        register := hsample ▸ register_of_not_above above rfl (by simp [applyNoConsumption, hvalue])
        total := by simp [hrise, applyNoConsumption]
        endedAt := hended
        startedAt := hstarted.trans (if_pos hreading).symm
        consumptionWh := (congrArg some hrise.symm).trans (if_pos hreading).symm
        cumulatedConsumptionWh := (if_pos hreading).symm }

/-- A meter value that is no reading of the register leaves the transaction alone. -/
theorem readsRegister_of_not_reading {transaction : Transaction}
    {meterValue : OCPPNormalizedMeterValue} {consumption : Consumption}
    (hreading : ¬ isEnergyReading meterValue) (hended : consumption.endedAt = meterValue.timestamp)
    (hstarted : consumption.startedAt = none) (hwh : consumption.consumptionWh = none)
    (hcumulated : consumption.cumulatedConsumptionWh = none) :
    ReadsRegister transaction meterValue transaction consumption where
  meterStart := rfl
  timestamp := rfl
  register := by rw [sample, if_neg hreading, Mark.next]
  total := by rw [sample, if_neg hreading, Mark.rise, add_zero]
  endedAt := hended
  startedAt := by rw [if_neg hreading, hstarted]
  consumptionWh := by rw [if_neg hreading, hwh]
  cumulatedConsumptionWh := by rw [if_neg hreading, hcumulated]

/-- A meter value of another measurand is no reading of the register. -/
theorem not_isEnergyReading_of_measures {measurand : OCPPMeasurand}
    {contexts : List OCPPReadingContext} {meterValue : OCPPNormalizedMeterValue}
    (other : measurand ≠ .energyActiveImportRegister)
    (h : measures measurand contexts meterValue) : ¬ isEnergyReading meterValue := by
  unfold isEnergyReading isEnergyActiveImportMeterValue
  unfold measures at *
  cases hattributes : meterValue.attributes with
  | none => simp
  | some attributes =>
      simp only [hattributes, Bool.and_eq_true, decide_eq_true_eq] at h ⊢
      rintro ⟨⟨same, -⟩, -⟩
      rw [h.1] at same
      exact other (Option.some.inj same)

/-- The limitation of the connector is all that is added. -/
theorem addConnectorLimitation_ok {context : MeteringContext} {chargingStation : ChargingStation}
    {connectorID : ℕ} {meterValue : OCPPNormalizedMeterValue} {consumption limited : Consumption}
    (h : addConnectorLimitationToConsumption context chargingStation connectorID meterValue
      consumption = .ok limited) :
    ∃ limitation, limited = { consumption with limitation := limitation } := by
  unfold addConnectorLimitationToConsumption at h
  split at h
  · obtain ⟨limitation, -, h⟩ := Outcome.bind_eq_ok.mp h
    exact ⟨_, (Outcome.pure_eq_ok_iff.mp h).symm⟩
  · exact ⟨_, (Outcome.pure_eq_ok_iff.mp h).symm⟩

/-- The limitation of the site area is all that is added. -/
theorem addSiteLimitation_ok {context : MeteringContext} {meterValue : OCPPNormalizedMeterValue}
    {consumption limited : Consumption}
    (h : addSiteLimitationToConsumption context meterValue consumption = .ok limited) :
    ∃ limitation, limited = { consumption with siteAreaLimitation := limitation } := by
  obtain ⟨limitation, -, h⟩ := Outcome.bind_eq_ok.mp h
  exact ⟨_, (Outcome.pure_eq_ok_iff.mp h).symm⟩

/-- A consumption before anything is measured. -/
def unmeasuredConsumption (transaction : Transaction) (meterValue : OCPPNormalizedMeterValue) :
    Consumption :=
  { transactionId := transaction.id
    connectorId := transaction.connectorId
    chargeBoxID := transaction.chargeBoxID
    siteAreaID := transaction.siteAreaID
    siteID := transaction.siteID
    userID := transaction.userID
    endedAt := meterValue.timestamp }

/-- **What becomes of a meter value**: an instant value or nothing at all, unless it is a reading
of the energy register, which is applied to a consumption with its limitations. -/
theorem createConsumption_cases {context : MeteringContext} {chargingStation : ChargingStation}
    {transaction : Transaction} {lastConsumption : Option LastConsumption}
    {meterValue : OCPPNormalizedMeterValue} {created : Transaction × Consumption}
    (h : createConsumptionFromMeterValue context chargingStation transaction lastConsumption
      meterValue = .ok created) :
    (¬ isEnergyReading meterValue ∧ ∃ stateOfCharge instantWatts instantVolts instantAmps,
      created = (transaction,
        { unmeasuredConsumption transaction meterValue with
          stateOfCharge, instantWatts, instantVolts, instantAmps })) ∨
    (isEnergyReading meterValue ∧
      let last := lastConsumption.getD ⟨transaction.meterStart, transaction.timestamp⟩
      ∃ limited siteAreaLimitation,
        addConnectorLimitationToConsumption context chargingStation transaction.connectorId
          meterValue { unmeasuredConsumption transaction meterValue with
            startedAt := some last.timestamp } = .ok limited ∧
        created = applyEnergyReading chargingStation transaction last meterValue
          { limited with siteAreaLimitation }) := by
  have other {measurand : OCPPMeasurand} {contexts : List OCPPReadingContext}
      (hother : measurand ≠ .energyActiveImportRegister)
      (hmeasures : measures measurand contexts meterValue) : ¬ isEnergyReading meterValue :=
    not_isEnergyReading_of_measures hother hmeasures
  unfold createConsumptionFromMeterValue at h
  split at h
  · rename_i soc
    exact .inl ⟨other (by decide) soc, _, _, _, _, (Except.ok.inj h).symm⟩
  rename_i notSoc
  split at h
  · rename_i power
    exact .inl ⟨other (by decide) power, _, _, _, _, (Except.ok.inj h).symm⟩
  split at h
  · rename_i voltage
    exact .inl ⟨other (by decide) voltage, _, _, _, _, (Except.ok.inj h).symm⟩
  split at h
  · rename_i current
    exact .inl ⟨other (by decide) current, _, _, _, _, (Except.ok.inj h).symm⟩
  split at h
  · rename_i energy
    have hreading : isEnergyReading meterValue := by
      unfold isEnergyReading
      rw [energy]
      cases hattributes : meterValue.attributes with
      | none => simp [isSocMeterValue, measures, hattributes] at notSoc
      | some _ => rfl
    obtain ⟨limited, hconnector, h⟩ := Outcome.bind_eq_ok.mp h
    obtain ⟨result, hsite, h⟩ := Outcome.bind_eq_ok.mp h
    obtain ⟨_, rfl⟩ := addSiteLimitation_ok hsite
    exact .inr ⟨hreading, limited, _, hconnector, (Outcome.pure_eq_ok_iff.mp h).symm⟩
  · rename_i notEnergy
    refine .inl ⟨?_, _, _, _, _, (Except.ok.inj h).symm⟩
    simp [isEnergyReading, notEnergy]

/-- **One meter value.**  Whatever is measured, a consumption created from it reports
what the meter value does to the register. -/
theorem createConsumption_spec {context : MeteringContext} {chargingStation : ChargingStation}
    {transaction transaction' : Transaction} {meterValue : OCPPNormalizedMeterValue}
    {consumption : Consumption}
    (h : createConsumptionFromMeterValue context chargingStation transaction
      transaction.lastConsumption meterValue = .ok (transaction', consumption)) :
    ReadsRegister transaction meterValue transaction' consumption := by
  rcases createConsumption_cases h with
    ⟨other, -, -, -, -, ⟨⟩⟩ | ⟨hreading, limited, _, hconnector, same⟩
  · exact readsRegister_of_not_reading other rfl rfl rfl rfl
  · obtain ⟨_, rfl⟩ := addConnectorLimitation_ok hconnector
    change ReadsRegister transaction meterValue (transaction', consumption).1
      (transaction', consumption).2
    rw [same]
    exact applyEnergyReading_spec chargingStation transaction meterValue hreading rfl
      (congrArg some (register_eq_getD transaction).2)

/-! ## One consumption per timestamp -/

/-- Filing a consumption under its timestamp changes a record kept with the
consumptions as `upsert` does. -/
theorem map_addOrUpdateConsumption {α : Type} {proj : Consumption → α} {f : Option α → α}
    {consumption : Consumption} (fresh : proj consumption = f none)
    (merged : ∀ existing, proj (mergeConsumption existing consumption) = f (some (proj existing)))
    (consumptions : List Consumption) :
    (addOrUpdateConsumption consumption consumptions).map (fun c => (c.endedAt, proj c)) =
      KeyedList.upsert consumption.endedAt f
        (consumptions.map fun c => (c.endedAt, proj c)) := by
  induction consumptions with
  | nil => simp [addOrUpdateConsumption, fresh]
  | cons existing rest ih =>
      by_cases same : existing.endedAt = consumption.endedAt
      · have hadd : addOrUpdateConsumption consumption (existing :: rest) =
            mergeConsumption existing consumption :: rest := if_pos same
        rw [hadd, List.map_cons, List.map_cons, merged, same, KeyedList.upsert_cons_self]
        rfl
      · have hadd : addOrUpdateConsumption consumption (existing :: rest) =
            existing :: addOrUpdateConsumption consumption rest := if_neg same
        rw [hadd, List.map_cons, List.map_cons, ih, KeyedList.upsert_cons_of_ne same]

/-- A meter value is booked as its sample is. -/
theorem ReadsRegister.booked_addOrUpdate {transaction transaction' : Transaction}
    {meterValue : OCPPNormalizedMeterValue} {consumption : Consumption}
    (h : ReadsRegister transaction meterValue transaction' consumption)
    (consumptions : List Consumption) :
    booked (addOrUpdateConsumption consumption consumptions) =
      Register.book transaction.register (sample meterValue) (booked consumptions) := by
  unfold booked Register.book
  rw [sample_time, ← h.endedAt, sample_isReading]
  refine map_addOrUpdateConsumption ?_ ?_ consumptions
  · rw [h.consumptionWh]
    by_cases hreading : isEnergyReading meterValue <;> simp [hreading]
  · intro existing
    simp only [mergeConsumption, h.consumptionWh]
    by_cases hreading : isEnergyReading meterValue <;> simp [hreading]

/-! ## The loop over the meter values -/

/-- The loop of `createConsumptionsFromMeterValues`, as far as the register is
concerned: from a transaction and the consumptions so far to those at the end. -/
inductive ReadsAll : Transaction → List Consumption → List OCPPNormalizedMeterValue →
    Transaction → List Consumption → Prop
  /-- No meter value is left. -/
  | nil (transaction consumptions) : ReadsAll transaction consumptions [] transaction consumptions
  /-- A meter value that does not count. -/
  | invalid {transaction consumptions meterValue rest transaction' consumptions'} :
      isValidMeterValue meterValue = false →
      ReadsAll transaction consumptions rest transaction' consumptions' →
      ReadsAll transaction consumptions (meterValue :: rest) transaction' consumptions'
  /-- A meter value in the past. -/
  | past {transaction consumptions meterValue rest transaction' consumptions'} :
      isValidMeterValue meterValue →
      ¬ transaction.register.Admits (sample meterValue) →
      ReadsAll transaction consumptions rest transaction' consumptions' →
      ReadsAll transaction consumptions (meterValue :: rest) transaction' consumptions'
  /-- A meter value that is taken into account. -/
  | read {transaction consumptions meterValue rest between consumption transaction'
      consumptions'} :
      isValidMeterValue meterValue →
      transaction.register.Admits (sample meterValue) →
      ReadsRegister transaction meterValue between consumption →
      ReadsAll between (addOrUpdateConsumption consumption consumptions) rest
        transaction' consumptions' →
      ReadsAll transaction consumptions (meterValue :: rest) transaction' consumptions'

/-- **What the loop keeps**: what every meter value does that is taken into account. -/
theorem foldlM_createConsumptions_invariant {context : MeteringContext}
    {chargingStation : ChargingStation} {I : Transaction → List Consumption → Prop}
    (kept : ∀ transaction consumptions meterValue created, I transaction consumptions →
      createConsumptionFromMeterValue context chargingStation transaction
        transaction.lastConsumption meterValue = .ok created →
      I created.1 (addOrUpdateConsumption created.2 consumptions))
    {meterValues : List OCPPNormalizedMeterValue} {state looped : Transaction × List Consumption}
    (start : I state.1 state.2)
    (h : meterValues.foldlM (createConsumptionsStep context chargingStation) state = .ok looped) :
    I looped.1 looped.2 := by
  refine Outcome.foldlM_invariant (I := fun state => I state.1 state.2) ?_ start h
  intro state meterValue next inv step
  unfold createConsumptionsStep at step
  split at step
  · obtain ⟨created, hcreated, step⟩ := Outcome.bind_eq_ok.mp step
    cases step
    exact kept _ _ _ _ inv hcreated
  · cases step
    exact inv

/-- The loop reads the meter values in their order. -/
theorem readsAll_of_foldlM {context : MeteringContext} {chargingStation : ChargingStation}
    {meterValues : List OCPPNormalizedMeterValue} {transaction transaction' : Transaction}
    {consumptions consumptions' : List Consumption}
    (h : meterValues.foldlM (createConsumptionsStep context chargingStation)
      (transaction, consumptions) = .ok (transaction', consumptions')) :
    ReadsAll transaction consumptions meterValues transaction' consumptions' := by
  induction meterValues generalizing transaction consumptions with
  | nil =>
      cases h
      exact .nil _ _
  | cons meterValue rest ih =>
      obtain ⟨⟨between, consumptionsBetween⟩, hstep, hrest⟩ := Outcome.foldlM_cons_eq_ok.mp h
      have hrest := ih hrest
      unfold createConsumptionsStep at hstep
      cases hvalid : isValidMeterValue meterValue with
      | false =>
          simp only [hvalid, Bool.false_and] at hstep
          cases hstep
          exact .invalid hvalid hrest
      | true =>
          cases hpast : isInThePast transaction meterValue with
          | true =>
              simp only [hvalid, hpast] at hstep
              cases hstep
              refine .past hvalid ?_ hrest
              rw [← isInThePast_eq_false_iff, hpast]
              decide
          | false =>
              simp only [hvalid, hpast, Bool.not_false, Bool.and_self, if_true] at hstep
              obtain ⟨⟨_, consumption⟩, hcreated, hstep⟩ := Outcome.bind_eq_ok.mp hstep
              cases hstep
              exact .read hvalid ((isInThePast_eq_false_iff _ _).mp hpast)
                (createConsumption_spec hcreated) hrest

namespace ReadsAll

variable {transaction transaction' : Transaction} {consumptions consumptions' : List Consumption}
variable {meterValues : List OCPPNormalizedMeterValue}

/-- The transaction ends with the mark that reading the samples leads to. -/
theorem register_eq (h : ReadsAll transaction consumptions meterValues transaction' consumptions') :
    transaction'.register = Register.final transaction.register (samples meterValues) := by
  induction h with
  | nil => rfl
  | invalid hvalid _ ih => rw [ih, samples, samples, List.filter_cons_of_neg (by simp [hvalid])]
  | past hvalid hpast _ ih =>
      rw [ih, samples, samples, List.filter_cons_of_pos hvalid, List.map_cons,
        Register.final_cons_of_not_admits hpast]
  | read hvalid hadmits hread _ ih =>
      rw [ih, samples, samples, List.filter_cons_of_pos hvalid, List.map_cons,
        Register.final_cons_of_admits hadmits, hread.register]

/-- The consumptions end with the book that the samples lead to. -/
theorem booked_eq (h : ReadsAll transaction consumptions meterValues transaction' consumptions') :
    booked consumptions' =
      Register.bookAll transaction.register (samples meterValues) (booked consumptions) := by
  induction h with
  | nil => rfl
  | invalid hvalid _ ih => rw [ih, samples, samples, List.filter_cons_of_neg (by simp [hvalid])]
  | past hvalid hpast _ ih =>
      rw [ih, samples, samples, List.filter_cons_of_pos hvalid, List.map_cons, Register.bookAll,
        if_neg hpast]
  | read hvalid hadmits hread _ ih =>
      rw [ih, samples, samples, List.filter_cons_of_pos hvalid, List.map_cons, Register.bookAll,
        if_pos hadmits, hread.register, hread.booked_addOrUpdate]

end ReadsAll

/-! ## The consumptions of a request -/

/-- The consumptions returned are those of the loop, completed and in another order. -/
theorem createConsumptions_ok {context : MeteringContext} {chargingStation : ChargingStation}
    {transaction transaction' : Transaction} {meterValues : List OCPPNormalizedMeterValue}
    {consumptions : List Consumption}
    (h : createConsumptionsFromMeterValues context chargingStation transaction meterValues =
      .ok (transaction', consumptions)) :
    ∃ unsorted, ReadsAll transaction [] meterValues transaction' unsorted ∧
      sortConsumptions (unsorted.map (assertConsistencyInConsumption chargingStation
        transaction'.connectorId)) = .ok consumptions := by
  obtain ⟨⟨_, unsorted⟩, hloop, h⟩ := Outcome.bind_eq_ok.mp h
  obtain ⟨sorted, hsort, h⟩ := Outcome.bind_eq_ok.mp h
  cases h
  exact ⟨unsorted, readsAll_of_foldlM hloop, hsort⟩

/-- Sorting keeps the consumptions. -/
theorem perm_of_sortConsumptions {consumptions sorted : List Consumption}
    (h : sortConsumptions consumptions = .ok sorted) : sorted.Perm consumptions := by
  unfold sortConsumptions at h
  split at h
  · cases h
    exact .refl _
  · split at h
    · cases h
      exact List.perm_insertionSort _ _
    · cases h

/-- The completion of a consumption does not touch what is booked. -/
theorem booked_map_assertConsistency (chargingStation : ChargingStation) (connectorID : ℕ)
    (consumptions : List Consumption) :
    booked (consumptions.map (assertConsistencyInConsumption chargingStation connectorID)) =
      booked consumptions := by
  simp only [booked, List.map_map]
  rfl

/-- The consumptions returned add up to the book of the samples. -/
theorem sum_consumptionWh_eq_total {context : MeteringContext}
    {chargingStation : ChargingStation} {transaction transaction' : Transaction}
    {meterValues : List OCPPNormalizedMeterValue} {consumptions : List Consumption}
    (h : createConsumptionsFromMeterValues context chargingStation transaction meterValues =
      .ok (transaction', consumptions)) :
    (consumptions.map fun consumption => consumption.consumptionWh.getD 0).sum =
      Register.total (Register.bookAll transaction.register (samples meterValues) []) := by
  obtain ⟨unsorted, hreads, hsort⟩ := createConsumptions_ok h
  have hbook : booked unsorted = _ := hreads.booked_eq
  have hsum : (consumptions.map fun consumption => consumption.consumptionWh.getD 0) =
      (booked consumptions).map Prod.snd := by
    simp [booked, Function.comp_def]
  have hperm := ((perm_of_sortConsumptions hsort).map
    fun consumption => (consumption.endedAt, consumption.consumptionWh.getD 0)).map Prod.snd
  rw [hsum, booked, hperm.sum_eq]
  change Register.total (booked _) = _
  rw [booked_map_assertConsistency, hbook]
  rfl

/-- The highest reading of the energy register so far, or `meterStart`. -/
def highestReading (transaction : Transaction) : ℚ :=
  (transaction.lastConsumption.map LastConsumption.value).getD transaction.meterStart

theorem highestReading_eq_register (transaction : Transaction) :
    highestReading transaction = transaction.register.value := by
  unfold highestReading Transaction.register
  cases transaction.lastConsumption <;> rfl

/-- **When no energy is lost.**  The consumptions of a request add up to the increase
of the highest reading exactly when every reading that raises it is the last reading
of its timestamp that is taken into account. -/
theorem sum_consumptionWh_eq_iff {context : MeteringContext} {chargingStation : ChargingStation}
    {transaction transaction' : Transaction} {meterValues : List OCPPNormalizedMeterValue}
    {consumptions : List Consumption}
    (h : createConsumptionsFromMeterValues context chargingStation transaction meterValues =
      .ok (transaction', consumptions)) :
    (consumptions.map fun consumption => consumption.consumptionWh.getD 0).sum =
        highestReading transaction' - highestReading transaction ↔
      Register.RaisesStandLast transaction.register (samples meterValues) := by
  obtain ⟨unsorted, hreads, -⟩ := createConsumptions_ok h
  rw [sum_consumptionWh_eq_total h, highestReading_eq_register, highestReading_eq_register,
    hreads.register_eq, Register.total_bookAll_nil_eq_iff]

/-- A reading of the energy register in Wh. -/
def energyValue (context : OCPPReadingContext) (timestamp : Timestamp) (wattHours : ℚ) :
    OCPPNormalizedMeterValue :=
  { timestamp := timestamp
    value := .raw wattHours
    attributes := some
      { context := some context
        format := some .raw
        measurand := some .energyActiveImportRegister
        unit := some .otherUnit } }

/-- A session that has just started at 1000 Wh. -/
def freshSession : Transaction :=
  { id := 1
    chargeBoxID := "CS-1"
    connectorId := 1
    tagID := "TAG-1"
    meterStart := 1000
    timestamp := 0
    lastConsumption := some ⟨1000, 0⟩ }

/-- Two readings a minute apart add up. -/
theorem sum_consumptionWh_eq_iff_two_minutes :
    ∃ transaction consumptions,
      createConsumptionsFromMeterValues {} { id := "CS-1" } freshSession
          [energyValue .samplePeriodic 60000 1500, energyValue .samplePeriodic 120000 2000] =
        .ok (transaction, consumptions) ∧
      ((consumptions.map fun consumption => consumption.consumptionWh.getD 0).sum =
          highestReading transaction - highestReading freshSession ↔
        Register.RaisesStandLast freshSession.register
          (samples [energyValue .samplePeriodic 60000 1500,
            energyValue .samplePeriodic 120000 2000])) := by
  have returns : (createConsumptionsFromMeterValues {} { id := "CS-1" } freshSession
      [energyValue .samplePeriodic 60000 1500, energyValue .samplePeriodic 120000 2000]
      ).toOption.map (fun result => result.2.length) = some 2 := by
    decide +kernel
  obtain ⟨⟨transaction, consumptions⟩, hok, -⟩ := Outcome.exists_ok_of_toOption_map returns
  exact ⟨transaction, consumptions, hok, sum_consumptionWh_eq_iff hok⟩

/-- A periodic reading and the reading at the end of the transaction that carry the same
timestamp and the same amount: the second one overwrites the consumption of the first. -/
theorem sum_consumptionWh_ne_of_same_timestamp :
    ∃ transaction consumptions,
      createConsumptionsFromMeterValues {} { id := "CS-1" } freshSession
          [energyValue .samplePeriodic 60000 2000, energyValue .transactionEnd 60000 2000] =
        .ok (transaction, consumptions) ∧
      (consumptions.map fun consumption => consumption.consumptionWh.getD 0).sum ≠
        highestReading transaction - highestReading freshSession := by
  have returns : (createConsumptionsFromMeterValues {} { id := "CS-1" } freshSession
      [energyValue .samplePeriodic 60000 2000, energyValue .transactionEnd 60000 2000]
      ).toOption.map (fun result =>
        ((result.2.map fun consumption => consumption.consumptionWh.getD 0).sum,
          highestReading result.1 - highestReading freshSession)) = some (0, 1000) := by
    decide +kernel
  obtain ⟨⟨transaction, consumptions⟩, hok, hresult⟩ := Outcome.exists_ok_of_toOption_map returns
  obtain ⟨hsum, hincrease⟩ := Prod.mk.inj hresult
  refine ⟨transaction, consumptions, hok, ?_⟩
  rw [hsum, hincrease]
  norm_num

end OCPPUtils

end EvServer
