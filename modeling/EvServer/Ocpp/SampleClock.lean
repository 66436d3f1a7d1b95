import EvServer.Ocpp.MeterValuesHandler

/-!
# Clock-aligned samples (`normalizeMeterValues`, `filterMeterValuesOnSpecificChargingStations`)

A request comes in the form of its OCPP version, where an array may be a single object, and is
normalized to one record for each value.  Values that were sampled because of the clock are meant
to be removed then, but the filter is given an asynchronous function, and the promise that it
returns is truthy: every value is kept.  A reading of the energy register among them counts.
-/

namespace EvServer

/-! ## The request as the station sends it -/

/-- An array, or a single object in its place. -/
inductive OneOrMany (α : Type)
  | one (a : α)
  | many (as : List α)
  deriving DecidableEq, Repr

namespace OneOrMany

variable {α : Type}

/-- Always convert to an array. -/
def toArray : OneOrMany α → List α
  | one a => [a]
  | many as => as

/-- The array without some of its objects. -/
def removeAll (p : α → Bool) (as : OneOrMany α) : OneOrMany α :=
  many (as.toArray.filter fun a => !p a)

@[simp] theorem toArray_removeAll (p : α → Bool) (as : OneOrMany α) :
    (as.removeAll p).toArray = as.toArray.filter fun a => !p a := rfl

/-- Change each object. -/
def map (f : α → α) : OneOrMany α → OneOrMany α
  | one a => one (f a)
  | many as => many (as.map f)

@[simp] theorem toArray_map (f : α → α) (as : OneOrMany α) :
    (as.map f).toArray = as.toArray.map f := by
  cases as <;> rfl

end OneOrMany

/-- `OCPPVersion`. -/
inductive OCPPVersion
  | VERSION_15
  | VERSION_16
  deriving DecidableEq, Repr

/-- `OCPPSampledValue`, with what else is read of it in a `MeterValues` request. -/
structure OCPPMeterSampledValue extends OCPPSampledValue where
  measurand : Option OCPPMeasurand := none
  unit : Option OCPPUnitOfMeasure := none
  phase : Option OCPPPhase := none
  deriving DecidableEq, Repr

/-- A value of OCPP 1.5: `$value`, with its attributes. -/
structure OCPP15Value where
  value : String
  attributes : Option OCPPAttribute := none
  deriving DecidableEq, Repr

/-- `OCPPMeterValue`, with `sampledValue` in OCPP 1.6 and `value` in OCPP 1.5. -/
structure OCPPMeterValue where
  timestamp : Timestamp
  sampledValue : Option (OneOrMany OCPPMeterSampledValue) := none
  value : Option (OneOrMany OCPP15Value) := none
  deriving DecidableEq, Repr

/-- `OCPPMeterValuesRequestExtended`, with `meterValue` in OCPP 1.6 and `values` in OCPP 1.5. -/
structure OCPPMeterValuesRequestExtended where
  connectorId : ℕ
  transactionId : Option ℕ := none
  meterValue : Option (OneOrMany OCPPMeterValue) := none
  values : Option (OneOrMany OCPPMeterValue) := none
  deriving DecidableEq, Repr

namespace OCPPService

/-! ## Normalization -/

/-- `buildMeterValueAttributes`; the default unit is `WATT_HOUR`. -/
def buildMeterValueAttributes (sampledValue : OCPPMeterSampledValue) : OCPPAttribute where
  context := some (sampledValue.context.getD .samplePeriodic)
  format := some (sampledValue.format.getD .raw)
  measurand := some (sampledValue.measurand.getD .energyActiveImportRegister)
  unit := some (sampledValue.unit.getD .otherUnit)
  phase := sampledValue.phase

/-- A value that is to be interpreted as a number. -/
def convertRawValue (value : String) : MeterValueData :=
  .raw (JsNumber.toFloat (some (MeterValueData.text value).convertToFloat))

/-- The record of a value of OCPP 1.6. -/
def normalizeSampledValue (timestamp : Timestamp) (sampledValue : OCPPMeterSampledValue) :
    OCPPNormalizedMeterValue where
  timestamp := timestamp
  value :=
    if sampledValue.format = some .signedData then .text sampledValue.value
    else convertRawValue sampledValue.value
  attributes := some (buildMeterValueAttributes sampledValue)

/-- The record of a value of OCPP 1.5. -/
def normalizeValue (timestamp : Timestamp) (value : OCPP15Value) : OCPPNormalizedMeterValue where
  timestamp := timestamp
  value := convertRawValue value.value
  attributes := value.attributes

/-- One turn of the loop of `normalizeMeterValues`; without an array, the attributes of `undefined`
are read. -/
def normalizeMeterValue (ocppVersion : OCPPVersion) (meterValue : OCPPMeterValue) :
    Except String (List OCPPNormalizedMeterValue) :=
  match ocppVersion with
  | .VERSION_16 =>
      match meterValue.sampledValue with
      | none => .error "TypeError: Cannot read properties of undefined (reading 'context')"
      | some sampledValue =>
          .ok (sampledValue.toArray.map (normalizeSampledValue meterValue.timestamp))
  | .VERSION_15 =>
      match meterValue.value with
      | none => .ok []
      | some value => .ok (value.toArray.map (normalizeValue meterValue.timestamp))

/-- `normalizeMeterValues`. -/
def normalizeMeterValues (ocppVersion : OCPPVersion)
    (meterValues : OCPPMeterValuesRequestExtended) :
    Except String (List OCPPNormalizedMeterValue) :=
  let meterValue :=
    match ocppVersion with
    -- OCPP 1.5: transfer to OCPP 1.6 structure
    | .VERSION_15 => meterValues.values
    | .VERSION_16 => meterValues.meterValue
  match meterValue with
  | none => .error "TypeError: Cannot read properties of undefined (reading 'timestamp')"
  | some meterValue =>
      (meterValue.toArray.mapM (normalizeMeterValue ocppVersion)).map List.flatten

/-! ## The filter -/

/-- `ChargerVendor.ABB`. -/
def ChargerVendor.abb : String := "abb"

/-- A promise, by what it will be resolved with. -/
structure Promise (α : Type) where
  resolves : α

/-- Whether a promise is truthy, as every object is. -/
def Promise.isTruthy {α : Type} (_ : Promise α) : Bool := true

/-- The value was sampled because of the clock. -/
def isSampleClock (meterValue : OCPPNormalizedMeterValue) : Bool :=
  meterValue.attributes.bind OCPPAttribute.context = some .sampleClock

/-- The asynchronous function that the filter is given. -/
def removeSampleClock (meterValue : OCPPNormalizedMeterValue) : Promise Bool :=
  -- Remove Sample Clock
  if isSampleClock meterValue then ⟨false⟩ else ⟨true⟩

/-- `filterMeterValuesOnSpecificChargingStations`. -/
def filterMeterValuesOnSpecificChargingStations (chargingStation : ChargingStation)
    (ocppVersion : OCPPVersion) (meterValues : List OCPPNormalizedMeterValue) :
    List OCPPNormalizedMeterValue :=
  -- Clean up Sample.Clock meter value
  if chargingStation.chargePointVendor ≠ ChargerVendor.abb ∨ ocppVersion ≠ .VERSION_15 then
    meterValues.filter fun meterValue => (removeSampleClock meterValue).isTruthy
  else meterValues

/-- **The filter keeps every value.** -/
theorem filterMeterValuesOnSpecificChargingStations_eq (chargingStation : ChargingStation)
    (ocppVersion : OCPPVersion) (meterValues : List OCPPNormalizedMeterValue) :
    filterMeterValuesOnSpecificChargingStations chargingStation ocppVersion meterValues =
      meterValues := by
  rw [filterMeterValuesOnSpecificChargingStations]
  split
  · exact List.filter_eq_self.mpr fun _ _ => rfl
  · rfl

/-- `handleMeterValues`, once the values are normalized and filtered. -/
def processMeterValues (context : MeterValuesHandlerContext) (headers : OCPPHeader)
    (meterValues : OCPPMeterValuesRequest) : StoreHandler Unit := do
  let attempt ← Handler.read (checkMeterValues headers meterValues)
  match attempt with
  | none => return ()
  | some attempt => applyMeterValues context attempt

theorem snd_processMeterValues (context : MeterValuesHandlerContext) (headers : OCPPHeader)
    (meterValues : OCPPMeterValuesRequest) (store : Store) :
    (processMeterValues context headers meterValues store).2 =
      (handleMeterValuesRequest context headers meterValues store).2 :=
  (Handler.handle_snd _ _ store).symm

/-- `handleMeterValues`, from the request as the station sends it; what it throws is logged. -/
def handleStationMeterValues (context : MeterValuesHandlerContext) (headers : OCPPHeader)
    (ocppVersion : OCPPVersion) (meterValues : OCPPMeterValuesRequestExtended) :
    StoreHandler Unit := do
  match headers.chargingStation with
  | none =>
      Handler.ofExcept
        (throw "TypeError: Cannot read properties of undefined (reading 'connectors')")
  | some chargingStation =>
      let normalizedMeterValues ← Handler.ofExcept (normalizeMeterValues ocppVersion meterValues)
      processMeterValues context headers
        { connectorId := meterValues.connectorId
          transactionId := meterValues.transactionId
          values := filterMeterValuesOnSpecificChargingStations chargingStation ocppVersion
            normalizedMeterValues }

end OCPPService

/-! ## The request without clock-aligned samples -/

/-- The meter value without what was sampled because of the clock. -/
def OCPPMeterValue.withoutSampleClock (meterValue : OCPPMeterValue) : OCPPMeterValue :=
  { meterValue with
    sampledValue := meterValue.sampledValue.map
      (OneOrMany.removeAll fun sampledValue => sampledValue.context = some .sampleClock)
    value := meterValue.value.map
      (OneOrMany.removeAll fun value =>
        value.attributes.bind OCPPAttribute.context = some .sampleClock) }

/-- The request without what was sampled because of the clock. -/
def OCPPMeterValuesRequestExtended.withoutSampleClock
    (meterValues : OCPPMeterValuesRequestExtended) : OCPPMeterValuesRequestExtended :=
  { meterValues with
    meterValue := meterValues.meterValue.map (OneOrMany.map OCPPMeterValue.withoutSampleClock)
    values := meterValues.values.map (OneOrMany.map OCPPMeterValue.withoutSampleClock) }

namespace OCPPService

theorem isSampleClock_normalizeSampledValue (timestamp : Timestamp)
    (sampledValue : OCPPMeterSampledValue) :
    isSampleClock (normalizeSampledValue timestamp sampledValue) =
      decide (sampledValue.context = some .sampleClock) := by
  rw [isSampleClock, decide_eq_decide]
  change some (sampledValue.context.getD .samplePeriodic) = _ ↔ _
  rcases sampledValue.context with _ | context <;> simp

/-- Values are normalized one by one. -/
theorem filter_map_of_eq {α β : Type} {p : α → Bool} {q : β → Bool} {f : α → β}
    (same : ∀ a, q (f a) = p a) (as : List α) : (as.filter p).map f = (as.map f).filter q := by
  rw [List.filter_map]
  exact congrArg (List.map f) (List.filter_congr fun a _ => (same a).symm)

theorem normalizeMeterValue_withoutSampleClock (ocppVersion : OCPPVersion)
    (meterValue : OCPPMeterValue) :
    normalizeMeterValue ocppVersion meterValue.withoutSampleClock =
      (normalizeMeterValue ocppVersion meterValue).map
        (List.filter fun meterValue => !isSampleClock meterValue) := by
  obtain ⟨timestamp, sampledValue, value⟩ := meterValue
  cases ocppVersion with
  | VERSION_16 =>
      obtain _ | sampledValue := sampledValue
      · rfl
      · refine congrArg Except.ok ?_
        rw [OneOrMany.toArray_removeAll]
        refine filter_map_of_eq (fun sampledValue => ?_) _
        rw [isSampleClock_normalizeSampledValue]
  | VERSION_15 =>
      obtain _ | value := value
      · rfl
      · refine congrArg Except.ok ?_
        rw [OneOrMany.toArray_removeAll]
        refine filter_map_of_eq (fun value => ?_) _
        rfl

/-- **To normalize the request without clock-aligned samples** is to remove them afterwards. -/
theorem normalizeMeterValues_withoutSampleClock (ocppVersion : OCPPVersion)
    (meterValues : OCPPMeterValuesRequestExtended) :
    normalizeMeterValues ocppVersion meterValues.withoutSampleClock =
      (normalizeMeterValues ocppVersion meterValues).map
        (List.filter fun meterValue => !isSampleClock meterValue) := by
  have normalized : ∀ meterValue : OneOrMany OCPPMeterValue,
      ((meterValue.map OCPPMeterValue.withoutSampleClock).toArray.mapM
        (normalizeMeterValue ocppVersion)).map List.flatten =
      ((meterValue.toArray.mapM (normalizeMeterValue ocppVersion)).map List.flatten).map
        (List.filter fun meterValue => !isSampleClock meterValue) := by
    intro meterValue
    rw [OneOrMany.toArray_map,
      Outcome.mapM_map_eq (normalizeMeterValue_withoutSampleClock ocppVersion)]
    rcases meterValue.toArray.mapM (normalizeMeterValue ocppVersion) with _ | values
    · rfl
    · exact congrArg Except.ok List.filter_flatten.symm
  obtain ⟨connectorId, transactionId, meterValue, values⟩ := meterValues
  cases ocppVersion with
  | VERSION_15 =>
      obtain _ | values := values
      · rfl
      · exact normalized values
  | VERSION_16 =>
      obtain _ | meterValue := meterValue
      · rfl
      · exact normalized meterValue

/-! ## Clock-aligned samples that count for nothing -/

section Irrelevant

variable {meterValue : OCPPNormalizedMeterValue}

theorem measures_sampleClock {measurand : OCPPMeasurand} {contexts : List OCPPReadingContext}
    (clock : isSampleClock meterValue = true) (other : OCPPReadingContext.sampleClock ∉ contexts) :
    OCPPUtils.measures measurand contexts meterValue = false := by
  obtain ⟨timestamp, value, _ | attributes⟩ := meterValue
  · cases clock
  · have context : attributes.context = some .sampleClock := of_decide_eq_true clock
    simp only [OCPPUtils.measures, context, Bool.and_eq_false_iff, List.any_eq_false]
    refine .inr fun context mem => ?_
    rw [decide_eq_true_eq]
    rintro ⟨⟩
    exact other mem

/-- Only a reading of the energy register counts. -/
theorem isValidMeterValue_sampleClock (clock : isSampleClock meterValue = true)
    (noReading : OCPPUtils.isEnergyActiveImportMeterValue meterValue = false) :
    OCPPUtils.isValidMeterValue meterValue = false := by
  rw [OCPPUtils.isValidMeterValue, noReading, OCPPUtils.isSocMeterValue,
    OCPPUtils.isPowerActiveImportMeterValue, OCPPUtils.isCurrentImportMeterValue,
    OCPPUtils.isVoltageMeterValue, measures_sampleClock clock (by decide),
    measures_sampleClock clock (by decide), measures_sampleClock clock (by decide),
    measures_sampleClock clock (by decide)]
  rfl

theorem updateTransactionWithMeterValue_sampleClock (chargingStation : ChargingStation)
    (transaction : Transaction) (clock : isSampleClock meterValue = true)
    (noReading : OCPPUtils.isEnergyActiveImportMeterValue meterValue = false) :
    updateTransactionWithMeterValue chargingStation transaction meterValue = .ok transaction := by
  obtain ⟨timestamp, value, _ | attributes⟩ := meterValue
  · cases clock
  · have context : attributes.context = some .sampleClock := of_decide_eq_true clock
    simp [updateTransactionWithMeterValue, OCPPUtils.updateSignedData,
      updateTransactionWithTransactionEnd, context, noReading]

end Irrelevant

end OCPPService

end EvServer
