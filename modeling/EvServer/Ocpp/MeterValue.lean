import EvServer.ChargingStation

/-!
# Normalized meter values (`OCPPNormalizedMeterValue`)

A `MeterValues` request is turned into a list of normalized meter values, each with
one timestamp, one value and the attributes that say what was measured and why
(`attribute` in the source, where the name is free).  The predicates are those of
`OCPPUtils`: a value without attributes passes all of them, because a station of OCPP 1.5
may send none.

Power, voltage and current come per phase.  `PerPhase` is the family of properties
`x`, `xL1`, `xL2`, `xL3` and `xDC` that the records keep for each of the three, and
the three `…Slot` functions are the switches on current type and phase that the
source repeats wherever it files such a value.
-/

namespace EvServer

/-- `OCPPReadingContext`. -/
inductive OCPPReadingContext
  | interruptionBegin
  | interruptionEnd
  | other
  | sampleClock
  | samplePeriodic
  | transactionBegin
  | transactionEnd
  | trigger
  deriving DecidableEq, Repr

/-- `OCPPValueFormat`. -/
inductive OCPPValueFormat
  | raw
  | signedData
  deriving DecidableEq, Repr

/-- `OCPPMeasurand`; the code tells five of them apart. -/
inductive OCPPMeasurand
  | energyActiveImportRegister
  | powerActiveImport
  | currentImport
  | voltage
  | stateOfCharge
  | otherMeasurand
  deriving DecidableEq, Repr

/-- `OCPPUnitOfMeasure`; the code tells the two kilo units apart. -/
inductive OCPPUnitOfMeasure
  | kiloWattHour
  | kiloWatt
  | otherUnit
  deriving DecidableEq, Repr

/-- `OCPPAttribute`.  OCPP 1.5 may leave any of them out. -/
structure OCPPAttribute where
  context : Option OCPPReadingContext := none
  format : Option OCPPValueFormat := none
  measurand : Option OCPPMeasurand := none
  phase : Option OCPPPhase := none
  unit : Option OCPPUnitOfMeasure := none
  deriving DecidableEq, Repr

/-- The `value` of a normalized meter value: a number, or the text of signed data.
Normalization has already turned a raw value that is no number into `0`. -/
inductive MeterValueData
  | raw (number : ℚ)
  | text (content : String)
  deriving DecidableEq, Repr

/-- `OCPPNormalizedMeterValue`. -/
structure OCPPNormalizedMeterValue where
  timestamp : Timestamp
  value : MeterValueData
  attributes : Option OCPPAttribute
  deriving DecidableEq, Repr

namespace MeterValueData

/-- `Utils.convertToFloat(meterValue.value)`; the empty text is falsy. -/
def convertToFloat : MeterValueData → JsNumber
  | raw number => .num number
  | text content => if content = "" then .num 0 else Utils.parseFloat content

end MeterValueData

/-! ## What was measured -/

namespace OCPPUtils

/-- `meterValue.attributes.measurand === measurand` in one of the contexts, or no
attributes at all. -/
def measures (measurand : OCPPMeasurand) (contexts : List OCPPReadingContext)
    (meterValue : OCPPNormalizedMeterValue) : Bool :=
  match meterValue.attributes with
  | none => true
  | some attributes =>
      attributes.measurand = some measurand && contexts.any (attributes.context = some ·)

/-- `OCPPUtils.isSocMeterValue`. -/
def isSocMeterValue : OCPPNormalizedMeterValue → Bool :=
  measures .stateOfCharge [.samplePeriodic, .transactionEnd]

/-- `OCPPUtils.isEnergyActiveImportMeterValue`. -/
def isEnergyActiveImportMeterValue : OCPPNormalizedMeterValue → Bool :=
  measures .energyActiveImportRegister [.samplePeriodic, .transactionEnd, .sampleClock]

/-- `OCPPUtils.isPowerActiveImportMeterValue`. -/
def isPowerActiveImportMeterValue : OCPPNormalizedMeterValue → Bool :=
  measures .powerActiveImport [.samplePeriodic]

/-- `OCPPUtils.isCurrentImportMeterValue`. -/
def isCurrentImportMeterValue : OCPPNormalizedMeterValue → Bool :=
  measures .currentImport [.samplePeriodic]

/-- `OCPPUtils.isVoltageMeterValue`. -/
def isVoltageMeterValue : OCPPNormalizedMeterValue → Bool :=
  measures .voltage [.samplePeriodic]

/-- `OCPPUtils.isValidMeterValue`. -/
def isValidMeterValue (meterValue : OCPPNormalizedMeterValue) : Bool :=
  isSocMeterValue meterValue ||
    isEnergyActiveImportMeterValue meterValue ||
    isPowerActiveImportMeterValue meterValue ||
    isCurrentImportMeterValue meterValue ||
    isVoltageMeterValue meterValue

/-- The reading of the energy register in Wh.  Only a value with attributes gets
here: one without any has been filed as a state of charge. -/
def meterValueWh (meterValue : OCPPNormalizedMeterValue) : JsNumber :=
  if meterValue.attributes.bind OCPPAttribute.unit = some .kiloWattHour then
    meterValue.value.convertToFloat.map (· * 1000)
  else meterValue.value.convertToFloat

/-- The power of a meter value in W. -/
def powerInMeterValueWatts (meterValue : OCPPNormalizedMeterValue) : JsNumber :=
  if meterValue.attributes.bind OCPPAttribute.unit = some .kiloWatt then
    meterValue.value.convertToFloat.map (· * 1000)
  else meterValue.value.convertToFloat

/-- A meter value is filed as a reading of the energy register: it is one, and none
of the tests that come first holds of it. -/
def isEnergyReading (meterValue : OCPPNormalizedMeterValue) : Bool :=
  isEnergyActiveImportMeterValue meterValue && meterValue.attributes.isSome

end OCPPUtils

/-! ## Values per phase -/

/-- The properties `x`, `xL1`, `xL2`, `xL3` and `xDC` of a record. -/
structure PerPhase (α : Type) where
  total : α
  l1 : α
  l2 : α
  l3 : α
  dc : α
  deriving DecidableEq, Repr

/-- The names of the properties of `PerPhase`. -/
inductive PhaseSlot
  | total
  | l1
  | l2
  | l3
  | dc
  deriving DecidableEq, Repr

namespace PerPhase

variable {α β : Type}

/-- The same value in all properties. -/
def const (value : α) : PerPhase α := ⟨value, value, value, value, value⟩

/-- Convert every property. -/
def map (f : α → β) (values : PerPhase α) : PerPhase β :=
  ⟨f values.total, f values.l1, f values.l2, f values.l3, f values.dc⟩

/-- Set one property; `none` is the branch that sets nothing. -/
def set (values : PerPhase α) (slot : Option PhaseSlot) (value : α) : PerPhase α :=
  match slot with
  | none => values
  | some .total => { values with total := value }
  | some .l1 => { values with l1 := value }
  | some .l2 => { values with l2 := value }
  | some .l3 => { values with l3 := value }
  | some .dc => { values with dc := value }

/-- Copy the properties that are set over those of another record. -/
def merge (values newer : PerPhase (Option α)) : PerPhase (Option α) :=
  ⟨newer.total.or values.total, newer.l1.or values.l1, newer.l2.or values.l2,
    newer.l3.or values.l3, newer.dc.or values.dc⟩

end PerPhase

namespace OCPPUtils

/-- Where a power goes. -/
def powerSlot (currentType : Option CurrentType) (phase : Option OCPPPhase) :
    Option PhaseSlot :=
  match currentType with
  | none => none
  | some .DC => some .dc
  | some .AC =>
      match phase with
      | some .L1_N | some .L1 => some .l1
      | some .L2_N | some .L2 => some .l2
      | some .L3_N | some .L3 => some .l3
      | _ => some .total

/-- Where a voltage goes; one measured between two phases is dropped. -/
def voltageSlot (currentType : Option CurrentType) (phase : Option OCPPPhase) :
    Option PhaseSlot :=
  match currentType with
  | none => none
  | some .DC => some .dc
  | some .AC =>
      match phase with
      | some .L1_N | some .L1 => some .l1
      | some .L2_N | some .L2 => some .l2
      | some .L3_N | some .L3 => some .l3
      | some .L1_L2 | some .L2_L3 | some .L3_L1 => none
      | _ => some .total

/-- Where a current goes. -/
def currentSlot (currentType : Option CurrentType) (phase : Option OCPPPhase) :
    Option PhaseSlot :=
  match currentType with
  | none => none
  | some .DC => some .dc
  | some .AC =>
      match phase with
      | some .L1 => some .l1
      | some .L2 => some .l2
      | some .L3 => some .l3
      | _ => some .total

/-- What is filed as the current: a value that is not of a single phase is the
current of each phase, and the record keeps the total. -/
def currentFactor (slot : Option PhaseSlot) (phases : ℕ) : ℚ :=
  if slot = some .total then phases else 1

end OCPPUtils

end EvServer
