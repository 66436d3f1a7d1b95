import EvServer.Utils

/-!
# Charging stations and what `Utils` reads off them

The records follow `types/ChargingStation.ts`, with the properties some function of
the model reads or writes.  The lookups are those of `utils/Utils.ts`: each one
looks at the charge points first, then at the connectors, and keeps the source's
order of the tests, because a station may leave a property to either level.

A numeric property that is not set has the value `0`, which the lookups skip as
the source skips a falsy one.
-/

namespace EvServer

/-- `CurrentType`. -/
inductive CurrentType
  | AC
  | DC
  deriving DecidableEq, Repr

/-- `ChargePointStatus`. -/
inductive ChargePointStatus
  | available
  | preparing
  | charging
  | occupied
  | suspendedEvse
  | suspendedEv
  | finishing
  | reserved
  | unavailable
  | faulted
  deriving DecidableEq, Repr

/-- `ChargingRateUnitType`. -/
inductive ChargingRateUnitType
  | watt
  | ampere
  deriving DecidableEq, Repr

/-- `OCPPPhase`. -/
inductive OCPPPhase
  | L1
  | L2
  | L3
  | N
  | L1_N
  | L2_N
  | L3_N
  | L1_L2
  | L2_L3
  | L3_L1
  deriving DecidableEq, Repr

/-- `InactivityStatus`. -/
inductive InactivityStatus
  | info
  | warning
  | error
  deriving DecidableEq, Repr

/-- `ChargePoint`. -/
structure ChargePoint where
  chargePointID : ℕ
  currentType : Option CurrentType := none
  voltage : ℚ := 0
  amperage : ℚ := 0
  numberOfConnectedPhase : ℕ := 0
  cannotChargeInParallel : Bool := false
  sharePowerToAllConnectors : Bool := false
  excludeFromPowerLimitation : Bool := false
  /-- In percent. -/
  efficiency : ℚ := 0
  connectorIDs : List ℕ := []
  /-- Empty when the template does not provide it. -/
  ocppParamForPowerLimitation : String := ""
  deriving DecidableEq, Repr

/-- `Connector`; the `current…` properties are the runtime data of its session. -/
structure Connector where
  connectorId : ℕ
  status : ChargePointStatus := .available
  errorCode : Option String := none
  info : Option String := none
  vendorErrorCode : Option String := none
  chargePointID : ℕ := 0
  power : Option ℚ := none
  voltage : ℚ := 0
  amperage : ℚ := 0
  amperageLimit : Option ℚ := none
  numberOfConnectedPhase : ℕ := 0
  currentType : Option CurrentType := none
  /-- `phaseAssignmentToGrid.csPhaseL1`, when the connector has an assignment. -/
  csPhaseL1 : Option OCPPPhase := none
  currentInstantWatts : ℚ := 0
  currentStateOfCharge : ℚ := 0
  currentTotalConsumptionWh : ℚ := 0
  currentTotalInactivitySecs : ℚ := 0
  currentInactivityStatus : InactivityStatus := .info
  /-- `0` when no transaction runs on the connector. -/
  currentTransactionID : ℕ := 0
  currentTransactionDate : Option Timestamp := none
  currentTagID : Option String := none
  currentUserID : Option String := none
  deriving DecidableEq, Repr

/-- `ChargingStation`. -/
structure ChargingStation where
  id : String
  chargePointVendor : String := ""
  chargePointModel : String := ""
  chargePointSerialNumber : Option String := none
  siteAreaID : Option String := none
  siteID : Option String := none
  companyID : Option String := none
  voltage : ℚ := 0
  excludeFromSmartCharging : Bool := false
  /-- `capabilities?.supportChargingProfiles`. -/
  supportChargingProfiles : Bool := true
  chargePoints : List ChargePoint := []
  connectors : List Connector := []
  /-- The connectors of before the last boot that the station has not reported since. -/
  backupConnectors : List Connector := []
  powerLimitUnit : ChargingRateUnitType := .ampere
  /-- `capabilities?.supportStaticLimitation`. -/
  supportStaticLimitation : Bool := false
  deriving DecidableEq, Repr

/-- `StaticLimitAmps.MIN_LIMIT_PER_PHASE`. -/
def StaticLimitAmps.minLimitPerPhase : ℚ := 6

/-- `Constants.DC_CHARGING_STATION_DEFAULT_EFFICIENCY_PERCENT`. -/
def Constants.dcChargingStationDefaultEfficiencyPercent : ℚ := 80

namespace Utils

/-- `Utils.getConnectorFromID`. -/
def getConnectorFromID (chargingStation : ChargingStation) (connectorID : ℕ) :
    Option Connector :=
  chargingStation.connectors.find? fun connector => connector.connectorId = connectorID

theorem getConnectorFromID_eq_some {chargingStation : ChargingStation} {connectorID : ℕ}
    {connector : Connector} (h : getConnectorFromID chargingStation connectorID = some connector) :
    connector ∈ chargingStation.connectors ∧ connector.connectorId = connectorID :=
  ⟨List.mem_of_find?_eq_some h,
    of_decide_eq_true
      (List.find?_some (p := fun c : Connector => decide (c.connectorId = connectorID)) h)⟩

/-- `Utils.getChargePointFromID`. -/
def getChargePointFromID (chargingStation : ChargingStation) (chargePointID : ℕ) :
    Option ChargePoint :=
  chargingStation.chargePoints.find? fun chargePoint =>
    chargePoint.chargePointID = chargePointID

/-- The charge points a lookup considers: all of them, or the given one. -/
def isConsidered (chargePoint : Option ChargePoint) (chargePointOfCS : ChargePoint) : Bool :=
  match chargePoint with
  | none => true
  | some chargePoint => chargePoint.chargePointID = chargePointOfCS.chargePointID

/-- `Utils.getNumberOfConnectedPhases`; connector `0` stands for the whole station. -/
def getNumberOfConnectedPhases (chargingStation : ChargingStation)
    (chargePoint : Option ChargePoint) (connectorId : ℕ) : ℕ :=
  let ofChargePoint (chargePointOfCS : ChargePoint) : Option ℕ :=
    if isConsidered chargePoint chargePointOfCS then
      if connectorId = 0 ∧ chargePointOfCS.numberOfConnectedPhase ≠ 0 then
        some chargePointOfCS.numberOfConnectedPhase
      else if connectorId ∈ chargePointOfCS.connectorIDs ∧
          chargePointOfCS.numberOfConnectedPhase ≠ 0 then
        match getConnectorFromID chargingStation connectorId with
        | some connector =>
            if connector.numberOfConnectedPhase ≠ 0 then
              some connector.numberOfConnectedPhase
            else some chargePointOfCS.numberOfConnectedPhase
        | none => some chargePointOfCS.numberOfConnectedPhase
      else none
    else none
  let ofConnector (connector : Connector) : Option ℕ :=
    if (connectorId = 0 ∨ connector.connectorId = connectorId) ∧
        connector.numberOfConnectedPhase ≠ 0 then
      some connector.numberOfConnectedPhase
    else none
  match chargingStation.chargePoints.findSome? ofChargePoint with
  | some phases => phases
  | none => (chargingStation.connectors.findSome? ofConnector).getD 1

/-- `Utils.getChargingStationVoltage`; the default avoids dividing by zero. -/
def getChargingStationVoltage (chargingStation : ChargingStation)
    (chargePoint : Option ChargePoint) (connectorId : ℕ) : ℚ :=
  let ofChargePoint (chargePointOfCS : ChargePoint) : Option ℚ :=
    if isConsidered chargePoint chargePointOfCS then
      if connectorId = 0 ∧ chargePointOfCS.voltage ≠ 0 then some chargePointOfCS.voltage
      else if connectorId ∈ chargePointOfCS.connectorIDs ∧ chargePointOfCS.voltage ≠ 0 then
        match getConnectorFromID chargingStation connectorId with
        | some connector =>
            if connector.voltage ≠ 0 then some connector.voltage
            else some chargePointOfCS.voltage
        | none => some chargePointOfCS.voltage
      else none
    else none
  let ofConnector (connector : Connector) : Option ℚ :=
    if (connectorId = 0 ∨ connector.connectorId = connectorId) ∧ connector.voltage ≠ 0 then
      some connector.voltage
    else none
  if chargingStation.voltage ≠ 0 then chargingStation.voltage
  else
    match chargingStation.chargePoints.findSome? ofChargePoint with
    | some voltage => voltage
    | none => (chargingStation.connectors.findSome? ofConnector).getD 230

/-- `Utils.getChargingStationCurrentType`. -/
def getChargingStationCurrentType (chargingStation : ChargingStation)
    (chargePoint : Option ChargePoint) (connectorId : ℕ) : Option CurrentType :=
  let ofChargePoint (chargePointOfCS : ChargePoint) : Option CurrentType :=
    if isConsidered chargePoint chargePointOfCS then
      if connectorId = 0 ∧ chargePointOfCS.currentType.isSome then chargePointOfCS.currentType
      else if connectorId ∈ chargePointOfCS.connectorIDs ∧
          chargePointOfCS.currentType.isSome then
        ((getConnectorFromID chargingStation connectorId).bind Connector.currentType).or
          chargePointOfCS.currentType
      else none
    else none
  let ofConnector (connector : Connector) : Option CurrentType :=
    if connectorId = 0 ∨ connector.connectorId = connectorId then connector.currentType
    else none
  (chargingStation.chargePoints.findSome? ofChargePoint).or
    (chargingStation.connectors.findSome? ofConnector)

/-- `Utils.getChargingStationAmperage`. -/
def getChargingStationAmperage (chargingStation : ChargingStation)
    (chargePoint : Option ChargePoint) (connectorId : ℕ) : ℚ :=
  let considered := chargingStation.chargePoints.filter (isConsidered chargePoint)
  -- A charge point of the connector ends the loop with a `return`.
  let ofChargePoint (chargePointOfCS : ChargePoint) : Option ℚ :=
    if connectorId ≠ 0 ∧ connectorId ∈ chargePointOfCS.connectorIDs ∧
        chargePointOfCS.amperage ≠ 0 then
      if chargePointOfCS.cannotChargeInParallel || chargePointOfCS.sharePowerToAllConnectors then
        match getConnectorFromID chargingStation connectorId with
        | some connector =>
            if connector.amperage ≠ 0 then some connector.amperage
            else some chargePointOfCS.amperage
        | none => some chargePointOfCS.amperage
      else some (chargePointOfCS.amperage / chargePointOfCS.connectorIDs.length)
    else none
  let ofConnector (connector : Connector) : Option ℚ :=
    if connector.connectorId = connectorId ∧ connector.amperage ≠ 0 then
      some connector.amperage
    else none
  match considered.findSome? ofChargePoint with
  | some amperage => amperage
  | none =>
      let totalAmps := if connectorId = 0 then (considered.map ChargePoint.amperage).sum else 0
      if totalAmps = 0 then
        match chargingStation.connectors.findSome? ofConnector with
        | some amperage => amperage
        | none =>
            if connectorId = 0 then (chargingStation.connectors.map Connector.amperage).sum else 0
      else totalAmps

/-- `Utils.convertAmpToWatt`; the voltage read off a station is never falsy. -/
def convertAmpToWatt (chargingStation : ChargingStation) (chargePoint : Option ChargePoint)
    (connectorID : ℕ) (ampValue : ℚ) : ℚ :=
  getChargingStationVoltage chargingStation chargePoint connectorID * ampValue

/-- `Utils.convertWattToAmp`. -/
def convertWattToAmp (chargingStation : ChargingStation) (chargePoint : Option ChargePoint)
    (connectorID : ℕ) (wattValue : ℚ) : ℚ :=
  wattValue / getChargingStationVoltage chargingStation chargePoint connectorID

/-- `Utils.getEndOfChargeNotificationIntervalMins`. -/
def getEndOfChargeNotificationIntervalMins (chargingStation : ChargingStation)
    (connectorId : ℕ) : ℕ :=
  match (getConnectorFromID chargingStation connectorId).bind Connector.power with
  | none => 0
  | some power =>
      if power ≤ 3680 then 120
      else if power ≤ 7360 then 60
      else if power < 50000 then 30
      else 15

/-- `Utils.getInactivityStatusLevel`. -/
def getInactivityStatusLevel (chargingStation : ChargingStation) (connectorId : ℕ)
    (inactivitySecs : ℚ) : InactivityStatus :=
  let intervalMins := getEndOfChargeNotificationIntervalMins chargingStation connectorId
  if inactivitySecs = 0 then .info
  else if inactivitySecs < intervalMins * 60 then .info
  else if inactivitySecs < intervalMins * 60 * 2 then .warning
  else .error

/-- The number of connected phases is never zero, so it can be divided by. -/
theorem getNumberOfConnectedPhases_ne_zero (chargingStation : ChargingStation)
    (chargePoint : Option ChargePoint) (connectorId : ℕ) :
    getNumberOfConnectedPhases chargingStation chargePoint connectorId ≠ 0 := by
  unfold getNumberOfConnectedPhases
  dsimp only
  split
  · rename_i phases found
    obtain ⟨chargePointOfCS, -, hphases⟩ := List.exists_of_findSome?_eq_some found
    grind
  · intro hzero
    cases found : chargingStation.connectors.findSome? (fun connector =>
        if (connectorId = 0 ∨ connector.connectorId = connectorId) ∧
            connector.numberOfConnectedPhase ≠ 0 then
          some connector.numberOfConnectedPhase
        else none) with
    | none => simp [found] at hzero
    | some phases =>
        obtain ⟨connector, -, hphases⟩ := List.exists_of_findSome?_eq_some found
        simp only [found, Option.getD_some] at hzero
        grind

/-- The voltage is never zero, so it can be divided by. -/
theorem getChargingStationVoltage_ne_zero (chargingStation : ChargingStation)
    (chargePoint : Option ChargePoint) (connectorId : ℕ) :
    getChargingStationVoltage chargingStation chargePoint connectorId ≠ 0 := by
  unfold getChargingStationVoltage
  dsimp only
  split
  · assumption
  · split
    · rename_i voltage found
      obtain ⟨chargePointOfCS, -, hvoltage⟩ := List.exists_of_findSome?_eq_some found
      grind
    · intro hzero
      cases found : chargingStation.connectors.findSome? (fun connector =>
          if (connectorId = 0 ∨ connector.connectorId = connectorId) ∧ connector.voltage ≠ 0 then
            some connector.voltage
          else none) with
      | none => simp [found] at hzero
      | some voltage =>
          obtain ⟨connector, -, hvoltage⟩ := List.exists_of_findSome?_eq_some found
          simp only [found, Option.getD_some] at hzero
          grind

end Utils

end EvServer
