import EvServer.Lib.Outcome
import EvServer.SmartCharging.RootFuse

/-!
# Fuses of stations and connectors

Below the root fuse there is a fuse for each station and below that one for each connector,
with what the connector can draw from the grid on each phase.
-/

namespace EvServer

/-- `ConnectorAmps`. -/
structure ConnectorAmps where
  numberOfConnectedPhase : ℕ
  totalAmps : ℚ
  deriving DecidableEq, Repr

/-- `connectorIsCharging`. -/
def connectorIsCharging (connector : Connector) : Bool :=
  connector.status = .charging || connector.status = .suspendedEv ||
    connector.status = .suspendedEvse || connector.status = .occupied

/-- The connectors of a charge point that are charging; those of another status are not in the
station. -/
def numberOfConnectorsCurrentlyCharging (chargingStation : ChargingStation)
    (chargePoint : ChargePoint) : ℕ :=
  chargePoint.connectorIDs.countP fun connectorID =>
    (Utils.getConnectorFromID chargingStation connectorID).any connectorIsCharging

/-- The amps of a connector, given those of its charge point: the connectors that are charging
share them, or get none when they cannot charge in parallel. -/
def shareAmps (chargePoint : ChargePoint) (charging : ℕ) (totalAmps : ℚ) : ℚ :=
  if chargePoint.isShared && 1 ≤ charging then
    if chargePoint.cannotChargeInParallel && 1 < charging then 0
    else if chargePoint.sharePowerToAllConnectors then totalAmps / charging
    else totalAmps
  else totalAmps

/-- The number of phases and the amps of a connector, before they are checked. -/
def readConnectorAmps (chargingStation : ChargingStation) (connector : Connector) :
    Except String ConnectorAmps :=
  if connector.chargePointID ≠ 0 then
    match Utils.getChargePointFromID chargingStation connector.chargePointID with
    | none =>
        .error "TypeError: Cannot read property 'sharePowerToAllConnectors' of undefined"
    | some chargePoint =>
        .ok {
          numberOfConnectedPhase := Utils.getNumberOfConnectedPhases chargingStation
            (some chargePoint) connector.connectorId
          totalAmps := shareAmps chargePoint
            (numberOfConnectorsCurrentlyCharging chargingStation chargePoint)
            (Utils.getChargingStationAmperage chargingStation (some chargePoint)
              connector.connectorId) }
  else
    .ok {
      numberOfConnectedPhase := connector.numberOfConnectedPhase
      totalAmps := connector.amperage }

/-- `getConnectorNbrOfPhasesAndAmps`. -/
def getConnectorNbrOfPhasesAndAmps (siteArea : SiteArea) (chargingStation : ChargingStation)
    (connector : Connector) : Except String ConnectorAmps := do
  let connectorAmps ← readConnectorAmps chargingStation connector
  if connectorAmps.numberOfConnectedPhase = 0 then
    .error (s!"{siteArea.name} > Cannot get the number of phases of " ++
      s!"connector ID '{connector.connectorId}'")
  else if connectorAmps.totalAmps = 0 then
    .error (s!"{siteArea.name} > Cannot get the amperage of " ++
      s!"connector ID '{connector.connectorId}'")
  else .ok connectorAmps

/-- The divisor of the amps of a DC connector.  The default is not divided by 100 as an
efficiency that is provided is. -/
def gridEfficiency (chargePoint : Option ChargePoint) : ℚ :=
  match chargePoint with
  | some chargePoint =>
      if 0 < chargePoint.efficiency then chargePoint.efficiency / 100
      else Constants.dcChargingStationDefaultEfficiencyPercent
  | none => Constants.dcChargingStationDefaultEfficiencyPercent

/-- `buildChargingStationConnectorFuse`. -/
def buildChargingStationConnectorFuse (siteArea : SiteArea) (fuseID : ℕ)
    (chargingStation : ChargingStation) (connector : Connector) :
    Except String OptimizerChargingStationConnectorFuse := do
  let connectorAmps ← getConnectorNbrOfPhasesAndAmps siteArea chargingStation connector
  let connectorAmpsPerPhase := connectorAmps.totalAmps / connectorAmps.numberOfConnectedPhase
  let connectorAmpsPerPhase :=
    if Utils.getChargingStationCurrentType chargingStation none connector.connectorId =
        some .DC then
      connectorAmpsPerPhase / gridEfficiency
        (Utils.getChargePointFromID chargingStation connector.chargePointID)
    else connectorAmpsPerPhase
  .ok {
    id := fuseID
    fusePhase := fun phase =>
      if isPhaseConnected connectorAmps.numberOfConnectedPhase phase then connectorAmpsPerPhase
      else 0
    phaseConnected := isPhaseConnected connectorAmps.numberOfConnectedPhase
    connector := (chargingStation.id, connector.connectorId) }

/-- `buildChargingStationFuse`. -/
def buildChargingStationFuse (fuseID : ℕ) (sumConnectorAmperage : PhaseAmps)
    (chargingStationConnectorsFuse : List OptimizerChargingStationConnectorFuse) :
    OptimizerChargingStationFuse where
  id := fuseID
  fusePhase := sumConnectorAmperage
  phaseConnected := fun phase => phase = .phase1 || 0 < sumConnectorAmperage phase
  children := chargingStationConnectorsFuse

section

variable {siteArea : SiteArea} {chargingStation : ChargingStation} {connector : Connector}
  {connectorAmps : ConnectorAmps} {fuseID : ℕ} {fuse : OptimizerChargingStationConnectorFuse}

/-- A connector whose amps are known has phases and draws a current. -/
theorem getConnectorNbrOfPhasesAndAmps_ok
    (h : getConnectorNbrOfPhasesAndAmps siteArea chargingStation connector = .ok connectorAmps) :
    readConnectorAmps chargingStation connector = .ok connectorAmps ∧
      connectorAmps.numberOfConnectedPhase ≠ 0 ∧ connectorAmps.totalAmps ≠ 0 := by
  obtain ⟨read, hread, h⟩ := Outcome.bind_eq_ok.mp h
  split at h
  · cases h
  · rename_i phases
    split at h
    · cases h
    · rename_i amps
      cases h
      exact ⟨hread, phases, amps⟩

/-- The fuse of a connector is one for that connector. -/
theorem connector_of_buildChargingStationConnectorFuse
    (h : buildChargingStationConnectorFuse siteArea fuseID chargingStation connector = .ok fuse) :
    fuse.connector = (chargingStation.id, connector.connectorId) := by
  obtain ⟨connectorAmps, -, h⟩ := Outcome.bind_eq_ok.mp h
  cases h
  rfl

/-- The fuse of a connector has the given ID. -/
theorem id_of_buildChargingStationConnectorFuse
    (h : buildChargingStationConnectorFuse siteArea fuseID chargingStation connector = .ok fuse) :
    fuse.id = fuseID := by
  obtain ⟨connectorAmps, -, h⟩ := Outcome.bind_eq_ok.mp h
  cases h
  rfl

end

end EvServer
