import EvServer.SmartCharging.SiteArea

/-!
# The root fuse (`buildRootFuse`)

The optimizer may use what the site area can draw, less what the connectors draw that smart
charging has no hold on.  `buildRootFuse` walks through the stations and through the connectors
of each of them, from the last one to the first, takes such a connector off the root fuse and
out of its station, and a station that is left without connectors out of the site area.  Of
the connectors of a charge point that shares its power only one is taken out.

How many phases a station has is read off the station as it stands when a connector is taken
out of it.
-/

namespace EvServer

/-- The charge point of a connector, if it has one. -/
def Connector.chargePoint? (chargingStation : ChargingStation) (connector : Connector) :
    Option ChargePoint :=
  if connector.chargePointID ≠ 0 then
    Utils.getChargePointFromID chargingStation connector.chargePointID
  else none

/-- The charge point of a connector is the one of the station with its ID. -/
theorem Connector.chargePoint?_eq_some {chargingStation : ChargingStation} {connector : Connector}
    {chargePoint : ChargePoint} (h : connector.chargePoint? chargingStation = some chargePoint) :
    Utils.getChargePointFromID chargingStation connector.chargePointID = some chargePoint ∧
      chargePoint ∈ chargingStation.chargePoints ∧
      chargePoint.chargePointID = connector.chargePointID := by
  unfold Connector.chargePoint? at h
  split at h
  · exact ⟨h, List.mem_of_find?_eq_some h, of_decide_eq_true (List.find?_some
      (p := fun chargePoint : ChargePoint =>
        decide (chargePoint.chargePointID = connector.chargePointID)) h)⟩
  · cases h

/-- The phase of the grid that a single-phase station draws from; `none` for a phase that is
none of the three. -/
def Connector.phaseToGrid (connector : Connector) : Option OptimizerPhase :=
  match connector.csPhaseL1 with
  | none => some .phase1
  | some .L1 => some .phase1
  | some .L2 => some .phase2
  | some .L3 => some .phase3
  | some _ => none

/-- The efficiency of a charge point in percent; a safe value when it is not provided. -/
def efficiencyPercent (chargePoint : Option ChargePoint) : ℚ :=
  match chargePoint with
  | some chargePoint =>
      if 0 < chargePoint.efficiency then chargePoint.efficiency
      else Constants.dcChargingStationDefaultEfficiencyPercent
  | none => Constants.dcChargingStationDefaultEfficiencyPercent

/-- What a connector in use can draw from the grid, on each phase of the site area. -/
def connectorGridAmps (numberOfPhases : ℕ) (chargingStation : ChargingStation)
    (connector : Connector) : PhaseAmps :=
  let chargePoint := connector.chargePoint? chargingStation
  let connectorAmperage :=
    Utils.getChargingStationAmperage chargingStation chargePoint connector.connectorId
  -- Single-phased site area.
  if numberOfPhases = 1 then Pi.single .phase1 connectorAmperage
  -- Single-phased stations on three-phased site areas.
  else if Utils.getNumberOfConnectedPhases chargingStation none 0 = 1 then
    match connector.phaseToGrid with
    | some phase => Pi.single phase connectorAmperage
    | none => 0
  -- Three-phased AC/DC stations on three-phased site areas.
  else
    let connectorAmperagePerPhase := connectorAmperage / 3
    if Utils.getChargingStationCurrentType chargingStation none connector.connectorId =
        some .DC then
      fun _ => connectorAmperagePerPhase * 100 / efficiencyPercent chargePoint
    else fun _ => connectorAmperagePerPhase

/-- A connector is not left to the optimizer. -/
def isUnsupported (excludedChargingStations : List String) (chargingStation : ChargingStation)
    (chargePoint : Option ChargePoint) : Bool :=
  chargePoint.isNone || chargePoint.any ChargePoint.excludeFromPowerLimitation ||
    chargingStation.excludeFromSmartCharging || !chargingStation.supportChargingProfiles ||
    excludedChargingStations.contains chargingStation.id

/-- The connectors of the charge point have the power of one. -/
def ChargePoint.isShared (chargePoint : ChargePoint) : Bool :=
  chargePoint.sharePowerToAllConnectors || chargePoint.cannotChargeInParallel

/-- Where the walk through the connectors of a station has got to. -/
structure StationWalk where
  fusePhase : PhaseAmps
  chargePointIDsAlreadyProcessed : List ℕ := []
  /-- The connectors behind that are left. -/
  connectors : List Connector := []

section Walk

variable (numberOfPhases : ℕ) (excludedChargingStations : List String)

/-- One connector; `before` are those the walk has not got to. -/
def visitConnector (chargingStation : ChargingStation) (before : List Connector)
    (connector : Connector) (walk : StationWalk) : StationWalk :=
  let chargingStation :=
    { chargingStation with connectors := before ++ connector :: walk.connectors }
  let chargePoint := connector.chargePoint? chargingStation
  if isUnsupported excludedChargingStations chargingStation chargePoint &&
      !chargePoint.any fun chargePoint =>
        walk.chargePointIDsAlreadyProcessed.contains chargePoint.chargePointID then
    { fusePhase := walk.fusePhase - connectorGridAmps numberOfPhases chargingStation connector
      -- Do not process the same charge point again if power is shared.
      chargePointIDsAlreadyProcessed :=
        walk.chargePointIDsAlreadyProcessed ++
          ((chargePoint.filter ChargePoint.isShared).map ChargePoint.chargePointID).toList
      connectors := walk.connectors }
  else { walk with connectors := connector :: walk.connectors }

/-- The connectors of a station behind `before`, from the last one on. -/
def visitConnectors (chargingStation : ChargingStation) (fusePhase : PhaseAmps) :
    (before : List Connector) → List Connector → StationWalk
  | _, [] => { fusePhase }
  | before, connector :: rest =>
      visitConnector numberOfPhases excludedChargingStations chargingStation before connector
        (visitConnectors chargingStation fusePhase (before ++ [connector]) rest)

/-- The stations from the last one on; a station without connectors is removed. -/
def visitChargingStations (fusePhase : PhaseAmps) :
    List ChargingStation → PhaseAmps × List ChargingStation
  | [] => (fusePhase, [])
  | chargingStation :: rest =>
      let walked := visitChargingStations fusePhase rest
      let walk := visitConnectors numberOfPhases excludedChargingStations chargingStation walked.1
        [] chargingStation.connectors
      (walk.fusePhase,
        if walk.connectors.isEmpty then walked.2
        else { chargingStation with connectors := walk.connectors } :: walked.2)

end Walk

/-! ## What the walk takes out -/

section TakenOut

variable (excludedChargingStations : List String) (chargingStation : ChargingStation)

/-- The walk takes the connector out, with the connectors `later` behind it; of the connectors
of a shared charge point that is the last one. -/
def isTakenOut (later : List Connector) (connector : Connector) : Bool :=
  isUnsupported excludedChargingStations chargingStation (connector.chargePoint? chargingStation) &&
    !((connector.chargePoint? chargingStation).any ChargePoint.isShared &&
      later.any fun other => other.chargePointID = connector.chargePointID)

/-- The connectors that the walk leaves. -/
def remainingConnectors : List Connector → List Connector
  | [] => []
  | connector :: rest =>
      if isTakenOut excludedChargingStations chargingStation rest connector then
        remainingConnectors rest
      else connector :: remainingConnectors rest

/-- The connectors that are taken out, each with the station as it stands then. -/
def takenOutConnectors : (before : List Connector) → List Connector →
    List (ChargingStation × Connector)
  | _, [] => []
  | before, connector :: rest =>
      let later := takenOutConnectors (before ++ [connector]) rest
      if isTakenOut excludedChargingStations chargingStation rest connector then
        ({ chargingStation with
            connectors := before ++ connector ::
              remainingConnectors excludedChargingStations chargingStation rest }, connector)
          :: later
      else later

/-- A station without the connectors that are taken out of it. -/
def remainingChargingStation : ChargingStation :=
  { chargingStation with
    connectors := remainingConnectors excludedChargingStations chargingStation
      chargingStation.connectors }

/-- What the connectors can draw that are taken out of a station, as it is read then. -/
def takenOffAmps (numberOfPhases : ℕ) : PhaseAmps :=
  ((takenOutConnectors excludedChargingStations chargingStation [] chargingStation.connectors).map
    fun takenOut => connectorGridAmps numberOfPhases takenOut.1 takenOut.2).sum

end TakenOut

section WalkSpec

variable {excludedChargingStations : List String} {chargingStation : ChargingStation}
  {connector other : Connector} {chargePoint : ChargePoint}

theorem Connector.chargePoint?_congr (same : other.chargePointID = connector.chargePointID) :
    other.chargePoint? chargingStation = connector.chargePoint? chargingStation := by
  rw [Connector.chargePoint?, Connector.chargePoint?, same]

/-- A connector is taken out unless a later one of its charge point stands for it. -/
theorem isTakenOut_iff {later : List Connector}
    (found : connector.chargePoint? chargingStation = some chargePoint)
    (unsupported : isUnsupported excludedChargingStations chargingStation (some chargePoint)) :
    isTakenOut excludedChargingStations chargingStation later connector ↔
      ¬ (chargePoint.isShared ∧
        ∃ other ∈ later, other.chargePointID = connector.chargePointID) := by
  unfold isTakenOut
  rw [found, unsupported]
  simp [imp_iff_not_or]

variable {numberOfPhases : ℕ} {fusePhase : PhaseAmps}

section

variable {before connectors : List Connector}

/-- The walk has processed a shared charge point once it has met a connector of it. -/
def ProcessesShared (excludedChargingStations : List String) (chargingStation : ChargingStation)
    (connectors : List Connector) (chargePointIDsAlreadyProcessed : List ℕ) : Prop :=
  ∀ (connector : Connector) (chargePoint : ChargePoint),
    connector.chargePoint? chargingStation = some chargePoint →
    isUnsupported excludedChargingStations chargingStation (some chargePoint) →
      (chargePoint.chargePointID ∈ chargePointIDsAlreadyProcessed ↔
        chargePoint.isShared ∧
          ∃ other ∈ connectors, other.chargePointID = connector.chargePointID)

/-- The test of the walk is the one of `isTakenOut`. -/
theorem visits_eq_isTakenOut {walk : StationWalk}
    (processes : ProcessesShared excludedChargingStations chargingStation connectors
      walk.chargePointIDsAlreadyProcessed) (connector : Connector) :
    (isUnsupported excludedChargingStations chargingStation
        (connector.chargePoint? chargingStation) &&
      !(connector.chargePoint? chargingStation).any fun chargePoint =>
        walk.chargePointIDsAlreadyProcessed.contains chargePoint.chargePointID) =
      isTakenOut excludedChargingStations chargingStation connectors connector := by
  rw [Bool.eq_iff_iff]
  cases found : connector.chargePoint? chargingStation with
  | none => simp [isTakenOut, found]
  | some chargePoint =>
      cases unsupported : isUnsupported excludedChargingStations chargingStation
          (some chargePoint) with
      | false => simp [isTakenOut, found, unsupported]
      | true =>
          rw [isTakenOut_iff found unsupported, ← processes connector chargePoint found unsupported]
          simp

/-- What the walk does with one connector. -/
theorem visitConnector_eq {walk : StationWalk}
    (processes : ProcessesShared excludedChargingStations chargingStation connectors
      walk.chargePointIDsAlreadyProcessed) :
    visitConnector numberOfPhases excludedChargingStations chargingStation before connector walk =
      if isTakenOut excludedChargingStations chargingStation connectors connector then
        { fusePhase := walk.fusePhase - connectorGridAmps numberOfPhases
            { chargingStation with connectors := before ++ connector :: walk.connectors } connector
          chargePointIDsAlreadyProcessed := walk.chargePointIDsAlreadyProcessed ++
            (((connector.chargePoint? chargingStation).filter ChargePoint.isShared).map
              ChargePoint.chargePointID).toList
          connectors := walk.connectors }
      else { walk with connectors := connector :: walk.connectors } := by
  rw [← visits_eq_isTakenOut processes connector]
  rfl

theorem processesShared_nil :
    ProcessesShared excludedChargingStations chargingStation [] [] := by
  intro connector chargePoint found unsupported
  simp

/-- The walk goes on knowing which charge points it has processed. -/
theorem ProcessesShared.cons {walk : StationWalk}
    (processes : ProcessesShared excludedChargingStations chargingStation connectors
      walk.chargePointIDsAlreadyProcessed) :
    ProcessesShared excludedChargingStations chargingStation (connector :: connectors)
      (visitConnector numberOfPhases excludedChargingStations chargingStation before connector
        walk).chargePointIDsAlreadyProcessed := by
  intro other chargePoint found unsupported
  have known := processes other chargePoint found unsupported
  obtain ⟨-, -, id⟩ := Connector.chargePoint?_eq_some found
  -- The ID that a connector adds is the one of its own charge point.
  have added : chargePoint.chargePointID ∈
      (((connector.chargePoint? chargingStation).filter ChargePoint.isShared).map
        ChargePoint.chargePointID).toList ↔
      chargePoint.isShared ∧ connector.chargePointID = other.chargePointID := by
    simp only [Option.mem_toList, Option.map_eq_some_iff, Option.filter_eq_some_iff]
    constructor
    · rintro ⟨chargePoint', ⟨found', shared⟩, same⟩
      have same' := (Connector.chargePoint?_eq_some found').2.2.symm.trans (same.trans id)
      rw [Connector.chargePoint?_congr same', found, Option.some.injEq] at found'
      exact ⟨found' ▸ shared, same'⟩
    · rintro ⟨shared, same⟩
      exact ⟨chargePoint, ⟨(Connector.chargePoint?_congr same).trans found, shared⟩, rfl⟩
  rw [visitConnector_eq processes, List.exists_mem_cons_iff]
  split
  · rw [List.mem_append, known, added, and_or_left, or_comm]
  · rename_i notTaken
    refine known.trans (and_congr_right fun shared => ⟨Or.inr, ?_⟩)
    rintro (same | earlier)
    · -- A connector that stays leaves its charge point to a later one.
      have found' := (Connector.chargePoint?_congr same).trans found
      have stands := not_not.mp (mt (isTakenOut_iff found' unsupported).mpr notTaken)
      rw [same] at stands
      exact stands.2
    · exact earlier

variable (before connectors) in
/-- The walk through the connectors of a station, by what it takes out. -/
theorem visitConnectors_spec :
    ProcessesShared excludedChargingStations chargingStation connectors
        (visitConnectors numberOfPhases excludedChargingStations chargingStation fusePhase before
          connectors).chargePointIDsAlreadyProcessed ∧
      (visitConnectors numberOfPhases excludedChargingStations chargingStation fusePhase before
          connectors).connectors =
        remainingConnectors excludedChargingStations chargingStation connectors ∧
      (visitConnectors numberOfPhases excludedChargingStations chargingStation fusePhase before
          connectors).fusePhase =
        fusePhase - ((takenOutConnectors excludedChargingStations chargingStation before
          connectors).map fun takenOut =>
            connectorGridAmps numberOfPhases takenOut.1 takenOut.2).sum := by
  induction connectors generalizing before with
  | nil => exact ⟨processesShared_nil, rfl, by simp [visitConnectors, takenOutConnectors]⟩
  | cons connector rest ih =>
      obtain ⟨processes, remaining, fuse⟩ := ih (before ++ [connector])
      refine ⟨processes.cons, ?_⟩
      rw [visitConnectors, visitConnector_eq processes, remaining, fuse, remainingConnectors,
        takenOutConnectors]
      split
      · refine ⟨rfl, ?_⟩
        rw [List.map_cons, List.sum_cons, sub_sub, add_comm (connectorGridAmps _ _ _)]
      · exact ⟨rfl, rfl⟩

/-- The connectors that are left in a station. -/
theorem connectors_visitConnectors :
    (visitConnectors numberOfPhases excludedChargingStations chargingStation fusePhase before
      connectors).connectors =
      remainingConnectors excludedChargingStations chargingStation connectors :=
  (visitConnectors_spec before _).2.1

/-- What the walk through a station takes off the root fuse. -/
theorem fusePhase_visitConnectors :
    (visitConnectors numberOfPhases excludedChargingStations chargingStation fusePhase []
      chargingStation.connectors).fusePhase =
      fusePhase - takenOffAmps excludedChargingStations chargingStation numberOfPhases :=
  (visitConnectors_spec [] _).2.2

end

variable {chargingStations : List ChargingStation}

/-- The amps left by the walk through the stations. -/
theorem fst_visitChargingStations :
    (visitChargingStations numberOfPhases excludedChargingStations fusePhase chargingStations).1 =
      fusePhase - (chargingStations.map fun chargingStation =>
        takenOffAmps excludedChargingStations chargingStation numberOfPhases).sum := by
  induction chargingStations with
  | nil => exact (sub_zero fusePhase).symm
  | cons chargingStation rest ih =>
      rw [visitChargingStations, fusePhase_visitConnectors, ih, List.map_cons, List.sum_cons]
      exact (sub_sub _ _ _).trans (congrArg _ (add_comm _ _))

/-- The stations left by the walk. -/
theorem snd_visitChargingStations :
    (visitChargingStations numberOfPhases excludedChargingStations fusePhase chargingStations).2 =
      (chargingStations.map (remainingChargingStation excludedChargingStations)).filter
        fun chargingStation => !chargingStation.connectors.isEmpty := by
  induction chargingStations with
  | nil => rfl
  | cons chargingStation rest ih =>
      rw [visitChargingStations, connectors_visitConnectors, ih, List.map_cons, List.filter_cons]
      cases empty : (remainingConnectors excludedChargingStations chargingStation
          chargingStation.connectors).isEmpty with
      | true => simp [remainingChargingStation, empty]
      | false => simp [remainingChargingStation, empty]

/-! ## What the walk leaves -/

theorem remainingConnectors_sublist (connectors : List Connector) :
    (remainingConnectors excludedChargingStations chargingStation connectors).Sublist
      connectors := by
  induction connectors with
  | nil => exact .slnil
  | cons connector rest ih =>
      rw [remainingConnectors]
      split
      · exact ih.cons connector
      · exact ih.cons_cons connector

/-- A connector of a station is taken out or left. -/
theorem takenOut_append_remaining_perm (before connectors : List Connector) :
    ((takenOutConnectors excludedChargingStations chargingStation before connectors).map
        Prod.snd ++
      remainingConnectors excludedChargingStations chargingStation connectors).Perm
      connectors := by
  induction connectors generalizing before with
  | nil => exact .nil
  | cons connector rest ih =>
      rw [takenOutConnectors, remainingConnectors]
      split
      · exact (ih _).cons connector
      · exact List.perm_middle.trans ((ih _).cons connector)

/-- The stations that are left have distinct IDs, as before. -/
theorem nodup_visitChargingStations
    (nodup : (chargingStations.map ChargingStation.id).Nodup) :
    ((visitChargingStations numberOfPhases excludedChargingStations fusePhase
      chargingStations).2.map ChargingStation.id).Nodup := by
  rw [snd_visitChargingStations]
  have ids : (chargingStations.map (remainingChargingStation excludedChargingStations)).map
      ChargingStation.id = chargingStations.map ChargingStation.id := by
    rw [List.map_map]
    rfl
  exact (ids ▸ nodup).sublist (List.filter_sublist.map ChargingStation.id)

/-- The connectors that are left have distinct IDs, as before. -/
theorem apart_visitChargingStations
    (apart : ∀ chargingStation ∈ chargingStations,
      (chargingStation.connectors.map Connector.connectorId).Nodup) :
    ∀ chargingStation ∈ (visitChargingStations numberOfPhases excludedChargingStations fusePhase
      chargingStations).2, (chargingStation.connectors.map Connector.connectorId).Nodup := by
  intro chargingStation mem
  rw [snd_visitChargingStations] at mem
  obtain ⟨old, memOld, rfl⟩ := List.mem_map.mp (List.mem_filter.mp mem).1
  exact (apart old memOld).sublist
    ((remainingConnectors_sublist old.connectors).map Connector.connectorId)

end WalkSpec

/-! ## The root fuse -/

/-- `OptimizerChargingStationConnectorFuse`. -/
structure OptimizerChargingStationConnectorFuse where
  id : ℕ
  fusePhase : PhaseAmps
  phaseConnected : OptimizerPhase → Bool
  /-- The station and the connector the fuse is built for; the optimizer is told by the name
  of the car that is assigned to it. -/
  connector : String × ℕ
  deriving DecidableEq

/-- `OptimizerChargingStationFuse`. -/
structure OptimizerChargingStationFuse where
  id : ℕ
  fusePhase : PhaseAmps
  phaseConnected : OptimizerPhase → Bool
  children : List OptimizerChargingStationConnectorFuse
  deriving DecidableEq

/-- `OptimizerFuse`. -/
structure OptimizerFuse where
  id : ℕ
  fusePhase : PhaseAmps
  phaseConnected : OptimizerPhase → Bool
  children : List OptimizerChargingStationFuse
  deriving DecidableEq

/-- The phase is the first one, or there are several. -/
def isPhaseConnected (numberOfPhases : ℕ) (phase : OptimizerPhase) : Bool :=
  phase = .phase1 || 1 < numberOfPhases

/-- The amps of the site on each phase, without what its assets consume. -/
def siteMaxAmpsPerPhase (context : SmartChargingContext) (siteArea : SiteArea) : PhaseAmps :=
  fun phase =>
    if isPhaseConnected siteArea.numberOfPhases phase then
      (siteArea.maximumPower - getAssetConsumptionInWatts context siteArea.id) /
        siteArea.voltage / siteArea.numberOfPhases
    else 0

/-- `buildRootFuse`, with the site area it leaves. -/
def buildRootFuse (context : SmartChargingContext) (siteArea : SiteArea) (fuseID : ℕ)
    (excludedChargingStations : List String) : OptimizerFuse × SiteArea :=
  let walked := visitChargingStations siteArea.numberOfPhases excludedChargingStations
    (siteMaxAmpsPerPhase context siteArea) siteArea.chargingStations.docs
  ({ id := fuseID
     -- Ensure always positive.
     fusePhase := fun phase => if walked.1 phase < 0 then 0 else walked.1 phase
     phaseConnected := isPhaseConnected siteArea.numberOfPhases
     children := [] },
    { siteArea with
      chargingStations := ⟨walked.2, nodup_visitChargingStations siteArea.chargingStations.nodup⟩
      apart := apart_visitChargingStations siteArea.apart })

section

variable (context : SmartChargingContext) (siteArea : SiteArea) (fuseID : ℕ)
  (excludedChargingStations : List String)

/-- What the connectors can draw that are taken out of a site area, as they are read then. -/
def SiteArea.takenOffAmps : PhaseAmps :=
  (siteArea.chargingStations.docs.map fun chargingStation =>
    EvServer.takenOffAmps excludedChargingStations chargingStation siteArea.numberOfPhases).sum

/-- **The root fuse.**  It is what the amps of the site leave, and never negative. -/
theorem fusePhase_buildRootFuse (phase : OptimizerPhase) :
    (buildRootFuse context siteArea fuseID excludedChargingStations).1.fusePhase phase =
      max 0 (siteMaxAmpsPerPhase context siteArea phase -
        siteArea.takenOffAmps excludedChargingStations phase) := by
  change (if _ < _ then _ else _) = _
  rw [fst_visitChargingStations]
  change (if siteMaxAmpsPerPhase context siteArea phase -
    siteArea.takenOffAmps excludedChargingStations phase < 0 then _ else _) = _
  rcases lt_or_ge (siteMaxAmpsPerPhase context siteArea phase -
      siteArea.takenOffAmps excludedChargingStations phase) 0 with negative | positive
  · rw [if_pos negative, max_eq_left negative.le]
  · rw [if_neg (not_lt.mpr positive), max_eq_right positive]
    rfl

/-- The stations that are left are those with connectors that are left. -/
theorem docs_buildRootFuse :
    (buildRootFuse context siteArea fuseID excludedChargingStations).2.chargingStations.docs =
      (siteArea.chargingStations.docs.map
        (remainingChargingStation excludedChargingStations)).filter
          fun chargingStation => !chargingStation.connectors.isEmpty :=
  snd_visitChargingStations

end

end EvServer
