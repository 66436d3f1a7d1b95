import EvServer.SmartCharging.FuseTree

/-!
# The request to the optimizer (`buildOptimizerRequest`)

Each connector that the root fuse has left gets a fuse in the tree and a car that is assigned
to it.  A connector without a transaction gets neither: its station is excluded, and when the
loop is over the request is built once more.  The second run is given the site area as the
first one has left it; `originalSiteArea` is only another name for it.
-/

namespace EvServer

/-- `OptimizerCar`, up to what the optimizer alone reads. -/
structure OptimizerCar where
  id : ℕ
  name : String
  deriving DecidableEq, Repr

/-- `OptimizerCarConnectorAssignment`. -/
structure OptimizerCarConnectorAssignment where
  carID : ℕ
  chargingStationID : ℕ
  deriving DecidableEq, Repr

/-- `OptimizerChargingProfilesRequest`, up to the event and the time. -/
structure OptimizerChargingProfilesRequest where
  rootFuse : OptimizerFuse
  cars : List OptimizerCar
  carAssignments : List OptimizerCarConnectorAssignment
  deriving DecidableEq

/-- `getTransactionFromChargingConnector`. -/
def getTransactionFromChargingConnector (context : SmartChargingContext)
    (connector : Connector) : Option Transaction :=
  if connector.currentTransactionID = 0 then none
  else context.transactions.find connector.currentTransactionID

/-- The connector has its transaction. -/
def hasTransaction (context : SmartChargingContext) (connector : Connector) : Bool :=
  (getTransactionFromChargingConnector context connector).isSome

/-- `buildSafeCar`, up to the currents that the car can take. -/
def buildSafeCar (fuseID : ℕ) (transaction : Transaction) : OptimizerCar where
  id := fuseID
  name := s!"{transaction.chargeBoxID}~{transaction.connectorId}"

/-- The variables of the loop through the stations. -/
structure OptimizerRequestState where
  fuseID : ℕ := 0
  cars : List OptimizerCar := []
  carConnectorAssignments : List OptimizerCarConnectorAssignment := []
  chargingStationsInError : Bool := false
  excludedChargingStations : List String
  /-- The children of the root fuse. -/
  children : List OptimizerChargingStationFuse := []

/-- The variables of the loop through the connectors of a station. -/
structure ConnectorFusesState where
  request : OptimizerRequestState
  sumConnectorAmperage : PhaseAmps := 0
  chargingStationConnectorsFuse : List OptimizerChargingStationConnectorFuse := []

section Loops

variable (context : SmartChargingContext) (siteArea : SiteArea)

/-- One turn of the loop through the connectors. -/
def addConnectorFuse (chargingStation : ChargingStation) (state : ConnectorFusesState)
    (connector : Connector) : Except String ConnectorFusesState :=
  match getTransactionFromChargingConnector context connector with
  | none =>
      .ok { state with
        request := { state.request with
          chargingStationsInError := true
          excludedChargingStations :=
            state.request.excludedChargingStations ++ [chargingStation.id] } }
  | some transaction => do
      let fuseID := state.request.fuseID
      let chargingStationConnectorFuse ←
        buildChargingStationConnectorFuse siteArea fuseID chargingStation connector
      .ok {
        request := { state.request with
          fuseID := fuseID + 1
          cars := state.request.cars ++ [buildSafeCar fuseID transaction]
          carConnectorAssignments :=
            state.request.carConnectorAssignments ++ [⟨fuseID, fuseID⟩] }
        sumConnectorAmperage :=
          state.sumConnectorAmperage + chargingStationConnectorFuse.fusePhase
        chargingStationConnectorsFuse :=
          state.chargingStationConnectorsFuse ++ [chargingStationConnectorFuse] }

/-- One turn of the loop through the stations. -/
def addChargingStationFuse (state : OptimizerRequestState) (chargingStation : ChargingStation) :
    Except String OptimizerRequestState := do
  let added ← chargingStation.connectors.foldlM (addConnectorFuse context siteArea chargingStation)
    { request := state }
  let chargingStationFuse := buildChargingStationFuse added.request.fuseID
    added.sumConnectorAmperage added.chargingStationConnectorsFuse
  .ok { added.request with
    fuseID := added.request.fuseID + 1
    children :=
      if chargingStationFuse.children.isEmpty then added.request.children
      else added.request.children ++ [chargingStationFuse] }

end Loops

/-- What one run of `buildOptimizerRequest` has got to when its loops are over. -/
structure OptimizerRequestRun where
  request : OptimizerChargingProfilesRequest
  siteArea : SiteArea
  chargingStationsInError : Bool
  excludedChargingStations : List String

/-- One run of `buildOptimizerRequest`. -/
def runOptimizerRequest (context : SmartChargingContext) (siteArea : SiteArea)
    (excludedChargingStations : List String) : Except String OptimizerRequestRun := do
  checkIfSiteAreaIsValid siteArea
  let built := buildRootFuse context siteArea 0 excludedChargingStations
  let state ← built.2.chargingStations.docs.foldlM (addChargingStationFuse context built.2)
    { excludedChargingStations }
  .ok {
    request := {
      rootFuse := { built.1 with children := state.children }
      cars := state.cars
      carAssignments := state.carConnectorAssignments }
    siteArea := built.2
    chargingStationsInError := state.chargingStationsInError
    excludedChargingStations := state.excludedChargingStations }

/-- `buildOptimizerRequest`. -/
def buildOptimizerRequest (context : SmartChargingContext) (siteArea : SiteArea)
    (excludedChargingStations : List String) : Except String OptimizerChargingProfilesRequest := do
  let run ← runOptimizerRequest context siteArea excludedChargingStations
  if run.chargingStationsInError then
    let retried ← runOptimizerRequest context run.siteArea run.excludedChargingStations
    .ok retried.request
  else .ok run.request

/-! ## What a run puts into the fuse tree -/

/-- The connectors with a fuse in the tree. -/
def treeConnectors (children : List OptimizerChargingStationFuse) : List (String × ℕ) :=
  children.flatMap fun chargingStationFuse =>
    chargingStationFuse.children.map OptimizerChargingStationConnectorFuse.connector

/-- The connectors of a station that have their transaction. -/
def connectorsWithTransaction (context : SmartChargingContext)
    (chargingStation : ChargingStation) : List (String × ℕ) :=
  (chargingStation.connectors.filter (hasTransaction context)).map fun connector =>
    (chargingStation.id, connector.connectorId)

/-- A connector of the station does not have its transaction. -/
def isInError (context : SmartChargingContext) (chargingStation : ChargingStation) : Bool :=
  chargingStation.connectors.any fun connector => !hasTransaction context connector

/-- The stations in error, once for each connector without its transaction. -/
def stationsInError (context : SmartChargingContext) (chargingStation : ChargingStation) :
    List String :=
  (chargingStation.connectors.filter fun connector => !hasTransaction context connector).map
    fun _ => chargingStation.id

section Spec

variable {context : SmartChargingContext} {siteArea : SiteArea}

section

variable {chargingStation : ChargingStation} {s t : ConnectorFusesState} {connector : Connector}

/-- A connector without its transaction excludes its station. -/
theorem addConnectorFuse_of_not_hasTransaction (missing : hasTransaction context connector = false)
    (h : addConnectorFuse context siteArea chargingStation s connector = .ok t) :
    t = { s with
      request := { s.request with
        chargingStationsInError := true
        excludedChargingStations :=
          s.request.excludedChargingStations ++ [chargingStation.id] } } := by
  unfold hasTransaction at missing
  unfold addConnectorFuse at h
  rw [Option.isSome_eq_false_iff, Option.isNone_iff_eq_none] at missing
  rw [missing] at h
  cases h
  rfl

/-- A connector with its transaction gets a fuse. -/
theorem addConnectorFuse_of_hasTransaction (has : hasTransaction context connector)
    (h : addConnectorFuse context siteArea chargingStation s connector = .ok t) :
    ∃ transaction fuse,
      getTransactionFromChargingConnector context connector = some transaction ∧
      buildChargingStationConnectorFuse siteArea s.request.fuseID chargingStation connector =
        .ok fuse ∧
      t = {
        request := { s.request with
          fuseID := s.request.fuseID + 1
          cars := s.request.cars ++ [buildSafeCar s.request.fuseID transaction]
          carConnectorAssignments :=
            s.request.carConnectorAssignments ++ [⟨s.request.fuseID, s.request.fuseID⟩] }
        sumConnectorAmperage := s.sumConnectorAmperage + fuse.fusePhase
        chargingStationConnectorsFuse := s.chargingStationConnectorsFuse ++ [fuse] } := by
  obtain ⟨transaction, found⟩ := Option.isSome_iff_exists.mp has
  unfold addConnectorFuse at h
  rw [found] at h
  obtain ⟨fuse, hfuse, h⟩ := Outcome.bind_eq_ok.mp h
  cases h
  exact ⟨transaction, fuse, found, hfuse, rfl⟩

/-- The loop through the connectors of a station, by what they have. -/
theorem foldlM_addConnectorFuse {connectors : List Connector}
    (h : connectors.foldlM (addConnectorFuse context siteArea chargingStation) s = .ok t) :
    t.request.children = s.request.children ∧
      t.chargingStationConnectorsFuse.map OptimizerChargingStationConnectorFuse.connector =
        s.chargingStationConnectorsFuse.map OptimizerChargingStationConnectorFuse.connector ++
          (connectors.filter (hasTransaction context)).map (fun connector =>
            (chargingStation.id, connector.connectorId)) ∧
      t.request.chargingStationsInError =
        (s.request.chargingStationsInError ||
          connectors.any (fun connector => !hasTransaction context connector)) ∧
      t.request.excludedChargingStations =
        s.request.excludedChargingStations ++
          (connectors.filter fun connector => !hasTransaction context connector).map
            fun _ => chargingStation.id := by
  induction connectors generalizing s with
  | nil =>
      rw [List.foldlM_nil, Outcome.pure_eq_ok_iff] at h
      subst h
      simp
  | cons connector rest ih =>
      obtain ⟨between, first, others⟩ := Outcome.foldlM_cons_eq_ok.mp h
      obtain ⟨children, fuses, inError, excluded⟩ := ih others
      rw [children, fuses, inError, excluded]
      cases has : hasTransaction context connector with
      | true =>
          obtain ⟨transaction, fuse, -, hfuse, rfl⟩ :=
            addConnectorFuse_of_hasTransaction has first
          have built := connector_of_buildChargingStationConnectorFuse hfuse
          simp [has, built]
      | false =>
          rw [addConnectorFuse_of_not_hasTransaction has first]
          simp [has]

end

section

variable {s t : OptimizerRequestState}

/-- A station without children in the tree would add no connector either. -/
theorem treeConnectors_addFuse (children : List OptimizerChargingStationFuse)
    (fuse : OptimizerChargingStationFuse) :
    treeConnectors (if fuse.children.isEmpty then children else children ++ [fuse]) =
      treeConnectors children ++
        fuse.children.map OptimizerChargingStationConnectorFuse.connector := by
  split
  · rename_i empty
    rw [List.isEmpty_iff.mp empty, List.map_nil, List.append_nil]
  · simp [treeConnectors]

/-- One turn of the loop through the stations. -/
theorem addChargingStationFuse_ok {chargingStation : ChargingStation}
    (h : addChargingStationFuse context siteArea s chargingStation = .ok t) :
    treeConnectors t.children =
        treeConnectors s.children ++ connectorsWithTransaction context chargingStation ∧
      t.chargingStationsInError =
        (s.chargingStationsInError || isInError context chargingStation) ∧
      t.excludedChargingStations =
        s.excludedChargingStations ++ stationsInError context chargingStation := by
  obtain ⟨added, hadded, h⟩ := Outcome.bind_eq_ok.mp h
  obtain ⟨children, fuses, inError, excluded⟩ := foldlM_addConnectorFuse hadded
  cases h
  refine ⟨?_, inError, excluded⟩
  rw [treeConnectors_addFuse, children]
  exact congrArg _ fuses

/-- The loop through the stations, by what their connectors have. -/
theorem foldlM_addChargingStationFuse {chargingStations : List ChargingStation}
    (h : chargingStations.foldlM (addChargingStationFuse context siteArea) s = .ok t) :
    treeConnectors t.children =
        treeConnectors s.children ++ chargingStations.flatMap (connectorsWithTransaction context) ∧
      t.chargingStationsInError =
        (s.chargingStationsInError || chargingStations.any (isInError context)) ∧
      t.excludedChargingStations =
        s.excludedChargingStations ++ chargingStations.flatMap (stationsInError context) := by
  induction chargingStations generalizing s with
  | nil =>
      rw [List.foldlM_nil, Outcome.pure_eq_ok_iff] at h
      subst h
      simp
  | cons chargingStation rest ih =>
      obtain ⟨between, first, others⟩ := Outcome.foldlM_cons_eq_ok.mp h
      obtain ⟨tree, inError, excluded⟩ := ih others
      obtain ⟨tree', inError', excluded'⟩ := addChargingStationFuse_ok first
      rw [tree, inError, excluded, tree', inError', excluded']
      simp [Bool.or_assoc]

end

/-- **One run.**  The fuse tree holds the connectors with their transaction that the root fuse
has left; the run is in error when it has left others. -/
theorem runOptimizerRequest_ok {excludedChargingStations : List String}
    {run : OptimizerRequestRun}
    (h : runOptimizerRequest context siteArea excludedChargingStations = .ok run) :
    run.siteArea = (buildRootFuse context siteArea 0 excludedChargingStations).2 ∧
      run.request.rootFuse.fusePhase =
        (buildRootFuse context siteArea 0 excludedChargingStations).1.fusePhase ∧
      treeConnectors run.request.rootFuse.children =
        run.siteArea.chargingStations.docs.flatMap (connectorsWithTransaction context) ∧
      run.chargingStationsInError = run.siteArea.chargingStations.docs.any (isInError context) ∧
      run.excludedChargingStations =
        excludedChargingStations ++
          run.siteArea.chargingStations.docs.flatMap (stationsInError context) := by
  obtain ⟨-, -, h⟩ := Outcome.bind_eq_ok.mp h
  obtain ⟨state, hstate, h⟩ := Outcome.bind_eq_ok.mp h
  obtain ⟨tree, inError, excluded⟩ := foldlM_addChargingStationFuse hstate
  cases h
  refine ⟨rfl, rfl, tree, ?_, excluded⟩
  rw [inError, Bool.false_or]

end Spec

end EvServer
