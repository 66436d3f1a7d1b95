import EvServer.ChargingStationVendor.ChargingProfile
import EvServer.Roaming.EvseUids
import EvServer.SmartCharging.FuseIDs
import Mathlib.Algebra.BigOperators.Pi

/-!
# The charging profiles of an optimized plan

The optimizer plans for each car the amps per phase, slot by slot, so that no fuse of the request
is overloaded.  `buildChargingProfilesFromOptimizerResponse` makes a charging profile of each plan:
it finds the connector by the name of the car and multiplies by its phases, and for direct current
by the efficiency of its charge point.

The default efficiency is a percentage that is taken for a factor there.  `keepsRootFuse_iff` says
when the profiles keep the root fuse all the same, and `countsWithinRootFuse_of_once` that they do
without direct current of an unknown efficiency.
-/

namespace EvServer

/-- A car of `OptimizerResult`, with the amps per phase of each slot. -/
structure PlannedCar extends OptimizerCar where
  currentPlan : List ℚ
  deriving DecidableEq, Repr

/-- `ChargingProfile`, with all that is set for a plan. -/
structure OptimizerChargingProfile extends ChargingProfile where
  chargingStationID : String
  chargingStation : ChargingStation
  chargePointID : ℕ
  chargingProfileId : ℕ
  transactionId : ℕ
  stackLevel : ℕ
  deriving DecidableEq, Repr

/-- What the response is processed with. -/
structure OptimizerResponseContext where
  /-- `ChargingStationStorage.getChargingStation`. -/
  chargingStations : Collection ChargingStation.id
  /-- The parameter `ChargingScheduleMaxPeriods` of a station. -/
  chargingScheduleMaxPeriods : String → Option String := fun _ => none
  now : Timestamp := 0

/-- The connector that the name of a car is read as. -/
structure PlannedConnector where
  chargingStation : ChargingStation
  connector : Connector
  chargePoint : ChargePoint
  numberOfConnectedPhase : ℕ
  deriving DecidableEq, Repr

/-! ## Limits -/

/-- `calculateCarConsumption`, before it is rounded. -/
def carConsumption (chargingStation : ChargingStation) (connector : Connector)
    (numberOfConnectedPhase : ℕ) (currentLimit : ℚ) : ℚ :=
  if Utils.getChargingStationCurrentType chargingStation none connector.connectorId =
      some .DC then
    currentLimit * gridEfficiency
      (Utils.getChargePointFromID chargingStation connector.chargePointID) * numberOfConnectedPhase
  else currentLimit * numberOfConnectedPhase

/-- The periods of a schedule; it ends after the third slot as soon as nothing is planned. -/
def chargingSchedulePeriods (maxScheduleLength : ℤ) (limitOf : ℚ → ℚ) :
    ℕ → List ℚ → List ChargingSchedulePeriod
  | _, [] => []
  | i, current :: rest =>
      if i < maxScheduleLength ∧ (0 < current ∨ i < 3) then
        { startPeriod := i * 15 * 60, limit := limitOf current } ::
          chargingSchedulePeriods maxScheduleLength limitOf (i + 1) rest
      else []

/-- The IDs of station and connector in the name of a car. -/
def splitCarName (name : String) : String × Option ℤ :=
  let chargingStationDetails := (name.toList.splitOn '~').map String.ofList
  (chargingStationDetails.headD "", (chargingStationDetails[1]?).elim (some 0) Utils.convertToInt)

section Response

variable (context : OptimizerResponseContext) (siteArea : SiteArea)

/-- The connector that a car is named after. -/
def readCarName (car : OptimizerCar) : Except String PlannedConnector :=
  match context.chargingStations.find (splitCarName car.name).1 with
  | none => .error s!"{siteArea.name} > Charging Station not found"
  | some chargingStation =>
      match chargingStation.connectors.find? fun connector =>
          (splitCarName car.name).2 = some (connector.connectorId : ℤ) with
      | none => .error "TypeError: Cannot read property 'chargePointID' of undefined"
      | some connector =>
          match connector.chargePoint? chargingStation with
          | none => .error "TypeError: Cannot read property 'chargePointID' of undefined"
          | some chargePoint =>
              .ok {
                chargingStation := chargingStation
                connector := connector
                chargePoint := chargePoint
                numberOfConnectedPhase := Utils.getNumberOfConnectedPhases chargingStation
                  (some chargePoint) connector.connectorId }

/-- How many periods the station takes at most. -/
def maxScheduleLength (chargingStation : ChargingStation) : ℤ :=
  ((context.chargingScheduleMaxPeriods chargingStation.id).bind Utils.parseInt).getD 20

/-- The schedule of a plan, with a way to round. -/
def buildChargingSchedule (round : ℚ → ℚ) (planned : PlannedConnector) (currentPlan : List ℚ) :
    ChargingSchedule :=
  let chargingSchedulePeriod :=
    chargingSchedulePeriods (maxScheduleLength context planned.chargingStation)
      (fun currentLimit => round (carConsumption planned.chargingStation planned.connector
        planned.numberOfConnectedPhase currentLimit)) 0 currentPlan
  { -- The last full 15 minutes.
    startSchedule := context.now - context.now % (15 * 60 * 1000)
    duration := some (chargingSchedulePeriod.length * 15 * 60)
    chargingSchedulePeriod := chargingSchedulePeriod }

/-- The profile of a plan, with a way to round. -/
def chargingProfileOf (round : ℚ → ℚ) (planned : PlannedConnector) (currentPlan : List ℚ) :
    OptimizerChargingProfile where
  connectorID := planned.connector.connectorId
  profile := { chargingSchedule := buildChargingSchedule context round planned currentPlan }
  chargingStationID := planned.chargingStation.id
  chargingStation := planned.chargingStation
  chargePointID := planned.chargePoint.chargePointID
  chargingProfileId := planned.connector.connectorId
  transactionId := planned.connector.currentTransactionID
  stackLevel := 2

/-- One turn of the loop through the cars. -/
def buildChargingProfile (round : ℚ → ℚ) (car : PlannedCar) :
    Except String OptimizerChargingProfile := do
  let planned ← readCarName context siteArea car.toOptimizerCar
  return chargingProfileOf context round planned car.currentPlan

/-- The profiles of the plans, with a way to round. -/
def buildChargingProfilesWith (round : ℚ → ℚ) (cars : List PlannedCar) :
    Except String (List OptimizerChargingProfile) :=
  cars.mapM (buildChargingProfile context siteArea round)

/-- `buildChargingProfilesFromOptimizerResponse`. -/
def buildChargingProfilesFromOptimizerResponse (cars : List PlannedCar) :
    Except String (List OptimizerChargingProfile) :=
  buildChargingProfilesWith context siteArea (Utils.roundTo · 3) cars

end Response

/-! ## The current from the grid -/

namespace OptimizerChargingProfile

variable (profile : OptimizerChargingProfile)

/-- The charge point of the profile. -/
def chargePoint? : Option ChargePoint :=
  Utils.getChargePointFromID profile.chargingStation profile.chargePointID

/-- The phases of the connector. -/
def numberOfConnectedPhase : ℕ :=
  Utils.getNumberOfConnectedPhases profile.chargingStation profile.chargePoint?
    profile.connectorID

/-- The share of the current from the grid that gets to the car. -/
def efficiency : ℚ :=
  if Utils.getChargingStationCurrentType profile.chargingStation none profile.connectorID =
      some .DC then
    efficiencyPercent profile.chargePoint? / 100
  else 1

/-- What the limit of a slot amounts to on each phase of the grid. -/
def gridAmps (slot : ℕ) : PhaseAmps := fun phase =>
  if isPhaseConnected profile.numberOfConnectedPhase phase then
    (profile.profile.chargingSchedule.chargingSchedulePeriod[slot]?).elim 0 fun period =>
      period.limit / profile.numberOfConnectedPhase / profile.efficiency
  else 0

/-- The profile with its limits rounded. -/
def roundLimits (round : ℚ → ℚ) : OptimizerChargingProfile :=
  { profile with
    profile := { profile.profile with
      chargingSchedule := { profile.profile.chargingSchedule with
        chargingSchedulePeriod :=
          profile.profile.chargingSchedule.chargingSchedulePeriod.map fun period =>
            { period with limit := round period.limit } } } }

end OptimizerChargingProfile

/-! ## Plans that keep the fuses -/

namespace OptimizerChargingProfilesRequest

variable (request : OptimizerChargingProfilesRequest) (cars : List PlannedCar)

/-- The connectors in the fuse tree. -/
def leaves : List OptimizerChargingStationConnectorFuse :=
  request.rootFuse.children.flatMap OptimizerChargingStationFuse.children

/-- What is planned for the car that is assigned to a connector. -/
def plannedAmps (slot : ℕ) (leaf : OptimizerChargingStationConnectorFuse) : PhaseAmps :=
  fun phase =>
    if leaf.phaseConnected phase then
      ((request.carAssignments.filter (·.chargingStationID = leaf.id)).map fun assignment =>
        ((cars.filter (·.id = assignment.carID)).map (·.currentPlan.getD slot 0)).sum).sum
    else 0

/-- What is planned below a fuse. -/
def plannedBelow (slot : ℕ) (leaves : List OptimizerChargingStationConnectorFuse) : PhaseAmps :=
  (leaves.map (request.plannedAmps cars slot)).sum

/-- The cars are those of the request, and no fuse is overloaded by what is planned for them. -/
structure KeepsFuses : Prop where
  ofRequest : (cars.map PlannedCar.toOptimizerCar).Perm request.cars
  connectors : ∀ slot, ∀ fuse ∈ request.rootFuse.children, ∀ leaf ∈ fuse.children,
    request.plannedAmps cars slot leaf ≤ leaf.fusePhase
  chargingStations : ∀ slot, ∀ fuse ∈ request.rootFuse.children,
    request.plannedBelow cars slot fuse.children ≤ fuse.fusePhase
  root : ∀ slot, request.plannedBelow cars slot request.leaves ≤ request.rootFuse.fusePhase

end OptimizerChargingProfilesRequest

section Condition

variable (context : OptimizerResponseContext) (siteArea : SiteArea)
  (request : OptimizerChargingProfilesRequest) (cars : List PlannedCar)

/-- When the plan keeps the fuses, the profiles keep the root fuse in each slot, but for the
rounding of each limit. -/
def KeepsRootFuse (profiles : List OptimizerChargingProfile) : Prop :=
  request.KeepsFuses cars →
    ∃ exact, buildChargingProfilesWith context siteArea id cars = .ok exact ∧
      profiles = exact.map (·.roundLimits (Utils.roundTo · 3)) ∧
        ∀ slot, (exact.map (·.gridAmps slot)).sum ≤ request.rootFuse.fusePhase

/-- How often the current of a connector is counted: the default efficiency, 80, is taken for a
factor. -/
def PlannedConnector.count (planned : PlannedConnector) : ℚ :=
  if Utils.getChargingStationCurrentType planned.chargingStation none
      planned.connector.connectorId = some .DC ∧ planned.chargePoint.efficiency ≤ 0 then 100
  else 1

/-- The slots of a plan that get into the schedule. -/
def scheduledPlan (maxScheduleLength : ℤ) : ℕ → List ℚ → List ℚ
  | _, [] => []
  | i, current :: rest =>
      if i < maxScheduleLength ∧ (0 < current ∨ i < 3) then
        current :: scheduledPlan maxScheduleLength (i + 1) rest
      else []

/-- What is scheduled for a car in a slot, as often as it is counted. -/
def countedAmps (slot : ℕ) (car : PlannedCar) : PhaseAmps :=
  match readCarName context siteArea car.toOptimizerCar with
  | .error _ => 0
  | .ok planned => fun phase =>
      if isPhaseConnected planned.numberOfConnectedPhase phase then
        planned.count * (scheduledPlan (maxScheduleLength context planned.chargingStation) 0
          car.currentPlan).getD slot 0
      else 0

/-- When the plan keeps the fuses, what is scheduled keeps the root fuse as it is counted. -/
def CountsWithinRootFuse : Prop :=
  request.KeepsFuses cars → ∀ slot,
    (cars.map (countedAmps context siteArea slot)).sum ≤ request.rootFuse.fusePhase

end Condition

section Spec

variable {context : OptimizerResponseContext} {siteArea : SiteArea} {round : ℚ → ℚ}
  {car : PlannedCar} {cars : List PlannedCar} {planned : PlannedConnector}

/-- What a car is named after is a connector with its charge point and its phases. -/
theorem readCarName_ok (h : readCarName context siteArea car.toOptimizerCar = .ok planned) :
    Utils.getChargePointFromID planned.chargingStation planned.connector.chargePointID =
        some planned.chargePoint ∧
      planned.chargePoint.chargePointID = planned.connector.chargePointID ∧
      planned.numberOfConnectedPhase = Utils.getNumberOfConnectedPhases planned.chargingStation
        (some planned.chargePoint) planned.connector.connectorId := by
  unfold readCarName at h
  split at h
  · cases h
  · split at h
    · cases h
    · split at h
      · cases h
      · rename_i chargingStation _ _ connector _ _ chargePoint isOf
        cases h
        obtain ⟨found, -, sameID⟩ := Connector.chargePoint?_eq_some isOf
        exact ⟨found, sameID, rfl⟩

/-- The limits of the schedule are those of the slots that get into it. -/
theorem getElem?_chargingSchedulePeriods (maxScheduleLength : ℤ) (limitOf : ℚ → ℚ) (i : ℕ)
    (plan : List ℚ) (slot : ℕ) :
    ((chargingSchedulePeriods maxScheduleLength limitOf i plan)[slot]?).map
        ChargingSchedulePeriod.limit =
      ((scheduledPlan maxScheduleLength i plan)[slot]?).map limitOf := by
  induction plan generalizing i slot with
  | nil => rfl
  | cons current rest ih =>
      rw [chargingSchedulePeriods, scheduledPlan]
      split
      · cases slot with
        | zero => rfl
        | succ slot => exact ih (i + 1) slot
      · rfl

/-- The limits can be rounded when the schedule is complete. -/
theorem map_chargingSchedulePeriods (round : ℚ → ℚ) (maxScheduleLength : ℤ) (limitOf : ℚ → ℚ)
    (i : ℕ) (plan : List ℚ) :
    (chargingSchedulePeriods maxScheduleLength limitOf i plan).map (fun period =>
        { period with limit := round period.limit }) =
      chargingSchedulePeriods maxScheduleLength (fun current => round (limitOf current)) i
        plan := by
  induction plan generalizing i with
  | nil => rfl
  | cons current rest ih =>
      rw [chargingSchedulePeriods, chargingSchedulePeriods]
      split
      · rw [List.map_cons, ih]
      · rfl

theorem roundLimits_chargingProfileOf (currentPlan : List ℚ) :
    (chargingProfileOf context id planned currentPlan).roundLimits round =
      chargingProfileOf context round planned currentPlan := by
  have periods := map_chargingSchedulePeriods round
    (maxScheduleLength context planned.chargingStation)
    (fun currentLimit => carConsumption planned.chargingStation planned.connector
      planned.numberOfConnectedPhase currentLimit) 0 currentPlan
  unfold OptimizerChargingProfile.roundLimits chargingProfileOf buildChargingSchedule
  dsimp only [id]
  rw [periods, ← periods, List.length_map]

/-- A limit is rounded by at most half a unit of its third decimal. -/
theorem abs_limit_roundLimits_sub_le (profile : OptimizerChargingProfile) :
    List.Forall₂ (fun rounded exact : ChargingSchedulePeriod =>
        |rounded.limit - exact.limit| ≤ 1 / 2 / 10 ^ 3)
      (profile.roundLimits
        (Utils.roundTo · 3)).profile.chargingSchedule.chargingSchedulePeriod
      profile.profile.chargingSchedule.chargingSchedulePeriod := by
  change List.Forall₂ _ (List.map _ _) _
  rw [List.forall₂_map_left_iff, List.forall₂_same]
  exact fun period _ => Utils.abs_roundTo_sub_le period.limit 3

/-- The profile of a plan belongs to the charge point of its connector. -/
theorem chargePoint?_chargingProfileOf
    (h : readCarName context siteArea car.toOptimizerCar = .ok planned) (round : ℚ → ℚ)
    (currentPlan : List ℚ) :
    (chargingProfileOf context round planned currentPlan).chargePoint? =
      some planned.chargePoint := by
  obtain ⟨isOf, sameID, -⟩ := readCarName_ok h
  change Utils.getChargePointFromID planned.chargingStation planned.chargePoint.chargePointID = _
  rw [sameID, isOf]

theorem numberOfConnectedPhase_chargingProfileOf
    (h : readCarName context siteArea car.toOptimizerCar = .ok planned) (round : ℚ → ℚ)
    (currentPlan : List ℚ) :
    (chargingProfileOf context round planned currentPlan).numberOfConnectedPhase =
      planned.numberOfConnectedPhase := by
  obtain ⟨-, -, phases⟩ := readCarName_ok h
  rw [OptimizerChargingProfile.numberOfConnectedPhase, chargePoint?_chargingProfileOf h, phases]
  rfl

/-- **The conversions undo one another**, but for the default efficiency. -/
theorem carConsumption_div (h : readCarName context siteArea car.toOptimizerCar = .ok planned)
    (round : ℚ → ℚ) (currentPlan : List ℚ) (currentLimit : ℚ) :
    carConsumption planned.chargingStation planned.connector planned.numberOfConnectedPhase
        currentLimit /
      (chargingProfileOf context round planned currentPlan).numberOfConnectedPhase /
      (chargingProfileOf context round planned currentPlan).efficiency =
      planned.count * currentLimit := by
  obtain ⟨isOf, -, phases⟩ := readCarName_ok h
  have nonzero : (planned.numberOfConnectedPhase : ℚ) ≠ 0 := by
    rw [phases]
    exact_mod_cast Utils.getNumberOfConnectedPhases_ne_zero _ _ _
  rw [numberOfConnectedPhase_chargingProfileOf h, OptimizerChargingProfile.efficiency,
    chargePoint?_chargingProfileOf h, carConsumption, isOf, PlannedConnector.count]
  change _ / _ / (if Utils.getChargingStationCurrentType planned.chargingStation none
    planned.connector.connectorId = some .DC then _ else _) = _
  by_cases dc : Utils.getChargingStationCurrentType planned.chargingStation none
      planned.connector.connectorId = some .DC
  · unfold gridEfficiency efficiencyPercent
    rcases lt_or_ge 0 planned.chargePoint.efficiency with known | unknown
    · simp only [dc, known, not_le.mpr known, and_false, if_true, if_false]
      field_simp
    · simp only [dc, unknown, not_lt.mpr unknown, and_self, if_true, if_false,
        Constants.dcChargingStationDefaultEfficiencyPercent]
      field_simp
  · simp only [dc, false_and, if_false]
    field_simp

/-- What the profile of a car draws from the grid is what is counted for the car. -/
theorem gridAmps_chargingProfileOf
    (h : readCarName context siteArea car.toOptimizerCar = .ok planned) (slot : ℕ) :
    (chargingProfileOf context id planned car.currentPlan).gridAmps slot =
      countedAmps context siteArea slot car := by
  have connected := numberOfConnectedPhase_chargingProfileOf h id car.currentPlan
  have limits := getElem?_chargingSchedulePeriods
    (maxScheduleLength context planned.chargingStation)
    (fun currentLimit => id (carConsumption planned.chargingStation planned.connector
      planned.numberOfConnectedPhase currentLimit)) 0 car.currentPlan slot
  have undone := carConsumption_div h id car.currentPlan
  funext phase
  unfold countedAmps
  rw [h]
  dsimp only
  rw [OptimizerChargingProfile.gridAmps, connected, List.getD_eq_getElem?_getD]
  refine if_congr Iff.rfl ?_ rfl
  change ((chargingSchedulePeriods _ _ 0 car.currentPlan)[slot]?).elim 0 _ = _
  rw [connected] at undone
  cases period : (chargingSchedulePeriods (maxScheduleLength context planned.chargingStation)
      (fun currentLimit => id (carConsumption planned.chargingStation planned.connector
        planned.numberOfConnectedPhase currentLimit)) 0 car.currentPlan)[slot]? with
  | none =>
      rw [period, Option.map_none, eq_comm, Option.map_eq_none_iff] at limits
      rw [limits]
      simp
  | some found =>
      rw [period, Option.map_some, eq_comm, Option.map_eq_some_iff] at limits
      obtain ⟨current, scheduled, limit⟩ := limits
      rw [scheduled, Option.elim_some, ← limit, Option.getD_some]
      exact undone current

/-- The profiles are those without rounding, rounded; what these draw is what is counted. -/
theorem exact_of_buildChargingProfilesFromOptimizerResponse
    {profiles : List OptimizerChargingProfile}
    (h : buildChargingProfilesFromOptimizerResponse context siteArea cars = .ok profiles) :
    ∃ exact, buildChargingProfilesWith context siteArea id cars = .ok exact ∧
      profiles = exact.map (·.roundLimits (Utils.roundTo · 3)) ∧
        ∀ slot, exact.map (·.gridAmps slot) = cars.map (countedAmps context siteArea slot) := by
  unfold buildChargingProfilesFromOptimizerResponse buildChargingProfilesWith at h
  unfold buildChargingProfilesWith
  induction cars generalizing profiles with
  | nil =>
      rw [List.mapM_nil, Outcome.pure_eq_ok_iff] at h
      subst h
      exact ⟨[], rfl, rfl, fun _ => rfl⟩
  | cons car rest ih =>
      obtain ⟨profile, others, first, hothers, rfl⟩ := Outcome.mapM_cons_eq_ok.mp h
      obtain ⟨planned, read, built⟩ := Outcome.bind_eq_ok.mp first
      rw [Outcome.pure_eq_ok_iff] at built
      obtain ⟨exact, hexact, rounded, amps⟩ := ih hothers
      refine ⟨chargingProfileOf context id planned car.currentPlan :: exact, ?_, ?_, ?_⟩
      · refine Outcome.mapM_cons_eq_ok.mpr ⟨_, exact, ?_, hexact, rfl⟩
        exact Outcome.bind_eq_ok.mpr ⟨planned, read, rfl⟩
      · rw [List.map_cons, roundLimits_chargingProfileOf, built, rounded]
      · intro slot
        rw [List.map_cons, List.map_cons, amps, gridAmps_chargingProfileOf read]

/-- **The profiles keep the root fuse** of a plan that keeps the fuses just when what is scheduled
keeps it, direct current without an efficiency counted a hundred times. -/
theorem keepsRootFuse_iff {request : OptimizerChargingProfilesRequest}
    {profiles : List OptimizerChargingProfile}
    (h : buildChargingProfilesFromOptimizerResponse context siteArea cars = .ok profiles) :
    KeepsRootFuse context siteArea request cars profiles ↔
      CountsWithinRootFuse context siteArea request cars := by
  obtain ⟨exact, hexact, rounded, amps⟩ := exact_of_buildChargingProfilesFromOptimizerResponse h
  refine forall_congr' fun keeps => ?_
  constructor
  · rintro ⟨exact', hexact', -, within⟩ slot
    obtain rfl := Except.ok.inj (hexact.symm.trans hexact')
    rw [← amps]
    exact within slot
  · intro within
    refine ⟨exact, hexact, rounded, fun slot => ?_⟩
    rw [amps]
    exact within slot

end Spec

/-! ## Plans of which each current is counted once -/

section Once

variable {context : SmartChargingContext} {response : OptimizerResponseContext}
  {siteArea : SiteArea} {excludedChargingStations : List String}
  {request : OptimizerChargingProfilesRequest} {cars : List PlannedCar} {car : PlannedCar}

/-- A car has the number of its assignment. -/
theorem ids_cars_of_runOptimizerRequest {run : OptimizerRequestRun}
    (h : runOptimizerRequest context siteArea excludedChargingStations = .ok run) :
    run.request.cars.map OptimizerCar.id =
      run.request.carAssignments.map OptimizerCarConnectorAssignment.carID := by
  obtain ⟨-, -, h⟩ := Outcome.bind_eq_ok.mp h
  obtain ⟨state, hstate, h⟩ := Outcome.bind_eq_ok.mp h
  cases h
  refine Outcome.foldlM_invariant (I := fun state : OptimizerRequestState =>
    state.cars.map OptimizerCar.id =
      state.carConnectorAssignments.map OptimizerCarConnectorAssignment.carID)
    (fun s chargingStation t same turn => ?_) rfl hstate
  obtain ⟨added, hadded, turn⟩ := Outcome.bind_eq_ok.mp turn
  cases turn
  refine Outcome.foldlM_invariant (I := fun state : ConnectorFusesState =>
    state.request.cars.map OptimizerCar.id =
      state.request.carConnectorAssignments.map OptimizerCarConnectorAssignment.carID)
    (fun s connector t same turn => ?_) same hadded
  cases has : hasTransaction context connector with
  | true =>
      obtain ⟨transaction, fuse, -, -, rfl⟩ := addConnectorFuse_of_hasTransaction has turn
      simp [same, buildSafeCar]
  | false =>
      rw [addConnectorFuse_of_not_hasTransaction has turn]
      exact same

/-- A car is named after a connector with the phases of the one it is assigned to. -/
def NamesConnectors (response : OptimizerResponseContext) (siteArea : SiteArea)
    (request : OptimizerChargingProfilesRequest) (cars : List PlannedCar) : Prop :=
  ∀ leaf ∈ request.leaves, ∀ car ∈ cars, car.id = leaf.id → ∀ planned,
    readCarName response siteArea car.toOptimizerCar = .ok planned →
      ∀ phase, isPhaseConnected planned.numberOfConnectedPhase phase = leaf.phaseConnected phase

theorem getD_plan_nonneg {plan : List ℚ} (nonneg : ∀ current ∈ plan, 0 ≤ current) (slot : ℕ) :
    0 ≤ plan.getD slot 0 := by
  rw [List.getD_eq_getElem?_getD]
  cases planned : plan[slot]? with
  | none => exact le_rfl
  | some current => exact nonneg current (List.mem_of_getElem? planned)

/-- What is scheduled is not more than what is planned. -/
theorem getD_scheduledPlan_le (maxScheduleLength : ℤ) {plan : List ℚ}
    (nonneg : ∀ current ∈ plan, 0 ≤ current) (i slot : ℕ) :
    (scheduledPlan maxScheduleLength i plan).getD slot 0 ≤ plan.getD slot 0 := by
  induction plan generalizing i slot with
  | nil => exact le_rfl
  | cons current rest ih =>
      rw [scheduledPlan]
      split
      · cases slot with
        | zero => exact le_rfl
        | succ slot => exact ih (List.forall_mem_cons.mp nonneg).2 (i + 1) slot
      · rw [List.getD_nil]
        exact getD_plan_nonneg nonneg slot

/-- What is planned for a car in a slot, on a phase of the connector it is assigned to. -/
def plannedOn (slot : ℕ) (phase : OptimizerPhase) (car : PlannedCar)
    (leaf : OptimizerChargingStationConnectorFuse) : ℚ :=
  if leaf.id = car.id ∧ leaf.phaseConnected phase = true then car.currentPlan.getD slot 0 else 0

/-- What is counted for a car is planned for its connector. -/
theorem countedAmps_le_sum_plannedOn {leaves : List OptimizerChargingStationConnectorFuse}
    (nonneg : ∀ current ∈ car.currentPlan, 0 ≤ current)
    (known : ∀ planned, readCarName response siteArea car.toOptimizerCar = .ok planned →
      planned.count = 1 ∧ ∃ leaf ∈ leaves, leaf.id = car.id ∧
        ∀ phase, isPhaseConnected planned.numberOfConnectedPhase phase = leaf.phaseConnected phase)
    (slot : ℕ) (phase : OptimizerPhase) :
    countedAmps response siteArea slot car phase ≤
      (leaves.map (plannedOn slot phase car)).sum := by
  have current := getD_plan_nonneg nonneg slot
  have parts : ∀ amps ∈ leaves.map (plannedOn slot phase car), 0 ≤ amps := by
    rw [List.forall_mem_map]
    intro leaf _
    unfold plannedOn
    split
    · exact current
    · exact le_rfl
  unfold countedAmps
  cases read : readCarName response siteArea car.toOptimizerCar with
  | error _ => exact List.sum_nonneg parts
  | ok planned =>
      obtain ⟨once, leaf, mem, isOf, phases⟩ := known planned read
      dsimp only
      split
      · rename_i connected
        have part : plannedOn slot phase car leaf = car.currentPlan.getD slot 0 :=
          if_pos ⟨isOf, phases phase ▸ connected⟩
        rw [once, one_mul]
        refine (getD_scheduledPlan_le _ nonneg 0 slot).trans ?_
        rw [← part]
        exact List.single_le_sum parts _ (List.mem_map_of_mem mem)
      · exact List.sum_nonneg parts

/-- The car that is assigned to a connector has its number. -/
theorem plannedAmps_eq {leaf : OptimizerChargingStationConnectorFuse}
    (assigned : request.carAssignments = assignmentsOf request.leafIDs)
    (nodup : request.leafIDs.Nodup) (mem : leaf.id ∈ request.leafIDs) (slot : ℕ)
    (phase : OptimizerPhase) :
    request.plannedAmps cars slot leaf phase =
      (cars.map fun car => plannedOn slot phase car leaf).sum := by
  have single : request.carAssignments.filter (·.chargingStationID = leaf.id) =
      [⟨leaf.id, leaf.id⟩] := by
    rw [assigned, assignmentsOf, List.filter_map]
    have self : request.leafIDs.filter ((fun assignment : OptimizerCarConnectorAssignment =>
        decide (assignment.chargingStationID = leaf.id)) ∘ fun id => ⟨id, id⟩) = [leaf.id] := by
      rw [← List.replicate_one, ← List.count_eq_one_of_mem nodup mem, ← List.filter_eq]
      rfl
    rw [self]
    rfl
  rw [OptimizerChargingProfilesRequest.plannedAmps, single]
  simp only [List.map_singleton, List.sum_singleton, plannedOn]
  split
  · rename_i connected
    simp only [connected, and_true, eq_comm (a := leaf.id)]
    rw [List.sum_map_ite]
    simp
  · rename_i apart
    simp [apart]

/-- **The profiles of AC connectors and of known efficiencies keep the root fuse.**  The plan keeps
it, nothing is counted more than once, and a schedule has no more than the plan. -/
theorem countsWithinRootFuse_of_once
    (h : buildOptimizerRequest context siteArea excludedChargingStations = .ok request)
    (names : NamesConnectors response siteArea request cars)
    (nonneg : ∀ car ∈ cars, ∀ current ∈ car.currentPlan, 0 ≤ current)
    (once : ∀ car ∈ cars, ∀ planned,
      readCarName response siteArea car.toOptimizerCar = .ok planned → planned.count = 1) :
    CountsWithinRootFuse response siteArea request cars := by
  obtain ⟨lastSiteArea, lastExcluded, run, hrun, rfl, -⟩ := exists_lastRun h
  obtain ⟨-, leafIDs, assigned⟩ := ids_of_runOptimizerRequest hrun
  have nodup : run.request.leafIDs.Nodup := by
    rw [leafIDs]
    exact Numbering.nodup_kept.sublist Numbering.members_sublist_kept
  have carIDs : run.request.cars.map OptimizerCar.id = run.request.leafIDs := by
    rw [ids_cars_of_runOptimizerRequest hrun, assigned, assignmentsOf, List.map_map]
    exact List.map_id _
  have leaves : run.request.leaves.map OptimizerChargingStationConnectorFuse.id =
      run.request.leafIDs := List.map_flatMap
  intro keeps slot phase
  have root := keeps.root slot phase
  have perLeaf : ∀ leaf ∈ run.request.leaves, run.request.plannedAmps cars slot leaf phase =
      (cars.map fun car => plannedOn slot phase car leaf).sum := fun leaf mem =>
    plannedAmps_eq assigned nodup (leaves ▸ List.mem_map_of_mem mem) slot phase
  have perCar : ∀ car ∈ cars, countedAmps response siteArea slot car phase ≤
      (run.request.leaves.map (plannedOn slot phase car)).sum := by
    intro car mem
    refine countedAmps_le_sum_plannedOn (nonneg car mem) (fun planned read =>
      ⟨once car mem planned read, ?_⟩) slot phase
    have isCar : car.id ∈ run.request.leafIDs := by
      rw [← carIDs]
      exact List.mem_map_of_mem (keeps.ofRequest.subset (List.mem_map_of_mem mem))
    rw [← leaves] at isCar
    obtain ⟨leaf, isLeaf, same⟩ := List.mem_map.mp isCar
    exact ⟨leaf, isLeaf, same, names leaf isLeaf car mem same.symm planned read⟩
  calc (cars.map (countedAmps response siteArea slot)).sum phase
      = (cars.map fun car => countedAmps response siteArea slot car phase).sum := by
        rw [Pi.list_sum_apply, List.map_map]
        rfl
    _ ≤ (cars.map fun car => (run.request.leaves.map (plannedOn slot phase car)).sum).sum :=
        List.sum_le_sum perCar
    _ = (run.request.leaves.map fun leaf => (cars.map fun car =>
          plannedOn slot phase car leaf).sum).sum := by
        simpa only [Multiset.map_coe, Multiset.sum_coe] using
          Multiset.sum_map_sum_map (cars : Multiset PlannedCar)
            (run.request.leaves : Multiset OptimizerChargingStationConnectorFuse)
            (f := plannedOn slot phase)
    _ = run.request.plannedBelow cars slot run.request.leaves phase := by
        rw [OptimizerChargingProfilesRequest.plannedBelow, Pi.list_sum_apply, List.map_map]
        exact congrArg List.sum (List.map_congr_left fun leaf mem => (perLeaf leaf mem).symm)
    _ ≤ run.request.rootFuse.fusePhase phase := root

end Once

/-! ## Plans for direct current -/

/-- A station of 300 A direct current with one session. -/
def directCurrentChargingStation (efficiency : ℚ) : ChargingStation where
  id := "CS-1"
  chargePoints := [
    { chargePointID := 1
      currentType := some .DC
      amperage := 300
      numberOfConnectedPhase := 3
      efficiency := efficiency
      connectorIDs := [1] }]
  connectors := [
    { connectorId := 1, status := .charging, chargePointID := 1, currentTransactionID := 1 }]

/-- A site area of 64 A per phase with the station. -/
def directCurrentSiteArea (efficiency : ℚ) : SiteArea :=
  numberedSiteArea [directCurrentChargingStation efficiency] (by simp) (by
    simp [directCurrentChargingStation])

/-- The station is stored as it is in the site area. -/
def directCurrentResponse (efficiency : ℚ) : OptimizerResponseContext where
  chargingStations := ⟨[directCurrentChargingStation efficiency], by simp⟩

/-- A plan for one slot. -/
def plannedOnce (current : ℚ) : List PlannedCar :=
  [{ id := 0, name := "CS-1~1", currentPlan := [current] }]

/-- The request is for the station alone, with a given fuse for its connector. -/
structure IsSingleRequest (request : OptimizerChargingProfilesRequest) (fuse : ℚ) : Prop where
  root : request.rootFuse.fusePhase = fun _ => 64
  stations : request.rootFuse.children.map (·.fusePhase) = [fun _ => fuse]
  leaves : (request.rootFuse.children.map fun station => station.children.map fun leaf =>
    (leaf.id, leaf.fusePhase, leaf.phaseConnected)) = [[(0, fun _ => fuse, fun _ => true)]]
  cars : request.cars = [{ id := 0, name := "CS-1~1" }]
  carAssignments : request.carAssignments = [⟨0, 0⟩]

instance (request : OptimizerChargingProfilesRequest) (fuse : ℚ) :
    Decidable (IsSingleRequest request fuse) :=
  decidable_of_iff (request.rootFuse.fusePhase = (fun _ => 64) ∧
      request.rootFuse.children.map (·.fusePhase) = [fun _ => fuse] ∧
      (request.rootFuse.children.map fun station => station.children.map fun leaf =>
        (leaf.id, leaf.fusePhase, leaf.phaseConnected)) = [[(0, fun _ => fuse, fun _ => true)]] ∧
      request.cars = [{ id := 0, name := "CS-1~1" }] ∧ request.carAssignments = [⟨0, 0⟩])
    ⟨fun ⟨root, stations, leaves, cars, carAssignments⟩ =>
      ⟨root, stations, leaves, cars, carAssignments⟩,
    fun ⟨root, stations, leaves, cars, carAssignments⟩ =>
      ⟨root, stations, leaves, cars, carAssignments⟩⟩

/-- A plan for one slot keeps the fuse of the connector and the root fuse. -/
theorem keepsFuses_plannedOnce {request : OptimizerChargingProfilesRequest} {fuse current : ℚ}
    (single : IsSingleRequest request fuse) (nonneg : 0 ≤ fuse) (below : current ≤ fuse)
    (belowRoot : current ≤ 64) : request.KeepsFuses (plannedOnce current) := by
  obtain ⟨root, stations, allLeaves, cars, carAssignments⟩ := single
  obtain ⟨station, children, stationFuse⟩ := List.map_eq_singleton_iff.mp stations
  rw [children, List.map_singleton, List.cons.injEq, List.map_eq_singleton_iff] at allLeaves
  obtain ⟨⟨leaf, leaves, same⟩, -⟩ := allLeaves
  obtain ⟨leafID, leafFuse, connected⟩ : leaf.id = 0 ∧ leaf.fusePhase = (fun _ => fuse) ∧
      leaf.phaseConnected = fun _ => true := by
    simpa only [Prod.mk.injEq] using same
  have planned (slot : ℕ) : request.plannedAmps (plannedOnce current) slot leaf =
      fun _ => [current].getD slot 0 := by
    funext phase
    simp [OptimizerChargingProfilesRequest.plannedAmps, connected, carAssignments, leafID,
      plannedOnce]
  have slots (bound : ℚ) (h : 0 ≤ bound) (h' : current ≤ bound) (slot : ℕ) :
      (fun _ : OptimizerPhase => [current].getD slot 0) ≤ fun _ => bound := by
    intro phase
    rcases slot with _ | slot
    · exact h'
    · simpa using h
  refine ⟨?_, ?_, ?_, ?_⟩
  · rw [cars]
    exact List.Perm.refl _
  · intro slot fuse' mem leaf' mem'
    rw [children, List.mem_singleton] at mem
    rw [mem, leaves, List.mem_singleton] at mem'
    rw [mem', planned, leafFuse]
    exact slots fuse nonneg below slot
  · intro slot fuse' mem
    rw [children, List.mem_singleton] at mem
    rw [mem, leaves, stationFuse, OptimizerChargingProfilesRequest.plannedBelow, List.map_singleton,
      List.sum_singleton, planned]
    exact slots fuse nonneg below slot
  · intro slot
    rw [OptimizerChargingProfilesRequest.leaves, children, List.flatMap_singleton, leaves, root,
      OptimizerChargingProfilesRequest.plannedBelow, List.map_singleton, List.sum_singleton,
      planned]
    exact slots 64 (by norm_num) belowRoot slot

/-- The connector that the car of the plan is named after. -/
def directCurrentConnector (efficiency : ℚ) : PlannedConnector where
  chargingStation := directCurrentChargingStation efficiency
  connector :=
    { connectorId := 1, status := .charging, chargePointID := 1, currentTransactionID := 1 }
  chargePoint :=
    { chargePointID := 1
      currentType := some .DC
      amperage := 300
      numberOfConnectedPhase := 3
      efficiency := efficiency
      connectorIDs := [1] }
  numberOfConnectedPhase := 3

/-- What is counted for a plan of one slot. -/
theorem map_countedAmps_plannedOnce {efficiency current : ℚ} (positive : 0 < current)
    (read : readCarName (directCurrentResponse efficiency) (directCurrentSiteArea efficiency)
      { id := 0, name := "CS-1~1" } = .ok (directCurrentConnector efficiency)) (slot : ℕ) :
    (plannedOnce current).map (countedAmps (directCurrentResponse efficiency)
        (directCurrentSiteArea efficiency) slot) =
      [fun _ => (directCurrentConnector efficiency).count * [current].getD slot 0] := by
  have scheduled : scheduledPlan (maxScheduleLength (directCurrentResponse efficiency)
      (directCurrentConnector efficiency).chargingStation) 0 [current] = [current] := by
    change scheduledPlan 20 0 [current] = [current]
    rw [scheduledPlan, if_pos ⟨by decide, .inl positive⟩, scheduledPlan]
  rw [plannedOnce, List.map_singleton, countedAmps, read]
  dsimp only
  rw [scheduled]
  refine congrArg (fun amps : PhaseAmps => [amps]) (funext fun phase => if_pos ?_)
  cases phase <;> rfl

/-- With an efficiency of 80 % the profile keeps the root fuse. -/
theorem keepsRootFuse_iff_knownEfficiency :
    ∃ request profiles, buildOptimizerRequest (exampleSmartChargingContext true)
        (directCurrentSiteArea 80) [] = .ok request ∧
      buildChargingProfilesFromOptimizerResponse (directCurrentResponse 80)
        (directCurrentSiteArea 80) (plannedOnce 50) = .ok profiles ∧
      request.KeepsFuses (plannedOnce 50) ∧
      KeepsRootFuse (directCurrentResponse 80) (directCurrentSiteArea 80) request (plannedOnce 50)
        profiles := by
  have built : (buildOptimizerRequest (exampleSmartChargingContext true)
      (directCurrentSiteArea 80) []).toOption.map (fun request =>
        decide (IsSingleRequest request 125)) = some true := by
    decide +kernel
  have answered : (buildChargingProfilesFromOptimizerResponse (directCurrentResponse 80)
      (directCurrentSiteArea 80) (plannedOnce 50)).toOption.map (fun _ => ()) = some () := by
    decide +kernel
  obtain ⟨request, hrequest, isSingle⟩ := Outcome.exists_ok_of_toOption_map built
  have single := of_decide_eq_true isSingle
  obtain ⟨profiles, hprofiles, -⟩ := Outcome.exists_ok_of_toOption_map answered
  refine ⟨request, profiles, hrequest, hprofiles,
    keepsFuses_plannedOnce single (by norm_num) (by norm_num) (by norm_num),
    (keepsRootFuse_iff hprofiles).mpr fun _ slot => ?_⟩
  have once : (directCurrentConnector 80).count = 1 := by decide +kernel
  rw [map_countedAmps_plannedOnce (by norm_num) (by decide +kernel), List.sum_singleton,
    single.root, once]
  intro phase
  rcases slot with _ | slot
  · change (1 : ℚ) * 50 ≤ 64
    norm_num
  · simp

/-- Without an efficiency the fuse is 1.25 A, and the plan for it makes 125 A from the grid. -/
theorem not_keepsRootFuse_defaultEfficiency :
    ∃ request profiles, buildOptimizerRequest (exampleSmartChargingContext true)
        (directCurrentSiteArea 0) [] = .ok request ∧
      buildChargingProfilesFromOptimizerResponse (directCurrentResponse 0)
        (directCurrentSiteArea 0) (plannedOnce (5 / 4)) = .ok profiles ∧
      ¬ KeepsRootFuse (directCurrentResponse 0) (directCurrentSiteArea 0) request
        (plannedOnce (5 / 4)) profiles := by
  have built : (buildOptimizerRequest (exampleSmartChargingContext true)
      (directCurrentSiteArea 0) []).toOption.map (fun request =>
        decide (IsSingleRequest request (5 / 4))) = some true := by
    decide +kernel
  have answered : (buildChargingProfilesFromOptimizerResponse (directCurrentResponse 0)
      (directCurrentSiteArea 0) (plannedOnce (5 / 4))).toOption.map (fun _ => ()) = some () := by
    decide +kernel
  obtain ⟨request, hrequest, isSingle⟩ := Outcome.exists_ok_of_toOption_map built
  have single := of_decide_eq_true isSingle
  obtain ⟨profiles, hprofiles, -⟩ := Outcome.exists_ok_of_toOption_map answered
  refine ⟨request, profiles, hrequest, hprofiles, fun keeps => ?_⟩
  obtain ⟨exact, hexact, -, within⟩ :=
    keeps (keepsFuses_plannedOnce single (by norm_num) le_rfl (by norm_num))
  obtain ⟨exact', hexact', -, amps⟩ := exact_of_buildChargingProfilesFromOptimizerResponse hprofiles
  obtain rfl := Except.ok.inj (hexact.symm.trans hexact')
  have hundred : (directCurrentConnector 0).count = 100 := by decide +kernel
  have overloaded := within 0 .phase1
  rw [amps, map_countedAmps_plannedOnce (by norm_num) (by decide +kernel), List.sum_singleton,
    single.root, hundred] at overloaded
  change (100 : ℚ) * (5 / 4) ≤ 64 at overloaded
  norm_num at overloaded

end EvServer
