import EvServer.Roaming.EmspLocations
import EvServer.Roaming.OicpPush
import Mathlib.Data.List.Induction

/-!
# The statuses of published EVSEs

`getEvsesFromSite` publishes a status with each EVSE: that of its connector, or one for all the
connectors of a charge point that cannot charge in parallel.  After a status notification,
`patchChargingStationStatus` pushes the status of the connector under the UID of its EVSE.

The one status knows four statuses of connectors only, and the push does not know of the other
connectors.  `statusesAgree_iff` says when the two agree.
-/

namespace EvServer

open EmspLocations (OCPIEvseStatus)
open OICP (Station)

/-- `OCPIEvse`, with its status and the ID of its station. -/
structure StatusEvse extends PublishedEvse where
  status : OCPIEvseStatus
  chargingStationID : String
  deriving DecidableEq, Repr

namespace OCPIUtils

def convertStatus2OCPIStatus : ChargePointStatus → OCPIEvseStatus
  | .available => .available
  | .occupied => .blocked
  | .charging => .charging
  | .faulted | .unavailable => .inoperative
  | .preparing | .suspendedEv | .suspendedEvse | .finishing => .blocked
  | .reserved => .reserved

end OCPIUtils

namespace OCPIUtilsService

open OCPIUtils (buildEvseUID convertStatus2OCPIStatus evseNumber)

/-! ## What is published -/

/-- The charging station with the fields that are read: `inactive` is not one of them. -/
def projectFields (chargingStation : Station) : Station :=
  { chargingStation with inactive := false }

/-- The statuses that are ordered by priority. -/
def statusesOrdered : List ChargePointStatus := [.available, .occupied, .charging, .faulted]

def convertToOneConnectorStatus (connectors : List Connector) : ChargePointStatus :=
  let aggregatedConnectorStatusIndex := connectors.foldl (fun index connector =>
    match statusesOrdered.idxOf? connector.status with
    | some i => if index < i then i else index
    | none => index) 0
  statusesOrdered.getD aggregatedConnectorStatusIndex .available

/-- The EVSE of connectors, with the status of one. -/
def statusEvse (chargingStation : Station) (first : Connector) (connectors : List Connector)
    (status : ChargePointStatus) : StatusEvse where
  uid := buildEvseUID chargingStation.toChargingStation first
  location_id := chargingStation.siteID
  connectors := connectors
  status :=
    if chargingStation.inactive then .inoperative else convertStatus2OCPIStatus status
  chargingStationID := chargingStation.id

/-- The EVSE of a connector that is published alone. -/
def singleEvse (chargingStation : Station) (connector : Connector) : StatusEvse :=
  statusEvse chargingStation connector [connector] connector.status

/-- The connectors of a charge point. -/
def connectorsOf (chargingStation : Station) (chargePoint : ChargePoint) : List Connector :=
  Utils.getConnectorsFromChargePoint chargingStation.toChargingStation chargePoint

/-- The EVSEs of a charge point, with their statuses. -/
def convertChargePointStatuses (chargingStation : Station) (chargePoint : ChargePoint) :
    Except String (List StatusEvse) :=
  let connectors := connectorsOf chargingStation chargePoint
  if chargePoint.cannotChargeInParallel then
    match connectors.head? with
    | none => .error "TypeError: Cannot read properties of undefined (reading 'chargePointID')"
    | some first =>
        .ok [statusEvse chargingStation first connectors (convertToOneConnectorStatus connectors)]
  else .ok (connectors.map (singleEvse chargingStation))

/-- The EVSEs of a station, with their statuses. -/
def stationStatuses (chargingStation : Station) : Except String (List StatusEvse) :=
  if chargingStation.chargePoints.isEmpty then
    .ok (chargingStation.connectors.map (singleEvse chargingStation))
  else
    (chargingStation.chargePoints.mapM (convertChargePointStatuses chargingStation)).map
      List.flatten

/-- `getEvsesFromSite`, with the statuses, of the charging stations of a site. -/
def getEvseStatusesFromSite (chargingStations : List Station) :
    Except String (List StatusEvse) :=
  (((chargingStations.filter fun chargingStation =>
    chargingStation.isPublic ∧ chargingStation.issuer).map projectFields).mapM
      stationStatuses).map List.flatten

end OCPIUtilsService

/-! ## What is pushed -/

namespace CpoOCPIClient

/-- The request of `patchEVSEStatus`. -/
structure EvsePatch where
  locationId : String
  evseUID : String
  newStatus : OCPIEvseStatus
  deriving DecidableEq, Repr

/-- `patchEVSEStatus`; a UID is never empty. -/
def patchEVSEStatus (locationId : Option String) (evseUID : String) (newStatus : OCPIEvseStatus) :
    Except String EvsePatch :=
  match locationId.filter (· ≠ "") with
  | none => .error "Invalid parameters"
  | some locationId => .ok { locationId, evseUID, newStatus }

def patchChargingStationStatus (chargingStation : Station) (connector : Connector) :
    Except String EvsePatch :=
  if chargingStation.siteAreaID = none then
    .error "Charging Station must be associated to a site area"
  else if chargingStation.issuer = false then
    .error "Only charging Station issued locally can be exposed to IOP"
  else if chargingStation.isPublic = false then
    .error "Private charging Station cannot be exposed to IOP"
  else
    patchEVSEStatus chargingStation.siteID
      (OCPIUtils.buildEvseUID chargingStation.toChargingStation connector)
      (OCPIUtils.convertStatus2OCPIStatus connector.status)

end CpoOCPIClient

namespace OCPIUtilsService

open OCPIUtils (buildEvseUID convertStatus2OCPIStatus evseNumber)

variable {chargingStation : Station} {connectors : List Connector} {evses : List StatusEvse}

/-! ## The one status -/

/-- The place of a status in the order, and that of the first one for any other status. -/
def priority (status : ChargePointStatus) : ℕ := (statusesOrdered.idxOf? status).getD 0

theorem foldl_priority (connectors : List Connector) (index : ℕ) :
    connectors.foldl (fun index connector =>
      match statusesOrdered.idxOf? connector.status with
      | some i => if index < i then i else index
      | none => index) index =
      (connectors.map fun connector => priority connector.status).foldl max index := by
  rw [List.foldl_map]
  refine List.foldl_ext _ _ _ fun index connector _ => ?_
  unfold priority
  cases statusesOrdered.idxOf? connector.status with
  | none => exact (Nat.max_zero index).symm
  | some i =>
      dsimp only [Option.getD_some]
      split <;> omega

theorem priority_eq (status : ChargePointStatus) :
    priority status =
      match status with
      | .occupied => 1
      | .charging => 2
      | .faulted => 3
      | _ => 0 := by
  cases status <;> rfl

/-- A connector has one of the statuses. -/
def Has (connectors : List Connector) (status : ChargePointStatus) : Prop :=
  ∃ connector ∈ connectors, connector.status = status

instance (connectors : List Connector) (status : ChargePointStatus) :
    Decidable (Has connectors status) :=
  inferInstanceAs (Decidable (∃ connector ∈ connectors, connector.status = status))

theorem has_concat {connector : Connector} {status : ChargePointStatus} :
    Has (connectors ++ [connector]) status ↔ Has connectors status ∨ connector.status = status := by
  simp [Has, or_and_right, exists_or]

theorem foldl_max_priority (connectors : List Connector) :
    (connectors.map fun connector => priority connector.status).foldl max 0 =
      if Has connectors .faulted then 3
      else if Has connectors .charging then 2
      else if Has connectors .occupied then 1
      else 0 := by
  induction connectors using List.reverseRecOn with
  | nil => simp [Has]
  | append_singleton connectors connector ih =>
      rw [List.map_append, List.foldl_append, ih, List.map_singleton, List.foldl_cons,
        List.foldl_nil, priority_eq]
      simp only [has_concat]
      cases connector.status <;> grind

/-- The one status is the last in the order that a connector has. -/
theorem convertToOneConnectorStatus_eq (connectors : List Connector) :
    convertToOneConnectorStatus connectors =
      if Has connectors .faulted then .faulted
      else if Has connectors .charging then .charging
      else if Has connectors .occupied then .occupied
      else .available := by
  unfold convertToOneConnectorStatus
  dsimp only
  rw [foldl_priority, foldl_max_priority]
  repeat' split
  all_goals rfl

/-- The status of a connector converts as the one status of the connectors does. -/
def AgreesWith (connectors : List Connector) : ChargePointStatus → Prop
  | .available => ¬ Has connectors .occupied ∧ ¬ Has connectors .charging ∧
      ¬ Has connectors .faulted
  | .occupied | .preparing | .suspendedEv | .suspendedEvse | .finishing =>
      Has connectors .occupied ∧ ¬ Has connectors .charging ∧ ¬ Has connectors .faulted
  | .charging => Has connectors .charging ∧ ¬ Has connectors .faulted
  | .faulted | .unavailable => Has connectors .faulted
  | .reserved => False

theorem agreesWith_iff (status : ChargePointStatus) :
    convertStatus2OCPIStatus (convertToOneConnectorStatus connectors) =
      convertStatus2OCPIStatus status ↔ AgreesWith connectors status := by
  rw [convertToOneConnectorStatus_eq]
  by_cases faulted : Has connectors .faulted <;> by_cases charging : Has connectors .charging <;>
    by_cases occupied : Has connectors .occupied <;> cases status <;>
    simp [convertStatus2OCPIStatus, AgreesWith, faulted, charging, occupied]

theorem convertToOneConnectorStatus_eq_available_iff :
    convertStatus2OCPIStatus (convertToOneConnectorStatus connectors) = .available ↔
      ¬ Has connectors .occupied ∧ ¬ Has connectors .charging ∧ ¬ Has connectors .faulted :=
  agreesWith_iff .available

/-! ## The EVSEs of a station -/

/-- The connectors that are published alone. -/
def separateConnectors (chargingStation : Station) : List Connector :=
  if chargingStation.chargePoints.isEmpty then chargingStation.connectors
  else
    (chargingStation.chargePoints.filter fun chargePoint =>
      !chargePoint.cannotChargeInParallel).flatMap (connectorsOf chargingStation)

/-- The charge points that are published as one EVSE each. -/
def groupingChargePoints (chargingStation : Station) : List ChargePoint :=
  chargingStation.chargePoints.filter ChargePoint.cannotChargeInParallel

/-- A charge point can be converted, unless it is published as one EVSE without connectors. -/
theorem exists_convertChargePointStatuses_iff {chargePoint : ChargePoint} :
    (∃ evses, convertChargePointStatuses chargingStation chargePoint = .ok evses) ↔
      (chargePoint.cannotChargeInParallel = true →
        connectorsOf chargingStation chargePoint ≠ []) := by
  unfold convertChargePointStatuses
  cases chargePoint.cannotChargeInParallel with
  | false => simp
  | true =>
      cases connectorsOf chargingStation chargePoint with
      | nil => simp
      | cons first rest => simp

theorem exists_stationStatuses_iff :
    (∃ evses, stationStatuses chargingStation = .ok evses) ↔
      ∀ chargePoint ∈ groupingChargePoints chargingStation,
        connectorsOf chargingStation chargePoint ≠ [] := by
  unfold stationStatuses
  split
  · rename_i none
    rw [List.isEmpty_iff] at none
    simp [groupingChargePoints, none]
  · have mapped : (∃ evses, (chargingStation.chargePoints.mapM
        (convertChargePointStatuses chargingStation)).map List.flatten = .ok evses) ↔
        ∃ bs, chargingStation.chargePoints.mapM (convertChargePointStatuses chargingStation) =
          .ok bs := by
      constructor
      · rintro ⟨evses, h⟩
        obtain ⟨bs, h, -⟩ := Outcome.map_eq_ok.mp h
        exact ⟨bs, h⟩
      · rintro ⟨bs, h⟩
        exact ⟨bs.flatten, Outcome.map_eq_ok.mpr ⟨bs, h, rfl⟩⟩
    rw [mapped, Outcome.exists_mapM_eq_ok_iff]
    simp only [exists_convertChargePointStatuses_iff, groupingChargePoints, List.mem_filter,
      and_imp]

/-- **The EVSEs of a station**: one for each connector that is published alone, and one for each
charge point that is published as one. -/
theorem mem_stationStatuses (h : stationStatuses chargingStation = .ok evses) {evse : StatusEvse} :
    evse ∈ evses ↔
      (∃ connector ∈ separateConnectors chargingStation,
        evse = singleEvse chargingStation connector) ∨
      ∃ chargePoint ∈ groupingChargePoints chargingStation,
        ∃ first ∈ (connectorsOf chargingStation chargePoint).head?,
          evse = statusEvse chargingStation first (connectorsOf chargingStation chargePoint)
            (convertToOneConnectorStatus (connectorsOf chargingStation chargePoint)) := by
  unfold stationStatuses at h
  unfold separateConnectors groupingChargePoints
  split at h
  · rename_i none
    cases h
    rw [if_pos none, List.isEmpty_iff.mp none]
    simp [eq_comm]
  · rename_i some
    rw [if_neg some]
    obtain ⟨bs, hbs, rfl⟩ := Outcome.map_eq_ok.mp h
    have members : ∀ b, b ∈ bs ↔ ∃ chargePoint ∈ chargingStation.chargePoints,
        convertChargePointStatuses chargingStation chargePoint = .ok b :=
      fun b => Outcome.mem_mapM hbs
    rw [List.mem_flatten]
    constructor
    · rintro ⟨b, hb, mem⟩
      obtain ⟨chargePoint, hpoint, hconvert⟩ := (members b).mp hb
      unfold convertChargePointStatuses at hconvert
      dsimp only at hconvert
      split at hconvert
      · rename_i grouping
        split at hconvert
        · cases hconvert
        · rename_i first hfirst
          cases hconvert
          rw [List.mem_singleton] at mem
          exact .inr ⟨chargePoint, List.mem_filter.mpr ⟨hpoint, grouping⟩, first, hfirst, mem⟩
      · rename_i parallel
        cases hconvert
        obtain ⟨connector, hconnector, rfl⟩ := List.mem_map.mp mem
        refine .inl ⟨connector, List.mem_flatMap.mpr ⟨chargePoint, ?_, hconnector⟩, rfl⟩
        exact List.mem_filter.mpr ⟨hpoint, by simpa using parallel⟩
    · rintro (⟨connector, hconnector, rfl⟩ | ⟨chargePoint, hpoint, first, hfirst, rfl⟩)
      · obtain ⟨chargePoint, hpoint, hconnector⟩ := List.mem_flatMap.mp hconnector
        obtain ⟨hpoint, parallel⟩ := List.mem_filter.mp hpoint
        refine ⟨_, (members _).mpr ⟨chargePoint, hpoint, ?_⟩, List.mem_map_of_mem hconnector⟩
        exact if_neg (by simpa using parallel)
      · obtain ⟨hpoint, grouping⟩ := List.mem_filter.mp hpoint
        refine ⟨_, (members _).mpr ⟨chargePoint, hpoint, ?_⟩, List.mem_singleton_self _⟩
        unfold convertChargePointStatuses
        dsimp only
        rw [if_pos grouping, show (connectorsOf _ chargePoint).head? = _ from hfirst]

theorem buildEvseUID_inj {chargingStation : ChargingStation} {connector connector' : Connector} :
    buildEvseUID chargingStation connector = buildEvseUID chargingStation connector' ↔
      OCPIUtils.evseNumber chargingStation connector =
        OCPIUtils.evseNumber chargingStation connector' := by
  rw [OCPIUtils.buildEvseUID_eq, OCPIUtils.buildEvseUID_eq]
  exact ⟨fun same => (OCPIUtils.evseUID_inj same).2, fun same => same ▸ rfl⟩

/-- The station is published, with all its charge points. -/
structure IsPublished (chargingStation : Station) : Prop where
  isPublic : chargingStation.isPublic = true
  issuer : chargingStation.issuer = true
  connected : ∀ chargePoint ∈ groupingChargePoints chargingStation,
    connectorsOf chargingStation chargePoint ≠ []

theorem getEvseStatusesFromSite_singleton {evses : List StatusEvse} :
    getEvseStatusesFromSite [chargingStation] = .ok evses ↔
      if chargingStation.isPublic = true ∧ chargingStation.issuer = true then
        stationStatuses (projectFields chargingStation) = .ok evses
      else evses = [] := by
  unfold getEvseStatusesFromSite
  split
  · rename_i exposed
    have read : ([chargingStation].filter fun chargingStation =>
        decide (chargingStation.isPublic = true ∧ chargingStation.issuer = true)) =
        [chargingStation] := List.filter_cons_of_pos (by simpa using exposed)
    rw [read, List.map_singleton]
    have single : (([projectFields chargingStation].mapM stationStatuses).map List.flatten =
        .ok evses) ↔ stationStatuses (projectFields chargingStation) = .ok evses := by
      rw [Outcome.map_eq_ok]
      constructor
      · rintro ⟨bs, h, rfl⟩
        obtain ⟨b, rest, hb, hrest, rfl⟩ := Outcome.mapM_cons_eq_ok.mp h
        cases hrest
        simpa using hb
      · intro h
        exact ⟨[evses], Outcome.mapM_cons_eq_ok.mpr ⟨evses, [], h, rfl, rfl⟩, by simp⟩
    exact single
  · rename_i hidden
    have read : ([chargingStation].filter fun chargingStation =>
        decide (chargingStation.isPublic = true ∧ chargingStation.issuer = true)) = [] :=
      List.filter_cons_of_neg (by simpa using hidden)
    rw [read]
    exact ⟨fun h => by cases h; rfl, fun h => by rw [h]; rfl⟩

theorem getEvseStatusesFromSite_of_isPublished (h : IsPublished chargingStation) :
    ∃ evses, getEvseStatusesFromSite [chargingStation] = .ok evses ∧
      stationStatuses (projectFields chargingStation) = .ok evses := by
  have read : ∃ evses, stationStatuses (projectFields chargingStation) = .ok evses :=
    exists_stationStatuses_iff.mpr h.connected
  obtain ⟨evses, hevses⟩ := read
  refine ⟨evses, ?_, hevses⟩
  rw [getEvseStatusesFromSite_singleton, if_pos ⟨h.isPublic, h.issuer⟩, hevses]

theorem isPublished_of_mem (h : getEvseStatusesFromSite [chargingStation] = .ok evses)
    {evse : StatusEvse} (mem : evse ∈ evses) :
    IsPublished chargingStation ∧ stationStatuses (projectFields chargingStation) = .ok evses := by
  rw [getEvseStatusesFromSite_singleton] at h
  split at h
  · rename_i exposed
    have connected := exists_stationStatuses_iff.mp ⟨evses, h⟩
    exact ⟨⟨exposed.1, exposed.2, connected⟩, h⟩
  · rw [h] at mem
    cases mem

/-! ## The push and the pull -/

/-- What is pushed for a connector is what is published under the UID, and an EVSE with several
connectors is available when all of them are. -/
structure StatusesAgree (chargingStation : Station) : Prop where
  pushed : ∀ connector ∈ chargingStation.connectors, ∀ patch,
    CpoOCPIClient.patchChargingStationStatus chargingStation connector = .ok patch →
    ∀ evses, getEvseStatusesFromSite [chargingStation] = .ok evses →
    ∀ evse ∈ evses, evse.uid = patch.evseUID → evse.status = patch.newStatus
  available : ∀ evses, getEvseStatusesFromSite [chargingStation] = .ok evses →
    ∀ evse ∈ evses, 1 < evse.connectors.length → evse.status = .available →
    ∀ connector ∈ evse.connectors, connector.status = .available

/-- The status of every connector is the one status of the EVSE it belongs to. -/
structure Aggregates (chargingStation : Station) : Prop where
  single : chargingStation.siteAreaID ≠ none → chargingStation.siteID.filter (· ≠ "") ≠ none →
    ∀ connector ∈ chargingStation.connectors, ∀ other ∈ separateConnectors chargingStation,
    evseNumber chargingStation.toChargingStation other =
      evseNumber chargingStation.toChargingStation connector →
    convertStatus2OCPIStatus other.status = convertStatus2OCPIStatus connector.status
  grouped : chargingStation.siteAreaID ≠ none → chargingStation.siteID.filter (· ≠ "") ≠ none →
    ∀ connector ∈ chargingStation.connectors,
    ∀ chargePoint ∈ groupingChargePoints chargingStation,
    ∀ first ∈ (connectorsOf chargingStation chargePoint).head?,
    evseNumber chargingStation.toChargingStation first =
      evseNumber chargingStation.toChargingStation connector →
    AgreesWith (connectorsOf chargingStation chargePoint) connector.status
  available : ∀ chargePoint ∈ groupingChargePoints chargingStation,
    1 < (connectorsOf chargingStation chargePoint).length →
    Has (connectorsOf chargingStation chargePoint) .occupied ∨
      Has (connectorsOf chargingStation chargePoint) .charging ∨
      Has (connectorsOf chargingStation chargePoint) .faulted ∨
      ∀ connector ∈ connectorsOf chargingStation chargePoint, connector.status = .available

theorem patchChargingStationStatus_ok_iff {connector : Connector} {patch : CpoOCPIClient.EvsePatch}
    (h : IsPublished chargingStation) :
    CpoOCPIClient.patchChargingStationStatus chargingStation connector = .ok patch ↔
      chargingStation.siteAreaID ≠ none ∧
        chargingStation.siteID.filter (· ≠ "") = some patch.locationId ∧
        patch.evseUID = buildEvseUID chargingStation.toChargingStation connector ∧
        patch.newStatus = convertStatus2OCPIStatus connector.status := by
  unfold CpoOCPIClient.patchChargingStationStatus CpoOCPIClient.patchEVSEStatus
  rw [h.issuer, h.isPublic]
  by_cases area : chargingStation.siteAreaID = none
  · simp [area]
  · rw [if_neg area, if_neg (by simp), if_neg (by simp)]
    cases chargingStation.siteID.filter (· ≠ "") with
    | none => simp
    | some locationId =>
        obtain ⟨locationId', evseUID, newStatus⟩ := patch
        simp [area, eq_comm]

theorem status_statusEvse (first : Connector) (connectors : List Connector)
    (status : ChargePointStatus) :
    (statusEvse (projectFields chargingStation) first connectors status).status =
      convertStatus2OCPIStatus status := rfl

theorem uid_statusEvse {first connector : Connector} (connectors : List Connector)
    (status : ChargePointStatus) :
    (statusEvse (projectFields chargingStation) first connectors status).uid =
        buildEvseUID chargingStation.toChargingStation connector ↔
      evseNumber chargingStation.toChargingStation first =
        evseNumber chargingStation.toChargingStation connector :=
  buildEvseUID_inj

/-- **Push and pull agree** for the stations whose connectors aggregate. -/
theorem statusesAgree_iff (chargingStation : Station) :
    StatusesAgree chargingStation ↔ (IsPublished chargingStation → Aggregates chargingStation) := by
  constructor
  · intro agree published
    obtain ⟨evses, hget, hevses⟩ := getEvseStatusesFromSite_of_isPublished published
    have members : ∀ evse, evse ∈ evses ↔ _ := fun evse => mem_stationStatuses hevses
    -- What is pushed for a connector is the status of each EVSE with its UID.
    have pushed : chargingStation.siteAreaID ≠ none →
        chargingStation.siteID.filter (· ≠ "") ≠ none →
        ∀ connector ∈ chargingStation.connectors, ∀ evse ∈ evses,
          evse.uid = buildEvseUID chargingStation.toChargingStation connector →
          evse.status = convertStatus2OCPIStatus connector.status := by
      intro area site connector hconnector evse mem uid
      obtain ⟨locationId, hsite⟩ := Option.ne_none_iff_exists'.mp site
      exact agree.pushed connector hconnector ⟨locationId, _, _⟩
        ((patchChargingStationStatus_ok_iff published).mpr ⟨area, hsite, rfl, rfl⟩) evses hget evse
        mem uid
    refine ⟨?_, ?_, ?_⟩
    · intro area site connector hconnector other hother same
      exact pushed area site connector hconnector _
        ((members _).mpr (.inl ⟨other, hother, rfl⟩)) ((uid_statusEvse _ _).mpr same)
    · intro area site connector hconnector chargePoint hpoint first hfirst same
      rw [← agreesWith_iff]
      exact pushed area site connector hconnector _
        ((members _).mpr (.inr ⟨chargePoint, hpoint, first, hfirst, rfl⟩))
        ((uid_statusEvse _ _).mpr same)
    · intro chargePoint hpoint several
      obtain ⟨first, hfirst⟩ : ∃ first, first ∈ (connectorsOf chargingStation chargePoint).head? :=
        Option.isSome_iff_exists.mp (List.isSome_head?.mpr (published.connected _ hpoint))
      by_cases idle : ¬ Has (connectorsOf chargingStation chargePoint) .occupied ∧
          ¬ Has (connectorsOf chargingStation chargePoint) .charging ∧
          ¬ Has (connectorsOf chargingStation chargePoint) .faulted
      · refine .inr (.inr (.inr ?_))
        exact agree.available evses hget _
          ((members _).mpr (.inr ⟨chargePoint, hpoint, first, hfirst, rfl⟩)) several
          (convertToOneConnectorStatus_eq_available_iff.mpr idle)
      · tauto
  · intro aggregates
    refine ⟨?_, ?_⟩
    · intro connector hconnector patch hpatch evses hget evse mem uid
      obtain ⟨published, hevses⟩ := isPublished_of_mem hget mem
      obtain ⟨area, site, hUID, hstatus⟩ := (patchChargingStationStatus_ok_iff published).mp hpatch
      have located : chargingStation.siteID.filter (· ≠ "") ≠ none := by
        rw [site]
        exact Option.some_ne_none _
      rw [hUID] at uid
      rw [hstatus]
      rcases (mem_stationStatuses hevses).mp mem with
        ⟨other, hother, rfl⟩ | ⟨chargePoint, hpoint, first, hfirst, rfl⟩
      · exact (aggregates published).single area located connector hconnector other hother
          ((uid_statusEvse _ _).mp uid)
      · rw [status_statusEvse]
        exact (agreesWith_iff _).mpr ((aggregates published).grouped area located connector
          hconnector chargePoint hpoint first hfirst ((uid_statusEvse _ _).mp uid))
    · intro evses hget evse mem several status connector hconnector
      obtain ⟨published, hevses⟩ := isPublished_of_mem hget mem
      rcases (mem_stationStatuses hevses).mp mem with
        ⟨other, hother, rfl⟩ | ⟨chargePoint, hpoint, first, hfirst, rfl⟩
      · exact absurd several (by simp [singleEvse, statusEvse])
      · rw [status_statusEvse, convertToOneConnectorStatus_eq_available_iff] at status
        rcases (aggregates published).available chargePoint hpoint several with
          occupied | charging | faulted | idle
        · exact absurd occupied status.1
        · exact absurd charging status.2.1
        · exact absurd faulted status.2.2
        · exact idle connector hconnector

/-- A station of one charge point, where a car charges at the first of two connectors. -/
private def oneCharging : Station where
  id := "CS1"
  siteAreaID := some "SA1"
  siteID := some "S1"
  chargePoints := [{ chargePointID := 1, cannotChargeInParallel := true, connectorIDs := [1, 2] }]
  connectors := [{ connectorId := 1, chargePointID := 1, status := .charging },
    { connectorId := 2, chargePointID := 1 }]
  issuer := true
  isPublic := true

/-- The second connector is pushed as available under the UID of an EVSE that is charging. -/
theorem not_statusesAgree_oneCharging : ¬ ∀ chargingStation : Station,
    StatusesAgree chargingStation := by
  intro agree
  have pushed := (agree oneCharging).pushed { connectorId := 2, chargePointID := 1 } (by decide)
    ⟨"S1", "CS1*1", .available⟩ (by decide +kernel)
    [⟨⟨"CS1*1", some "S1", oneCharging.connectors⟩, .charging, "CS1"⟩] (by decide +kernel) _
    List.mem_cons_self rfl
  exact absurd pushed (by decide)

end OCPIUtilsService

end EvServer
