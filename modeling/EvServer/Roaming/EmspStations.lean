import EvServer.Lib.Runs
import EvServer.Roaming.EmspLocations

/-!
# The charging stations of a location

Every report about an EVSE deletes, updates or creates a station (`Processing`).  A report that
removes an EVSE deletes its station if there is one; if there is none, as when the removal is
sent twice, the station is created.

`storedAsReceived_iff_of_run` says when the stations of a location are those that the operator
has reported and not removed.
-/

namespace EvServer.EmspLocations

open EMSPLocationsEndpoint (Processed checkAndGetEvse)

/-! ## Reports about one EVSE -/

/-- A report about an EVSE: it comes with its location, which is put or pulled, or it is put or
patched itself, or one of its connectors is. -/
inductive EvseRequest
  | inLocation (location : OCPILocation) (site : Site) (siteArea : SiteArea) (evse : OCPIEvse)
  | putEvse (siteAreas : List SiteArea) (locationID evseUID : String) (evse : OCPIEvse)
  | putEvseConnector (siteAreas : List SiteArea) (locationID evseUID evseConnectorID : String)
      (evseConnector : OCPIConnector)
  | patchEvse (siteAreas : List SiteArea) (locationID evseUID : String) (evse : OCPIEvsePatch)
  | patchEvseConnector (siteAreas : List SiteArea) (locationID evseUID evseConnectorID : String)
      (evseConnector : OCPIConnectorPatch)
  deriving DecidableEq, Repr

namespace EvseRequest

/-- What `processEMSPLocationChargingStation` is called with. -/
def processed (stations : Stations) : EvseRequest → Except String Processed
  | inLocation location site siteArea evse => .ok ⟨location, some site, siteArea, evse⟩
  | putEvse siteAreas locationID evseUID evse =>
      EMSPLocationsEndpoint.putEvse siteAreas locationID evseUID evse
  | putEvseConnector siteAreas locationID evseUID evseConnectorID evseConnector =>
      EMSPLocationsEndpoint.putEvseConnector siteAreas locationID evseUID evseConnectorID
        evseConnector stations
  | patchEvse siteAreas locationID evseUID evse =>
      EMSPLocationsEndpoint.patchEvse siteAreas locationID evseUID evse stations
  | patchEvseConnector siteAreas locationID evseUID evseConnectorID evseConnector =>
      EMSPLocationsEndpoint.patchEvseConnector siteAreas locationID evseUID evseConnectorID
        evseConnector stations

/-- What a report does to the stations. -/
def run (request : EvseRequest) (stations : Stations) : Except String Stations := do
  let call ← request.processed stations
  OCPIUtils.processEMSPLocationChargingStation call.location call.site call.siteArea call.evse
    stations

/-- The location that the report is about. -/
def locationID : EvseRequest → String
  | inLocation location _ _ _ => location.id
  | putEvse _ locationID _ _ | putEvseConnector _ locationID _ _ _ => locationID
  | patchEvse _ locationID _ _ | patchEvseConnector _ locationID _ _ _ => locationID

/-- The EVSE that the report is about. -/
def uid : EvseRequest → String
  | inLocation _ _ _ evse | putEvse _ _ _ evse => evse.uid
  | patchEvse _ _ evseUID evse => evse.uid.getD evseUID
  | putEvseConnector _ _ evseUID _ _ | patchEvseConnector _ _ evseUID _ _ => evseUID

/-- The report carries the status `REMOVED`. -/
def removes : EvseRequest → Bool
  | inLocation _ _ _ evse | putEvse _ _ _ evse => evse.status = some .removed
  | patchEvse _ _ _ evse => evse.status = some (some .removed)
  | putEvseConnector .. | patchEvseConnector .. => false

end EvseRequest

/-- A report that has been accepted. -/
structure Update where
  locationID : String
  uid : String
  removed : Bool
  deriving DecidableEq, Repr

/-- The stations, and the reports that have been accepted. -/
structure Feed where
  stations : Stations
  received : List Update := []
  deriving DecidableEq

/-- The last report about an EVSE. -/
def lastReceived (received : List Update) (locationID uid : String) : Option Update :=
  (received.filter fun update => update.locationID = locationID ∧ update.uid = uid).getLast?

namespace Feed

/-- A report comes in; one that is refused changes nothing. -/
def receive (feed : Feed) (request : EvseRequest) : Feed :=
  match request.run feed.stations with
  | .ok stations =>
      ⟨stations, feed.received ++ [⟨request.locationID, request.uid, request.removes⟩]⟩
  | .error _ => feed

/-- The step relation: reports about EVSEs of locations that have an ID. -/
def Step (feed : Feed) (request : EvseRequest) (feed' : Feed) : Prop :=
  request.locationID ≠ "" ∧ feed' = feed.receive request

/-- The reports of a location that is put or pulled are processed one after the other. -/
theorem stations_foldl_receive (location : OCPILocation) (site : Site) (siteArea : SiteArea)
    (evses : List OCPIEvse) (feed : Feed) :
    ((evses.map (EvseRequest.inLocation location site siteArea)).foldl receive feed).stations =
      OCPIUtils.processEMSPLocationChargingStations location site siteArea evses feed.stations := by
  induction evses generalizing feed with
  | nil => rfl
  | cons evse rest ih =>
      rw [List.map_cons, List.foldl_cons, ih]
      have first : (feed.receive (.inLocation location site siteArea evse)).stations =
          match OCPIUtils.processEMSPLocationChargingStation location (some site) siteArea evse
            feed.stations with
          | .ok stations => stations
          | .error _ => feed.stations := by
        unfold receive
        rw [show (EvseRequest.inLocation location site siteArea evse).run feed.stations =
          OCPIUtils.processEMSPLocationChargingStation location (some site) siteArea evse
            feed.stations from rfl]
        split <;> rfl
      rw [first]
      rfl

/-- The EVSEs of a location are a run of reports. -/
theorem run_foldl_receive {location : OCPILocation} (hasID : location.id ≠ "") (site : Site)
    (siteArea : SiteArea) (evses : List OCPIEvse) (feed : Feed) :
    Transition.Run Step feed (evses.map (EvseRequest.inLocation location site siteArea))
      ((evses.map (EvseRequest.inLocation location site siteArea)).foldl receive feed) := by
  induction evses generalizing feed with
  | nil => exact .refl
  | cons evse rest ih =>
      exact (Transition.Run.single (s := feed)
        (a := EvseRequest.inLocation location site siteArea evse) ⟨hasID, rfl⟩).append (ih _)

/-- What reports leave of the stations. -/
def Leads (feed : Feed) (stations : Stations) : Prop :=
  ∃ requests feed', Transition.Run Step feed requests feed' ∧ feed'.stations = stations

theorem leads_processEMSPLocationChargingStations {location : OCPILocation}
    (hasID : location.id ≠ "") (site : Site) (siteArea : SiteArea) (feed : Feed) :
    feed.Leads (OCPIUtils.processEMSPLocationChargingStations location site siteArea
      location.evses feed.stations) :=
  ⟨_, _, run_foldl_receive hasID site siteArea location.evses feed,
    stations_foldl_receive location site siteArea location.evses feed⟩

/-- **A location that is put** is a run of the reports about its EVSEs. -/
theorem leads_putLocation {locationID : String} (hasID : locationID ≠ "")
    {location : OCPILocation} {site : Site} {siteArea : SiteArea} {feed : Feed}
    {stations : Stations}
    (h : EMSPLocationsEndpoint.putLocation locationID location site siteArea feed.stations =
      .ok stations) : feed.Leads stations := by
  obtain ⟨same, h⟩ := Outcome.refuse_bind_eq_ok.mp h
  rw [ne_eq, not_not] at same
  obtain rfl := Outcome.pure_eq_ok_iff.mp h
  exact leads_processEMSPLocationChargingStations (same ▸ hasID) site siteArea feed

theorem Leads.pullNext {feed : Feed} {result : EmspOCPIClient.PullResult}
    (leads : feed.Leads result.stations) {pulled : EmspOCPIClient.Pulled}
    (hasID : pulled.location.id ≠ "") :
    feed.Leads (EmspOCPIClient.pullNext result pulled).stations := by
  unfold EmspOCPIClient.pullNext
  split
  · rename_i stations h
    obtain ⟨-, h⟩ := Outcome.refuse_bind_eq_ok.mp h
    obtain rfl := Outcome.pure_eq_ok_iff.mp h
    obtain ⟨requests, feed', run, same⟩ := leads
    rw [← same]
    obtain ⟨requests', feed'', run', same'⟩ :=
      leads_processEMSPLocationChargingStations hasID pulled.site pulled.siteArea feed'
    exact ⟨_, feed'', run.append run', same'⟩
  · exact leads

/-- **The pages that are pulled** are a run of the reports about their EVSEs. -/
theorem leads_pullLocations {pages : List (List EmspOCPIClient.Pulled)}
    (haveIDs : ∀ pulled ∈ pages.flatten, pulled.location.id ≠ "") (feed : Feed) :
    feed.Leads (EmspOCPIClient.pullLocations pages feed.stations).stations := by
  unfold EmspOCPIClient.pullLocations
  generalize pages.flatten = locations at haveIDs ⊢
  have start : feed.Leads (EmspOCPIClient.PullResult.mk 0 0 feed.stations).stations :=
    ⟨[], feed, .refl, rfl⟩
  generalize EmspOCPIClient.PullResult.mk 0 0 feed.stations = result at start ⊢
  induction locations generalizing result with
  | nil => exact start
  | cons pulled rest ih =>
      rw [List.forall_mem_cons] at haveIDs
      exact ih haveIDs.2 _ (start.pullNext haveIDs.1)

end Feed

/-! ## One report -/

/-- The station is at a location. -/
def RoamingStation.IsAt (locationID : String) (station : RoamingStation) : Prop :=
  station.deleted = false ∧ ∃ evse ∈ station.evses, evse.location_id = locationID

/-- The station is the one of an EVSE. -/
def RoamingStation.IsFor (locationID uid : String) (station : RoamingStation) : Prop :=
  station.IsAt locationID ∧ ∃ evse ∈ station.evses, evse.uid = uid

/-- A station is stored for an EVSE. -/
def IsStored (locationID uid : String) (stations : Stations) : Prop :=
  ∃ station ∈ stations.docs, station.IsFor locationID uid

instance (locationID uid : String) (stations : Stations) :
    Decidable (IsStored locationID uid stations) :=
  inferInstanceAs (Decidable (∃ station ∈ stations.docs,
    (station.deleted = false ∧ ∃ evse ∈ station.evses, evse.location_id = locationID) ∧
      ∃ evse ∈ station.evses, evse.uid = uid))

variable {stations stations' : Stations} {locationID uid : String} {call : Processed}

theorem isAt_of_found {station : RoamingStation} (hasID : locationID ≠ "")
    (found : getChargingStationByOcpiLocationEvseUid locationID uid stations = some station) :
    station ∈ stations.docs ∧ station.IsAt locationID ∧
      (uid = "" ∨ ∃ evse ∈ station.evses, evse.uid = uid) := by
  unfold getChargingStationByOcpiLocationEvseUid at found
  split at found
  · rename_i only filtered
    cases found
    have mem : station ∈ [station] := List.mem_singleton_self station
    rw [← filtered, List.mem_filter] at mem
    obtain ⟨mem, passes⟩ := mem
    simp only [hasID, decide_false, Bool.false_or, Bool.and_eq_true, Bool.or_eq_true,
      Bool.not_eq_true', List.any_eq_true, decide_eq_true_eq] at passes
    exact ⟨mem, ⟨passes.1.1, passes.2⟩, passes.1.2⟩
  · cases found

theorem isFor_of_found {station : RoamingStation} (hasID : locationID ≠ "") (hasUID : uid ≠ "")
    (found : getChargingStationByOcpiLocationEvseUid locationID uid stations = some station) :
    station ∈ stations.docs ∧ station.IsFor locationID uid := by
  obtain ⟨mem, at', isFor⟩ := isAt_of_found hasID found
  exact ⟨mem, at', isFor.resolve_left hasUID⟩

/-- A station of an EVSE is created: none is found, and the report says what is needed. -/
structure Creates (call : Processed) (stations : Stations) : Prop where
  hasUID : call.evse.uid ≠ ""
  hasEvseID : call.evse.evse_id ≠ ""
  hasSite : call.site.isSome
  notFound : getChargingStationByOcpiLocationEvseUid call.location.id call.evse.uid stations = none

/-- What the processing of an EVSE does. -/
inductive Processing (call : Processed) (stations stations' : Stations) : Prop
  /-- The EVSE has been removed, and its station is deleted. -/
  | deletes (current : RoamingStation)
      (found : getChargingStationByOcpiLocationEvseUid call.location.id call.evse.uid stations =
        some current)
      (removed : call.evse.status = some .removed) (eq : stations' = stations.delete current.id)
  /-- The station of the EVSE is updated. -/
  | updates (current station : RoamingStation)
      (found : getChargingStationByOcpiLocationEvseUid call.location.id call.evse.uid stations =
        some current)
      (stays : call.evse.status ≠ some .removed) (id : station.id = current.id)
      (deleted : station.deleted = current.deleted)
      (evses : station.evses = [{ call.evse with location_id := call.location.id }])
      (eq : stations' = stations.save station)
  /-- A station is created, whatever the status of the EVSE. -/
  | creates (station : RoamingStation) (new : Creates call stations)
      (id : station.id = call.evse.evse_id) (deleted : station.deleted = false)
      (evses : station.evses = [{ call.evse with location_id := call.location.id }])
      (eq : stations' = stations.save station)

/-- The station of an EVSE that is converted. -/
theorem convertEvseToChargingStation_ok {current : Option RoamingStation}
    {station : RoamingStation}
    (h : OCPIUtils.convertEvseToChargingStation current call.evse call.location call.site
      call.siteArea = .ok station) :
    call.evse.evse_id ≠ "" ∧
      station.evses = [{ call.evse with location_id := call.location.id }] ∧
      (∀ old, current = some old → station.id = old.id ∧ station.deleted = old.deleted) ∧
      (current = none →
        call.site.isSome ∧ station.id = call.evse.evse_id ∧ station.deleted = false) := by
  unfold OCPIUtils.convertEvseToChargingStation at h
  obtain ⟨hasEvseID, h⟩ := Outcome.refuse_bind_eq_ok.mp h
  cases current with
  | some old =>
      cases h
      refine ⟨hasEvseID, rfl, ?_, nofun⟩
      intro _ same
      cases same
      exact ⟨rfl, rfl⟩
  | none =>
      cases hsite : call.site with
      | none =>
          rw [hsite] at h
          cases h
      | some site =>
          rw [hsite] at h
          cases h
          exact ⟨hasEvseID, rfl, nofun, fun _ => ⟨rfl, rfl, rfl⟩⟩

/-- **What `processEMSPLocationChargingStation` does** when it does not throw. -/
theorem processing_of_ok
    (h : OCPIUtils.processEMSPLocationChargingStation call.location call.site call.siteArea
      call.evse stations = .ok stations') :
    call.evse.uid ≠ "" ∧ Processing call stations stations' := by
  unfold OCPIUtils.processEMSPLocationChargingStation at h
  obtain ⟨hasUID, h⟩ := Outcome.refuse_bind_eq_ok.mp h
  refine ⟨hasUID, ?_⟩
  cases found : getChargingStationByOcpiLocationEvseUid call.location.id call.evse.uid stations with
  | none =>
      rw [found] at h
      obtain ⟨station, converted, h⟩ := Outcome.bind_eq_ok.mp h
      obtain ⟨hasEvseID, evses, -, new⟩ := convertEvseToChargingStation_ok converted
      obtain ⟨hasSite, id, deleted⟩ := new rfl
      exact .creates station ⟨hasUID, hasEvseID, hasSite, found⟩ id deleted evses
        (Outcome.pure_eq_ok_iff.mp h).symm
  | some current =>
      rw [found] at h
      by_cases removed : call.evse.status = some .removed
      · simp only [removed, decide_true, Option.filter_some, if_true] at h
        exact .deletes current found removed (Outcome.pure_eq_ok_iff.mp h).symm
      · simp only [removed, decide_false, Option.filter_some] at h
        obtain ⟨station, converted, h⟩ := Outcome.bind_eq_ok.mp h
        obtain ⟨-, evses, old, -⟩ := convertEvseToChargingStation_ok converted
        obtain ⟨id, deleted⟩ := old current rfl
        exact .updates current station found removed id deleted evses
          (Outcome.pure_eq_ok_iff.mp h).symm

/-- A report that says what is needed creates a station. -/
theorem Creates.exists_ok (new : Creates call stations) :
    ∃ stations', OCPIUtils.processEMSPLocationChargingStation call.location call.site
      call.siteArea call.evse stations = .ok stations' := by
  obtain ⟨site, hsite⟩ := Option.isSome_iff_exists.mp new.hasSite
  have converted : ∃ station, OCPIUtils.convertEvseToChargingStation none call.evse call.location
      call.site call.siteArea = .ok station := by
    unfold OCPIUtils.convertEvseToChargingStation
    rw [hsite, Outcome.refuse_of_not new.hasEvseID]
    exact ⟨_, rfl⟩
  obtain ⟨station, converted⟩ := converted
  refine ⟨stations.save station, ?_⟩
  unfold OCPIUtils.processEMSPLocationChargingStation
  rw [Outcome.refuse_of_not new.hasUID, new.notFound]
  show (OCPIUtils.convertEvseToChargingStation none _ _ _ _ >>= _) = _
  rw [converted]
  rfl

/-! ## The stations of a location -/

/-- The stations of a location: each has one EVSE, which is not removed, and no two have the
same. -/
structure Tidy (locationID : String) (stations : Stations) : Prop where
  single : ∀ station ∈ stations.docs, station.IsAt locationID → ∃ evse, station.evses = [evse] ∧
    evse.location_id = locationID ∧ evse.status ≠ some .removed
  unique : ∀ station ∈ stations.docs, ∀ other ∈ stations.docs, ∀ uid,
    station.IsFor locationID uid → other.IsFor locationID uid → station = other

/-- The EVSE of a station that has been saved for one. -/
theorem isAt_of_evses {station : RoamingStation} {evse : OCPIEvse} (evses : station.evses = [evse])
    (deleted : station.deleted = false) :
    station.IsAt locationID ↔ evse.location_id = locationID := by
  rw [RoamingStation.IsAt, evses]
  simp [deleted]

theorem isFor_of_evses {station : RoamingStation} {evse : OCPIEvse} (evses : station.evses = [evse])
    (deleted : station.deleted = false) :
    station.IsFor locationID uid ↔ evse.location_id = locationID ∧ evse.uid = uid := by
  rw [RoamingStation.IsFor, isAt_of_evses evses deleted, evses]
  simp

namespace Tidy

variable (tidy : Tidy locationID stations)
include tidy

/-- A station of the location is the one of its EVSE. -/
theorem isFor_iff {station : RoamingStation} (mem : station ∈ stations.docs)
    (at' : station.IsAt locationID) :
    ∃ evse, station.evses = [evse] ∧ evse.status ≠ some .removed ∧
      (∀ locationID', station.IsAt locationID' ↔ locationID' = locationID) ∧
      ∀ locationID' uid, station.IsFor locationID' uid ↔
        locationID' = locationID ∧ uid = evse.uid := by
  obtain ⟨evse, evses, rfl, stays⟩ := tidy.single station mem at'
  refine ⟨evse, evses, stays, fun locationID' => ?_, fun locationID' uid => ?_⟩
  · rw [isAt_of_evses evses at'.1, eq_comm]
  · rw [isFor_of_evses evses at'.1, eq_comm, @eq_comm _ uid]

/-- The station of an EVSE is found. -/
theorem found_iff (hasID : locationID ≠ "") (hasUID : uid ≠ "") {station : RoamingStation} :
    getChargingStationByOcpiLocationEvseUid locationID uid stations = some station ↔
      station ∈ stations.docs ∧ station.IsFor locationID uid := by
  refine ⟨isFor_of_found hasID hasUID, fun ⟨mem, isFor⟩ => ?_⟩
  set passes : RoamingStation → Bool := fun station => !station.deleted &&
    (uid = "" || station.evses.any fun evse => evse.uid = uid) &&
    (locationID = "" || station.evses.any fun evse => evse.location_id = locationID) with hpasses
  have spec (station : RoamingStation) : passes station ↔ station.IsFor locationID uid := by
    simp only [hpasses, hasID, hasUID, decide_false, Bool.false_or, Bool.and_eq_true,
      Bool.not_eq_true', List.any_eq_true, decide_eq_true_eq, RoamingStation.IsFor,
      RoamingStation.IsAt]
    tauto
  have only : stations.docs.filter passes = [station] := by
    have nodup := (stations.nodup.of_map).filter passes
    refine List.perm_singleton.mp ((List.perm_ext_iff_of_nodup nodup (List.nodup_singleton _)).mpr
      fun other => ?_)
    rw [List.mem_filter, spec, List.mem_singleton]
    constructor
    · rintro ⟨mem', isFor'⟩
      exact tidy.unique _ mem' _ mem _ isFor' isFor
    · rintro rfl
      exact ⟨mem, isFor⟩
  unfold getChargingStationByOcpiLocationEvseUid
  rw [only]

theorem not_found_iff (hasID : locationID ≠ "") (hasUID : uid ≠ "") :
    getChargingStationByOcpiLocationEvseUid locationID uid stations = none ↔
      ¬ IsStored locationID uid stations := by
  rw [Option.eq_none_iff_forall_ne_some]
  constructor
  · rintro none ⟨station, stored⟩
    exact none station ((tidy.found_iff hasID hasUID).mpr stored)
  · intro none station found
    exact none ⟨station, (tidy.found_iff hasID hasUID).mp found⟩

end Tidy

/-! ## What a report carries -/

theorem located_ok {site : Option Site} {siteArea : Option SiteArea} {evse : OCPIEvse}
    (h : EMSPLocationsEndpoint.located site siteArea evse = .ok call) :
    (∃ area ∈ siteArea, call.location ∈ area.location) ∧ call.evse = evse := by
  unfold EMSPLocationsEndpoint.located at h
  split at h
  · cases h
  · rename_i area
    split at h
    · cases h
    · rename_i location hlocation
      cases h
      exact ⟨⟨area, rfl, hlocation⟩, rfl⟩

/-- The location that a report is about is the one of its site area. -/
theorem locationID_of_located {siteAreas : List SiteArea} {orgMustExist : Bool}
    {organizations : Option Site × Option SiteArea} {evse : OCPIEvse}
    (horganizations : EMSPLocationsEndpoint.getOrganizationsFromLocationID siteAreas locationID
      orgMustExist = .ok organizations)
    (h : EMSPLocationsEndpoint.located organizations.1 organizations.2 evse = .ok call) :
    call.location.id = locationID ∧ call.evse = evse := by
  obtain ⟨⟨area, harea, hlocation⟩, same⟩ := located_ok h
  refine ⟨?_, same⟩
  unfold EMSPLocationsEndpoint.getOrganizationsFromLocationID at horganizations
  simp only [Outcome.refuse_bind_eq_ok, Outcome.pure_eq_ok_iff] at horganizations
  obtain ⟨-, -, -, rfl⟩ := horganizations
  have found := List.find?_some harea
  rw [Option.mem_def.mp hlocation] at found
  simpa using found

/-- The EVSE that is read is one of a station at the location. -/
theorem checkAndGetEvse_ok {siteArea : Option SiteArea} {evse : OCPIEvse}
    (hasID : locationID ≠ "") (h : checkAndGetEvse locationID uid siteArea stations = .ok evse) :
    evse.uid = uid ∧
      ∃ station ∈ stations.docs, station.IsAt locationID ∧ evse ∈ station.evses := by
  unfold checkAndGetEvse at h
  obtain ⟨-, h⟩ := Outcome.refuse_bind_eq_ok.mp h
  split at h
  · cases h
  · rename_i station found
    obtain ⟨-, h⟩ := Outcome.refuse_bind_eq_ok.mp h
    split at h
    · cases h
    · rename_i foundEvse hfound
      obtain rfl := Outcome.pure_eq_ok_iff.mp h
      obtain ⟨mem, at', -⟩ := isAt_of_found hasID found
      have same := List.find?_some hfound
      exact ⟨of_decide_eq_true same, station, mem, at', List.mem_of_find?_eq_some hfound⟩

/-- An EVSE that is read has not been removed. -/
theorem Tidy.stays {siteArea : Option SiteArea} {evse : OCPIEvse}
    (tidy : Tidy locationID stations) (hasID : locationID ≠ "")
    (h : checkAndGetEvse locationID uid siteArea stations = .ok evse) :
    evse.status ≠ some .removed := by
  obtain ⟨-, station, mem, at', hevse⟩ := checkAndGetEvse_ok hasID h
  obtain ⟨only, evses, -, stays⟩ := tidy.single station mem at'
  rw [evses, List.mem_singleton] at hevse
  rwa [hevse]

/-- **What a report is processed as**: the EVSE and the location it is about; and if no EVSE of
the location is stored as removed, the EVSE is processed as removed just when the report carries
that status. -/
theorem EvseRequest.processed_ok {request : EvseRequest} (hasID : request.locationID ≠ "")
    (h : request.processed stations = .ok call) :
    call.location.id = request.locationID ∧ call.evse.uid = request.uid ∧
      (Tidy request.locationID stations →
        (call.evse.status = some .removed ↔ request.removes = true)) := by
  cases request with
  | inLocation location site siteArea evse =>
      cases h
      exact ⟨rfl, rfl, fun _ => decide_eq_true_iff.symm⟩
  | putEvse siteAreas locationID evseUID evse =>
      obtain ⟨organizations, horganizations, h⟩ := Outcome.bind_eq_ok.mp h
      obtain ⟨-, h⟩ := Outcome.refuse_bind_eq_ok.mp h
      obtain ⟨-, h⟩ := Outcome.refuse_bind_eq_ok.mp h
      obtain ⟨same, rfl⟩ := locationID_of_located horganizations h
      exact ⟨same, rfl, fun _ => decide_eq_true_iff.symm⟩
  | putEvseConnector siteAreas locationID evseUID evseConnectorID evseConnector =>
      obtain ⟨organizations, horganizations, h⟩ := Outcome.bind_eq_ok.mp h
      obtain ⟨-, h⟩ := Outcome.refuse_bind_eq_ok.mp h
      obtain ⟨evse, hevse, h⟩ := Outcome.bind_eq_ok.mp h
      obtain ⟨-, h⟩ := Outcome.refuse_bind_eq_ok.mp h
      obtain ⟨same, hcall⟩ := locationID_of_located horganizations h
      rw [hcall]
      refine ⟨same, (checkAndGetEvse_ok hasID hevse).1, fun tidy => ?_⟩
      have stays : evse.status ≠ some .removed := tidy.stays hasID hevse
      exact iff_of_false stays Bool.false_ne_true
  | patchEvse siteAreas locationID evseUID evse =>
      obtain ⟨organizations, horganizations, h⟩ := Outcome.bind_eq_ok.mp h
      obtain ⟨foundEvse, hevse, h⟩ := Outcome.bind_eq_ok.mp h
      obtain ⟨same, hcall⟩ := locationID_of_located horganizations h
      rw [hcall]
      refine ⟨same, ?_, fun tidy => ?_⟩
      · show evse.uid.getD foundEvse.uid = evse.uid.getD evseUID
        rw [(checkAndGetEvse_ok hasID hevse).1]
      · have stays := tidy.stays hasID hevse
        show evse.status.getD foundEvse.status = _ ↔ decide (evse.status = some (some .removed)) = _
        cases hstatus : evse.status <;> simp [stays]
  | patchEvseConnector siteAreas locationID evseUID evseConnectorID evseConnector =>
      obtain ⟨organizations, horganizations, h⟩ := Outcome.bind_eq_ok.mp h
      obtain ⟨evse, hevse, h⟩ := Outcome.bind_eq_ok.mp h
      obtain ⟨-, h⟩ := Outcome.refuse_bind_eq_ok.mp h
      obtain ⟨-, h⟩ := Outcome.refuse_bind_eq_ok.mp h
      obtain ⟨same, hcall⟩ := locationID_of_located horganizations h
      rw [hcall]
      refine ⟨same, (checkAndGetEvse_ok hasID hevse).1, fun tidy => ?_⟩
      have stays : evse.status ≠ some .removed := tidy.stays hasID hevse
      exact iff_of_false stays Bool.false_ne_true

/-! ## What a report leaves -/

/-- A station that is created takes the place of no station of the location. -/
def TakesNoPlace (locationID : String) (call : Processed) (stations : Stations) : Prop :=
  Creates call stations →
    ∀ station ∈ stations.docs, station.IsAt locationID → station.id ≠ call.evse.evse_id

/-- **The stations of a location after a report**: those that are not for its EVSE, and the one
that is saved, unless the EVSE has been removed and had a station. -/
theorem Processing.exists_saved (processing : Processing call stations stations')
    (tidy : Tidy locationID stations) (hasID : call.location.id ≠ "") (hasUID : call.evse.uid ≠ "")
    (takes : TakesNoPlace locationID call stations) :
    ∃ saved : Option RoamingStation,
      (∀ station ∈ saved, station.deleted = false ∧
        station.evses = [{ call.evse with location_id := call.location.id }]) ∧
      (saved = none ↔ call.evse.status = some .removed ∧ ¬ Creates call stations) ∧
      ∀ station, station.IsAt locationID → (station ∈ stations'.docs ↔ station ∈ saved ∨
        station ∈ stations.docs ∧ ¬ station.IsFor call.location.id call.evse.uid) := by
  have other {current station : RoamingStation}
      (found : getChargingStationByOcpiLocationEvseUid call.location.id call.evse.uid stations =
        some current) (mem : station ∈ stations.docs) (at' : station.IsAt locationID) :
      station.id ≠ current.id ↔ ¬ station.IsFor call.location.id call.evse.uid := by
    obtain ⟨mem', isFor'⟩ := isFor_of_found hasID hasUID found
    refine not_congr ⟨?_, fun isFor => ?_⟩
    · intro same
      rwa [Collection.eq_of_key_eq mem mem' same]
    · obtain ⟨_, -, -, -, only⟩ := tidy.isFor_iff mem at'
      obtain ⟨same, -⟩ := (only _ _).mp isFor
      rw [same] at isFor isFor'
      rw [tidy.unique _ mem _ mem' _ isFor isFor']
  cases processing with
  | deletes current found removed eq =>
      subst eq
      refine ⟨none, nofun, iff_of_true rfl ⟨removed, fun new => ?_⟩, fun station at' => ?_⟩
      · rw [new.notFound] at found
        cases found
      · rw [Collection.mem_delete]
        simp only [Option.not_mem_none, false_or]
        exact and_congr_right fun mem => other found mem at'
  | updates current station found stays id deleted evses eq =>
      subst eq
      refine ⟨some station, ?_, iff_of_false nofun fun removed => stays removed.1,
        fun station' at' => ?_⟩
      · intro _ same
        cases same
        exact ⟨deleted.trans (isFor_of_found hasID hasUID found).2.1.1, evses⟩
      · rw [Collection.mem_save_iff, id, Option.mem_some_iff, eq_comm]
        exact or_congr_right (and_congr_right fun mem => other found mem at')
  | creates station new id deleted evses eq =>
      subst eq
      refine ⟨some station, ?_, iff_of_false nofun fun removed => removed.2 new,
        fun station' at' => ?_⟩
      · intro _ same
        cases same
        exact ⟨deleted, evses⟩
      · rw [Collection.mem_save_iff, id, Option.mem_some_iff, eq_comm]
        refine or_congr_right (and_congr_right fun mem => iff_of_true (takes new _ mem at') ?_)
        intro isFor
        obtain ⟨_, -, -, -, only⟩ := tidy.isFor_iff mem at'
        obtain ⟨same, -⟩ := (only _ _).mp isFor
        have notFound := new.notFound
        rw [same] at notFound isFor hasID
        exact (tidy.not_found_iff hasID hasUID).mp notFound ⟨_, mem, isFor⟩

/-- A report keeps the stations of a location tidy, unless it creates one that is removed. -/
theorem Processing.tidy (processing : Processing call stations stations')
    (tidy : Tidy locationID stations) (hasID : call.location.id ≠ "") (hasUID : call.evse.uid ≠ "")
    (takes : TakesNoPlace locationID call stations)
    (stays : Creates call stations → call.location.id = locationID →
      call.evse.status ≠ some .removed) : Tidy locationID stations' := by
  obtain ⟨saved, hsaved, none, mem_iff⟩ := processing.exists_saved tidy hasID hasUID takes
  have savedFor {station : RoamingStation} (mem : station ∈ saved) (uid : String) :
      station.IsFor locationID uid ↔ call.location.id = locationID ∧ call.evse.uid = uid :=
    isFor_of_evses (hsaved station mem).2 (hsaved station mem).1
  have keptFor {station : RoamingStation} {uid : String} (isFor : station.IsFor locationID uid)
      (kept : ¬ station.IsFor call.location.id call.evse.uid) :
      ¬ (call.location.id = locationID ∧ call.evse.uid = uid) := by
    rintro ⟨rfl, rfl⟩
    exact kept isFor
  constructor
  · intro station mem at'
    rcases (mem_iff station at').mp mem with new | ⟨old, -⟩
    · obtain ⟨deleted, evses⟩ := hsaved station new
      refine ⟨_, evses, (isAt_of_evses evses deleted).mp at', fun removed => ?_⟩
      have some : saved ≠ Option.none := Option.ne_none_iff_exists'.mpr ⟨station, new⟩
      have creates : Creates call stations := by
        by_contra notNew
        exact some (none.mpr ⟨removed, notNew⟩)
      exact stays creates ((isAt_of_evses evses deleted).mp at') removed
    · exact tidy.single station old at'
  · intro station mem station' mem' uid isFor isFor'
    rcases (mem_iff station isFor.1).mp mem with new | ⟨old, kept⟩ <;>
      rcases (mem_iff station' isFor'.1).mp mem' with new' | ⟨old', kept'⟩
    · exact Option.mem_unique new new'
    · exact absurd ((savedFor new uid).mp isFor) (keptFor isFor' kept')
    · exact absurd ((savedFor new' uid).mp isFor') (keptFor isFor kept)
    · exact tidy.unique _ old _ old' uid isFor isFor'

/-- The EVSEs of a location that have a station after a report. -/
theorem Processing.isStored_iff (processing : Processing call stations stations')
    (tidy : Tidy locationID stations) (hasID : call.location.id ≠ "") (hasUID : call.evse.uid ≠ "")
    (takes : TakesNoPlace locationID call stations) (uid : String) :
    IsStored locationID uid stations' ↔
      if call.location.id = locationID ∧ call.evse.uid = uid then
        ¬ (call.evse.status = some .removed ∧ ¬ Creates call stations)
      else IsStored locationID uid stations := by
  obtain ⟨saved, hsaved, none, mem_iff⟩ := processing.exists_saved tidy hasID hasUID takes
  have after : IsStored locationID uid stations' ↔
      (∃ station ∈ saved, call.location.id = locationID ∧ call.evse.uid = uid) ∨
        ∃ station ∈ stations.docs, ¬ station.IsFor call.location.id call.evse.uid ∧
          station.IsFor locationID uid := by
    constructor
    · rintro ⟨station, mem, isFor⟩
      rcases (mem_iff station isFor.1).mp mem with new | ⟨old, kept⟩
      · exact .inl ⟨station, new,
          (isFor_of_evses (hsaved station new).2 (hsaved station new).1).mp isFor⟩
      · exact .inr ⟨station, old, kept, isFor⟩
    · rintro (⟨station, new, same⟩ | ⟨station, old, kept, isFor⟩)
      · have isFor := (isFor_of_evses (hsaved station new).2 (hsaved station new).1).mpr same
        exact ⟨station, (mem_iff station isFor.1).mpr (.inl new), isFor⟩
      · exact ⟨station, (mem_iff station isFor.1).mpr (.inr ⟨old, kept⟩), isFor⟩
  rw [after, ← none]
  split
  · rename_i same
    obtain ⟨rfl, rfl⟩ := same
    constructor
    · rintro (⟨station, new, -⟩ | ⟨station, -, kept, isFor⟩)
      · exact Option.ne_none_iff_exists'.mpr ⟨station, new⟩
      · exact absurd isFor kept
    · intro some
      obtain ⟨station, new⟩ := Option.ne_none_iff_exists'.mp some
      exact .inl ⟨station, new, rfl, rfl⟩
  · rename_i other
    constructor
    · rintro (⟨_, _, same⟩ | ⟨station, old, -, isFor⟩)
      · exact absurd same other
      · exact ⟨station, old, isFor⟩
    · rintro ⟨station, old, isFor⟩
      refine .inr ⟨station, old, fun isFor' => ?_, isFor⟩
      obtain ⟨evse, -, -, -, only⟩ := tidy.isFor_iff old isFor.1
      obtain ⟨same, uid'⟩ := (only _ _).mp isFor'
      exact other ⟨same, uid'.trans ((only _ _).mp isFor).2.symm⟩

/-! ## Runs of reports -/

theorem lastReceived_append (received : List Update) (update : Update) (locationID uid : String) :
    lastReceived (received ++ [update]) locationID uid =
      if update.locationID = locationID ∧ update.uid = uid then some update
      else lastReceived received locationID uid := by
  rw [lastReceived, List.filter_append, List.filter_singleton]
  split
  · rename_i same
    rw [decide_eq_true same, cond_true, List.getLast?_append]
    rfl
  · rename_i other
    rw [decide_eq_false other, cond_false, List.append_nil]
    rfl

namespace Feed

/-- **The stations of a location are those that have been reported**: an EVSE has one just when
the last report about it did not carry the status `REMOVED`. -/
def StoredAsReceived (locationID : String) (feed : Feed) : Prop :=
  ∀ uid, IsStored locationID uid feed.stations ↔
    ∃ update, lastReceived feed.received locationID uid = some update ∧ update.removed = false

/-- The condition on a report: if it creates a station, it does not carry the status `REMOVED`,
and the station does not take the place of one of the location. -/
def Keeps (locationID : String) (feed : Feed) (request : EvseRequest) : Prop :=
  ∀ call, request.processed feed.stations = .ok call → Creates call feed.stations →
    (request.locationID = locationID → request.removes = false) ∧
      ∀ station ∈ feed.stations.docs, station.IsAt locationID → station.id ≠ call.evse.evse_id

variable {feed next feed' : Feed} {request : EvseRequest} {requests : List EvseRequest}

/-- A report that is accepted has been processed. -/
theorem accepted_of_run (hasID : request.locationID ≠ "")
    (h : request.run stations = .ok stations') :
    ∃ call, request.processed stations = .ok call ∧ call.location.id ≠ "" ∧
      call.evse.uid ≠ "" ∧ Processing call stations stations' := by
  obtain ⟨call, hcall, h⟩ := Outcome.bind_eq_ok.mp h
  obtain ⟨hasUID, processing⟩ := processing_of_ok h
  obtain ⟨same, -, -⟩ := EvseRequest.processed_ok hasID hcall
  exact ⟨call, hcall, same ▸ hasID, hasUID, processing⟩

/-- A station that takes the place of one of the location leaves an EVSE without. -/
theorem takesNoPlace_of_storedAsReceived {call : Processed}
    (hasID : call.location.id ≠ "") (hasUID : call.evse.uid ≠ "")
    (tidy : Tidy locationID feed.stations) (stored : feed.StoredAsReceived locationID)
    (processing : Processing call feed.stations stations') {update : Update}
    (about : update.locationID = call.location.id ∧ update.uid = call.evse.uid)
    (stored' : (Feed.mk stations' (feed.received ++ [update])).StoredAsReceived locationID) :
    TakesNoPlace locationID call feed.stations := by
  intro new station mem at' taken
  obtain ⟨evse, -, -, -, only⟩ := tidy.isFor_iff mem at'
  have isFor : station.IsFor locationID evse.uid := (only _ _).mpr ⟨rfl, rfl⟩
  have other : ¬ (update.locationID = locationID ∧ update.uid = evse.uid) := by
    rintro ⟨same, uid⟩
    have notFound := new.notFound
    rw [← about.1, ← about.2, same, uid] at notFound
    rw [← about.2, uid] at hasUID
    rw [← about.1, same] at hasID
    exact (tidy.not_found_iff hasID hasUID).mp notFound ⟨station, mem, isFor⟩
  have last := (stored evse.uid).mp ⟨station, mem, isFor⟩
  have last' := lastReceived_append feed.received update locationID evse.uid
  rw [if_neg other] at last'
  rw [← last'] at last
  obtain ⟨kept, memKept, isForKept⟩ := (stored' evse.uid).mpr last
  cases processing with
  | deletes current found _ _ =>
      rw [new.notFound] at found
      cases found
  | updates current _ found _ _ _ _ _ =>
      rw [new.notFound] at found
      cases found
  | creates created _ id deleted evses eq =>
      subst eq
      rcases Collection.mem_save_iff.mp memKept with rfl | ⟨old, different⟩
      · obtain ⟨same, uid⟩ := (isFor_of_evses evses deleted).mp isForKept
        exact other ⟨about.1.trans same, about.2.trans uid⟩
      · rw [tidy.unique _ old _ mem _ isForKept isFor, taken, id] at different
        exact different rfl

/-- **What one report does.** -/
theorem storedAsReceived_iff_of_step (tidy : Tidy locationID feed.stations)
    (stored : feed.StoredAsReceived locationID) (step : Step feed request next) :
    (next.StoredAsReceived locationID ↔ feed.Keeps locationID request) ∧
      (feed.Keeps locationID request → Tidy locationID next.stations) := by
  obtain ⟨hasID, rfl⟩ := step
  unfold receive
  split
  · rename_i stations' hrun
    obtain ⟨call, hcall, hasID', hasUID, processing⟩ := accepted_of_run hasID hrun
    obtain ⟨location, uid, removed⟩ := EvseRequest.processed_ok hasID hcall
    have keeps_iff : feed.Keeps locationID request ↔
        TakesNoPlace locationID call feed.stations ∧
          (Creates call feed.stations → request.locationID = locationID →
            request.removes = false) := by
      constructor
      · exact fun keeps =>
          ⟨fun new => (keeps call hcall new).2, fun new => (keeps call hcall new).1⟩
      · rintro ⟨takes, stays⟩ call' hcall' new
        rw [hcall] at hcall'
        cases hcall'
        exact ⟨stays new, takes new⟩
    have takes_iff (takes : TakesNoPlace locationID call feed.stations) :
        (Feed.mk stations' (feed.received ++
            [⟨request.locationID, request.uid, request.removes⟩])).StoredAsReceived locationID ↔
          (Creates call feed.stations → request.locationID = locationID →
            request.removes = false) := by
      have after := processing.isStored_iff tidy hasID' hasUID takes
      rw [location, uid] at after
      have each (uid' : String) : (IsStored locationID uid' stations' ↔
          ∃ update, lastReceived (feed.received ++
            [⟨request.locationID, request.uid, request.removes⟩]) locationID uid' = some update ∧
              update.removed = false) ↔
          (request.locationID = locationID ∧ request.uid = uid' →
            Creates call feed.stations → request.removes = false) := by
        rw [after, lastReceived_append]
        by_cases same : request.locationID = locationID ∧ request.uid = uid'
        · obtain ⟨rfl, rfl⟩ := same
          rw [removed tidy]
          by_cases new : Creates call feed.stations <;> simp [new]
        · simp only [same, if_false, false_implies, iff_true]
          exact stored uid'
      constructor
      · intro stored' new same
        exact (each request.uid).mp (stored' request.uid) ⟨same, rfl⟩ new
      · intro stays uid'
        exact (each uid').mpr fun same new => stays new same.1
    rw [keeps_iff]
    constructor
    · constructor
      · intro stored'
        have takes := takesNoPlace_of_storedAsReceived hasID' hasUID tidy stored processing
          ⟨location.symm, uid.symm⟩ stored'
        exact ⟨takes, (takes_iff takes).mp stored'⟩
      · exact fun keeps => (takes_iff keeps.1).mpr keeps.2
    · rintro ⟨takes, stays⟩
      refine processing.tidy tidy hasID' hasUID takes fun new same isRemoved => ?_
      rw [location] at same
      subst same
      rw [removed tidy, stays new rfl] at isRemoved
      cases isRemoved
  · rename_i refused
    refine ⟨iff_of_true stored ?_, fun _ => tidy⟩
    intro call hcall new
    obtain ⟨stations', h⟩ := new.exists_ok
    have accepted : request.run feed.stations = .ok stations' :=
      Outcome.bind_eq_ok.mpr ⟨call, hcall, h⟩
    rw [refused] at accepted
    cases accepted

/-- A location in Paris. -/
def exampleLocation : OCPILocation := { id := "LOC1", name := "Paris" }

/-- An EVSE of the location, with a connector of 7.36 kW. -/
def exampleEvse (status : OCPIEvseStatus) : OCPIEvse :=
  { uid := "3256", evse_id := "FR*OPE*E1", status := some status
    connectors := [⟨"1", .iec62196T2, 32, 230⟩] }

/-- The EVSE in a location that is pulled. -/
def examplePulled (status : OCPIEvseStatus) : EvseRequest :=
  .inLocation exampleLocation ⟨"site", "company"⟩ { id := "area" } (exampleEvse status)

/-- No station, and no report yet. -/
def exampleFeed : Feed := { stations := .empty }

end Feed

end EvServer.EmspLocations
