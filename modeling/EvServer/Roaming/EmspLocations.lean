import EvServer.ChargingStation
import EvServer.Lib.Documents
import EvServer.Lib.Outcome

/-!
# Locations at the eMSP

The operator of a location reports its EVSEs, and the eMSP keeps a charging station for each of
them.  A report is a whole location that is put or pulled, one EVSE or one connector that is put,
or some properties of one that are patched.  Whatever it is, it ends in
`processEMSPLocationChargingStation` with the EVSE as it is then.

A text that is not set is empty.  The site area of a location is created or read before the
EVSEs are processed; what is stored then is given with the request.  Of a location, the position
and the address are left out.
-/

namespace EvServer.EmspLocations

/-! ## Records -/

/-- `OCPIEvseStatus`. -/
inductive OCPIEvseStatus
  | available
  | blocked
  | charging
  | inoperative
  | outOfOrder
  | planned
  | removed
  | reserved
  | unknown
  deriving DecidableEq, Repr

/-- `OCPIConnectorType`; the letter of a domestic socket and the size of an industrial one are
kept with the type. -/
inductive OCPIConnectorType
  | chademo
  | domestic (letter : Char)
  | iec60309 (size : String)
  | iec62196T1
  | iec62196T1Combo
  | iec62196T2
  | iec62196T2Combo
  | iec62196T3
  | iec62196T3A
  | teslaR
  | teslaS
  deriving DecidableEq, Repr

/-- `ConnectorType`. -/
inductive ConnectorType
  | type2
  | comboCcs
  | chademo
  | type1
  | type3C
  | type1Ccs
  | domestic
  | unknown
  deriving DecidableEq, Repr

/-- `OCPIConnector`. -/
structure OCPIConnector where
  id : String
  standard : OCPIConnectorType
  amperage : ℚ
  voltage : ℚ
  deriving DecidableEq, Repr

/-- `OCPIEvse`; a list of connectors that is not set is empty. -/
structure OCPIEvse where
  uid : String := ""
  evse_id : String := ""
  status : Option OCPIEvseStatus := none
  connectors : List OCPIConnector := []
  location_id : String := ""
  deriving DecidableEq, Repr

/-- The body of a `PATCH` request for an EVSE: the properties that it has. -/
structure OCPIEvsePatch where
  uid : Option String := none
  evse_id : Option String := none
  status : Option (Option OCPIEvseStatus) := none
  connectors : Option (List OCPIConnector) := none
  location_id : Option String := none
  deriving DecidableEq, Repr

/-- The body of a `PATCH` request for a connector. -/
structure OCPIConnectorPatch where
  id : Option String := none
  standard : Option OCPIConnectorType := none
  amperage : Option ℚ := none
  voltage : Option ℚ := none
  deriving DecidableEq, Repr

/-- `OCPILocation`. -/
structure OCPILocation where
  id : String
  name : String := ""
  /-- `operator?.name`. -/
  operatorName : Option String := none
  evses : List OCPIEvse := []
  deriving DecidableEq, Repr

/-- `Site`. -/
structure Site where
  id : String
  companyID : String
  deriving DecidableEq, Repr

/-- `SiteArea`, with its `site` and the `ocpiData.location`. -/
structure SiteArea where
  id : String
  site : Option Site := none
  location : Option OCPILocation := none
  deriving DecidableEq, Repr

/-- The connector of a charging station that has been converted from an EVSE. -/
structure RoamingConnector where
  id : String
  status : ChargePointStatus
  amperage : ℚ
  voltage : ℚ
  connectorId : ℕ
  currentInstantWatts : ℚ
  power : ℚ
  type : ConnectorType
  deriving DecidableEq, Repr

/-- `ChargingStation`, with its `ocpiData.evses`. -/
structure RoamingStation where
  id : String
  maximumPower : ℚ := 0
  issuer : Bool := false
  deleted : Bool := false
  connectors : List RoamingConnector := []
  companyID : String := ""
  siteID : String := ""
  siteAreaID : String := ""
  evses : List OCPIEvse := []
  deriving DecidableEq, Repr

/-- The charging stations of the tenant. -/
abbrev Stations := Collection RoamingStation.id

/-- `getChargingStationByOcpiLocationEvseUid`: the station, if there is one only. -/
def getChargingStationByOcpiLocationEvseUid (ocpiLocationID ocpiEvseUid : String)
    (stations : Stations) : Option RoamingStation :=
  match stations.docs.filter fun station => !station.deleted &&
      (ocpiEvseUid = "" || station.evses.any fun evse => evse.uid = ocpiEvseUid) &&
      (ocpiLocationID = "" || station.evses.any fun evse => evse.location_id = ocpiLocationID) with
  | [station] => some station
  | _ => none

namespace OCPIUtils

/-! ## The charging station of an EVSE -/

/-- `convertOCPIConnectorType2ConnectorType`. -/
def convertOCPIConnectorType2ConnectorType : OCPIConnectorType → ConnectorType
  | .chademo => .chademo
  | .iec62196T2 => .type2
  | .iec62196T2Combo => .comboCcs
  | .iec62196T3 | .iec62196T3A => .type3C
  | .iec62196T1 => .type1
  | .iec62196T1Combo => .type1Ccs
  | .domestic _ => .domestic
  | .iec60309 _ | .teslaR | .teslaS => .unknown

/-- `convertOCPIStatus2Status`. -/
def convertOCPIStatus2Status : Option OCPIEvseStatus → ChargePointStatus
  | some .available => .available
  | some .blocked => .occupied
  | some .charging => .charging
  | some .inoperative | some .outOfOrder => .faulted
  | some .planned | some .reserved => .reserved
  | some .removed | some .unknown | none => .unavailable

/-- `convertEvseToChargingStationConnector`. -/
def convertEvseToChargingStationConnector (evse : OCPIEvse) (evseConnector : OCPIConnector)
    (connectorID : ℕ) : RoamingConnector where
  id := evseConnector.id
  status := convertOCPIStatus2Status evse.status
  amperage := evseConnector.amperage
  voltage := evseConnector.voltage
  connectorId := connectorID
  currentInstantWatts := 0
  power := evseConnector.amperage * evseConnector.voltage
  type := convertOCPIConnectorType2ConnectorType evseConnector.standard

/-- `convertEvseToChargingStation`. -/
def convertEvseToChargingStation (chargingStation : Option RoamingStation) (evse : OCPIEvse)
    (location : OCPILocation) (site : Option Site) (siteArea : SiteArea) :
    Except String RoamingStation := do
  Outcome.refuse (evse.evse_id = "") "Cannot find Charging Station EVSE ID"
  let connectors := evse.connectors.mapIdx fun index evseConnector =>
    convertEvseToChargingStationConnector evse evseConnector (index + 1)
  let maximumPower := connectors.foldl (fun maximumPower connector =>
    max maximumPower connector.power) 0
  let evses := [{ evse with location_id := location.id }]
  match chargingStation with
  | some chargingStation =>
      return { chargingStation with
        maximumPower := maximumPower
        connectors := connectors
        evses := evses }
  | none =>
      match site with
      | none => throw "TypeError: Cannot read properties of undefined (reading 'companyID')"
      | some site =>
          return {
            id := evse.evse_id
            maximumPower := maximumPower
            issuer := false
            connectors := connectors
            companyID := site.companyID
            siteID := site.id
            siteAreaID := siteArea.id
            evses := evses }

/-- `processEMSPLocationChargingStation`. -/
def processEMSPLocationChargingStation (location : OCPILocation) (site : Option Site)
    (siteArea : SiteArea) (evse : OCPIEvse) (stations : Stations) : Except String Stations := do
  Outcome.refuse (evse.uid = "")
    s!"Missing Charging Station EVSE UID in Location '{location.name}' with ID '{location.id}'"
  let currentChargingStation :=
    getChargingStationByOcpiLocationEvseUid location.id evse.uid stations
  match currentChargingStation.filter fun _ => evse.status = some .removed with
  | some currentChargingStation => return stations.delete currentChargingStation.id
  | none =>
      let chargingStation ←
        convertEvseToChargingStation currentChargingStation evse location site siteArea
      return stations.save chargingStation

/-- `processEMSPLocationChargingStations`; an error of one EVSE is logged. -/
def processEMSPLocationChargingStations (location : OCPILocation) (site : Site)
    (siteArea : SiteArea) (evses : List OCPIEvse) (stations : Stations) : Stations :=
  evses.foldl (fun stations evse =>
    match processEMSPLocationChargingStation location (some site) siteArea evse stations with
    | .ok stations => stations
    | .error _ => stations) stations

end OCPIUtils

/-! ## What is put and patched -/

namespace EMSPLocationsEndpoint

/-- The arguments of `processEMSPLocationChargingStation`, the last call of each of the
functions that handle one EVSE. -/
structure Processed where
  location : OCPILocation
  site : Option Site
  siteArea : SiteArea
  evse : OCPIEvse
  deriving DecidableEq, Repr

/-- `getOrganizationsFromLocationID`. -/
def getOrganizationsFromLocationID (siteAreas : List SiteArea) (locationID : String)
    (orgMustExist : Bool) : Except String (Option Site × Option SiteArea) := do
  let siteArea := siteAreas.find? fun siteArea =>
    siteArea.location.any fun location => location.id = locationID
  Outcome.refuse (orgMustExist && siteArea.isNone)
    s!"Site Area does not exist for Location ID '{locationID}'"
  Outcome.refuse
    (orgMustExist && (siteArea.bind SiteArea.location).all fun location => location.id = "")
    "Site Area does not have an OCPI Location"
  Outcome.refuse (orgMustExist && (siteArea.bind SiteArea.site).isNone)
    s!"Site Area does not have a Site for Location ID '{locationID}'"
  return (siteArea.bind SiteArea.site, siteArea)

/-- `checkAndGetEvse`. -/
def checkAndGetEvse (locationID evseUID : String) (siteArea : Option SiteArea)
    (stations : Stations) : Except String OCPIEvse := do
  Outcome.refuse (siteArea.bind SiteArea.location).isNone
    s!"Site Area with Location ID'{locationID}' does not exists"
  match getChargingStationByOcpiLocationEvseUid locationID evseUID stations with
  | none =>
      throw s!"Charging Station with EVSE ID '{evseUID}' and Location ID '{locationID}' does not exist"
  | some chargingStation =>
      Outcome.refuse chargingStation.evses.isEmpty "Charging Station does not have an OCPI EVSE"
      match chargingStation.evses.find? fun evse => evse.uid = evseUID with
      | none => throw s!"Charging Station has no EVSE with ID '{evseUID}'"
      | some foundEvse => return foundEvse

/-- The location of the site area; that it is there has been checked before. -/
def located (site : Option Site) (siteArea : Option SiteArea) (evse : OCPIEvse) :
    Except String Processed :=
  match siteArea with
  | none => throw "TypeError: Cannot read properties of null (reading 'ocpiData')"
  | some siteArea =>
      match siteArea.location with
      | none => throw "TypeError: Cannot read properties of undefined (reading 'location')"
      | some location => return ⟨location, site, siteArea, evse⟩

/-- `putLocation`: the site and the site area are those that are created or updated for the
location. -/
def putLocation (locationID : String) (location : OCPILocation) (site : Site)
    (siteArea : SiteArea) (stations : Stations) : Except String Stations := do
  Outcome.refuse (location.id ≠ locationID) s!"Location ID '{locationID}' mismatch in URL"
  return OCPIUtils.processEMSPLocationChargingStations location site siteArea location.evses stations

/-- `putEvse`. -/
def putEvse (siteAreas : List SiteArea) (locationID evseUID : String) (evse : OCPIEvse) :
    Except String Processed := do
  let organizations ← getOrganizationsFromLocationID siteAreas locationID false
  Outcome.refuse (evse.uid ≠ evseUID)
    s!"EVSE ID '{evseUID}' mismatch in URL for Location ID '{locationID}'"
  Outcome.refuse (organizations.2.bind SiteArea.location).isNone
    s!"Site Area does not exists for Location ID'{locationID}' and EVSE ID '{evseUID}'"
  located organizations.1 organizations.2 evse

/-- `putEvseConnector`. -/
def putEvseConnector (siteAreas : List SiteArea) (locationID evseUID evseConnectorID : String)
    (evseConnector : OCPIConnector) (stations : Stations) : Except String Processed := do
  let organizations ← getOrganizationsFromLocationID siteAreas locationID false
  Outcome.refuse (evseConnector.id ≠ evseConnectorID)
    s!"EVSE Connector ID '{evseConnectorID}' mismatch in URL for Location ID '{locationID}' and EVSE ID '{evseUID}'"
  let evse ← checkAndGetEvse locationID evseUID organizations.2 stations
  Outcome.refuse evse.connectors.isEmpty
    "Charging Station does not have an OCPI EVSE Connector"
  let connectors := evse.connectors.filter fun connector => connector.id ≠ evseConnectorID
  located organizations.1 organizations.2
    { evse with connectors := connectors ++ [evseConnector] }

/-- `{ ...foundEvse, ...evse }`. -/
def patched (foundEvse : OCPIEvse) (evse : OCPIEvsePatch) : OCPIEvse where
  uid := evse.uid.getD foundEvse.uid
  evse_id := evse.evse_id.getD foundEvse.evse_id
  status := evse.status.getD foundEvse.status
  connectors := evse.connectors.getD foundEvse.connectors
  location_id := evse.location_id.getD foundEvse.location_id

/-- `patchEvse`. -/
def patchEvse (siteAreas : List SiteArea) (locationID evseUID : String) (evse : OCPIEvsePatch)
    (stations : Stations) : Except String Processed := do
  let organizations ← getOrganizationsFromLocationID siteAreas locationID true
  let foundEvse ← checkAndGetEvse locationID evseUID organizations.2 stations
  located organizations.1 organizations.2 (patched foundEvse evse)

/-- `_.merge` of a connector and the body of a request. -/
def mergeConnector (connector : OCPIConnector) (evseConnector : OCPIConnectorPatch) :
    OCPIConnector where
  id := evseConnector.id.getD connector.id
  standard := evseConnector.standard.getD connector.standard
  amperage := evseConnector.amperage.getD connector.amperage
  voltage := evseConnector.voltage.getD connector.voltage

/-- `patchEvseConnector`. -/
def patchEvseConnector (siteAreas : List SiteArea) (locationID evseUID evseConnectorID : String)
    (evseConnector : OCPIConnectorPatch) (stations : Stations) : Except String Processed := do
  let organizations ← getOrganizationsFromLocationID siteAreas locationID true
  let evse ← checkAndGetEvse locationID evseUID organizations.2 stations
  Outcome.refuse evse.connectors.isEmpty
    "Charging Station does not have an OCPI EVSE Connector"
  Outcome.refuse (!evse.connectors.any fun connector => connector.id = evseConnectorID)
    s!"Charging Station has no EVSE Connector with ID '{locationID}'"
  let connectors := evse.connectors.replaceF fun connector =>
    if connector.id = evseConnectorID then some (mergeConnector connector evseConnector) else none
  located organizations.1 organizations.2 { evse with connectors := connectors }

end EMSPLocationsEndpoint

/-! ## What is pulled -/

namespace EmspOCPIClient

/-- A location of a page, with the site and the site area that are created or updated for it. -/
structure Pulled where
  location : OCPILocation
  site : Site
  siteArea : SiteArea
  deriving DecidableEq, Repr

/-- What `pullLocations` counts, and the stations. -/
structure PullResult where
  success : ℕ := 0
  failure : ℕ := 0
  stations : Stations

/-- One location of a page. -/
def pullLocation (pulled : Pulled) (stations : Stations) : Except String Stations := do
  Outcome.refuse pulled.location.operatorName.isNone
    "TypeError: Cannot read properties of undefined (reading 'name')"
  return OCPIUtils.processEMSPLocationChargingStations pulled.location pulled.site pulled.siteArea
    pulled.location.evses stations

/-- The next location; when it cannot be updated, it counts as a failure. -/
def pullNext (result : PullResult) (pulled : Pulled) : PullResult :=
  match pullLocation pulled result.stations with
  | .ok stations => { result with success := result.success + 1, stations := stations }
  | .error _ => { result with failure := result.failure + 1 }

/-- `pullLocations`: page after page, location after location. -/
def pullLocations (pages : List (List Pulled)) (stations : Stations) : PullResult :=
  pages.flatten.foldl pullNext { stations := stations }

end EmspOCPIClient

end EvServer.EmspLocations
