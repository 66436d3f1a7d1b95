import EvServer.Lib.Paging
import EvServer.Roaming.EvseUids

/-!
# What is pushed to the OICP hub (`CpoOICPClient`, `OICPUtils`)

The client goes through the public sites and the public charging stations of each, page by
page, and pushes what it has converted from a page.  A push is answered with an
acknowledgment, or it fails.
-/

namespace EvServer

/-- `Constants.DB_RECORD_COUNT_DEFAULT`. -/
def Constants.dbRecordCountDefault : ℕ := 100

namespace OICP

/-- A charging station with what its conversion reads besides. -/
structure Station extends ChargingStation where
  issuer : Bool
  isPublic : Bool
  inactive : Bool := false
  deriving DecidableEq, Repr

/-- A site with its charging stations, in the order they are read. -/
structure Site where
  id : String
  isPublic : Bool
  chargingStations : List Station
  deriving DecidableEq, Repr

/-- `getSites` and `getChargingStations` with `public: true`, page by page: the site and the
stations of each page. -/
def stationPages (sites : List Site) : List (Site × List Station) :=
  (Paging.pages Constants.dbRecordCountDefault (sites.filter Site.isPublic)).flatMap fun sites =>
    sites.flatMap fun site =>
      (Paging.pages Constants.dbRecordCountDefault
        (site.chargingStations.filter Station.isPublic)).map fun stations => (site, stations)

/-- A public station of a public site is on a page of the site. -/
theorem exists_page {sites : List Site} {site : Site} {station : Station} (mem : site ∈ sites)
    (isPublic : site.isPublic) (mem' : station ∈ site.chargingStations)
    (isPublic' : station.isPublic) :
    ∃ stations, (site, stations) ∈ stationPages sites ∧ station ∈ stations := by
  have siteMem : site ∈
      (Paging.pages Constants.dbRecordCountDefault (sites.filter Site.isPublic)).flatten := by
    rw [Paging.flatten_pages (by decide)]
    exact List.mem_filter.mpr ⟨mem, isPublic⟩
  have stationMem : station ∈ (Paging.pages Constants.dbRecordCountDefault
      (site.chargingStations.filter Station.isPublic)).flatten := by
    rw [Paging.flatten_pages (by decide)]
    exact List.mem_filter.mpr ⟨mem', isPublic'⟩
  obtain ⟨sitePage, isPage, onPage⟩ := List.mem_flatten.mp siteMem
  obtain ⟨stations, isPage', onPage'⟩ := List.mem_flatten.mp stationMem
  refine ⟨stations, List.mem_flatMap.mpr ⟨sitePage, isPage, ?_⟩, onPage'⟩
  exact List.mem_flatMap.mpr ⟨site, onPage, List.mem_map.mpr ⟨stations, isPage', rfl⟩⟩

/-- What is on a page is a public station of a public site. -/
theorem of_mem_page {sites : List Site} {site : Site} {stations : List Station} {station : Station}
    (page : (site, stations) ∈ stationPages sites) (mem : station ∈ stations) :
    site ∈ sites ∧ site.isPublic ∧ station ∈ site.chargingStations ∧ station.isPublic := by
  obtain ⟨sitePage, isPage, page⟩ := List.mem_flatMap.mp page
  obtain ⟨site', onPage, page⟩ := List.mem_flatMap.mp page
  obtain ⟨stations', isPage', same⟩ := List.mem_map.mp page
  obtain ⟨rfl, rfl⟩ := Prod.mk.inj same
  have siteMem := List.mem_flatten_of_mem isPage onPage
  rw [Paging.flatten_pages (by decide), List.mem_filter] at siteMem
  have stationMem := List.mem_flatten_of_mem isPage' mem
  rw [Paging.flatten_pages (by decide), List.mem_filter] at stationMem
  exact ⟨siteMem.1, siteMem.2, stationMem.1, stationMem.2⟩

/-- `OCPILocationOptions`. -/
structure LocationOptions where
  countryID : String
  partyID : String

/-- `text.replace(/[\W_]+/g, '*')`; whether the text before ends in a separator is known. -/
def replaceSeparators : Bool → List Char → List Char
  | _, [] => []
  | separated, c :: rest =>
      if c.isAlphanum then c :: replaceSeparators false rest
      else if separated then replaceSeparators true rest
      else '*' :: replaceSeparators true rest

/-- `RoamingUtils.buildEvseID`, and `buildEChargingPoolID`, from the text they build first. -/
def normalizeID (text : String) : String :=
  (String.ofList (replaceSeparators false text.toList)).toUpper

/-- `RoamingUtils.buildEvseID`. -/
def buildEvseID (options : LocationOptions) (chargingStationID : String) (connectorID : ℕ) :
    String :=
  normalizeID s!"{options.countryID}*{options.partyID}*E{chargingStationID}*{connectorID}"

example : buildEvseID ⟨"FR", "ABC"⟩ "My_Box" 2 = "FR*ABC*EMY*BOX*2" := by decide +kernel

/-- The connectors of a station, by its charge points if it has any. -/
def Station.allConnectors (station : Station) : List Connector :=
  if station.chargePoints.isEmpty then station.connectors
  else
    station.chargePoints.flatMap
      (Utils.getConnectorsFromChargePoint station.toChargingStation)

/-- `OICPActionType`. -/
inductive ActionType
  | fullLoad
  | update
  | insert
  | delete
  deriving DecidableEq, Repr

/-- `OICPAcknowledgment`, with what is read of its status code. -/
structure Acknowledgment where
  result : Bool
  additionalInfo : Option String := none
  description : Option String := none
  deriving DecidableEq, Repr

/-- What comes of a push. -/
inductive PushOutcome
  /-- The certificate, the key or the URL is missing. -/
  | unconfigured (message : String)
  /-- The hub answers. -/
  | response (data : Option Acknowledgment)
  /-- The request fails, with an answer of the hub or without. -/
  | requestError (message : String) (data : Option Acknowledgment)
  deriving DecidableEq, Repr

/-- The hub has acknowledged the push. -/
def PushOutcome.acknowledged : PushOutcome → Bool
  | .unconfigured _ => false
  | .response data | .requestError _ data => data.any Acknowledgment.result

/-- `buildOICPChargingNotificationErrorMessage`. -/
def buildOICPChargingNotificationErrorMessage (response : Option Acknowledgment)
    (requestError : Option String) : Except String (Option String) :=
  let errorMessage :=
    match response with
    | none => some ""
    | some response =>
        (response.additionalInfo.filter fun info => 0 < info.length) <|> response.description
  match requestError with
  | none => .ok errorMessage
  | some message =>
      match errorMessage with
      | none => .error "Cannot read properties of undefined (reading 'length')"
      | some text => .ok (some ((if 0 < text.length then text ++ " " else text) ++ message))

/-- `OICPResult`. -/
structure Result where
  success : ℕ := 0
  failure : ℕ := 0
  total : ℕ := 0
  logs : List String := []
  objectIDsInFailure : List String := []
  deriving DecidableEq, Repr

/-- `lastPatchJobResult`. -/
structure PatchJobResult where
  successNbr : ℕ
  failureNbr : ℕ
  totalNbr : ℕ
  chargeBoxIDsInFailure : List String
  chargeBoxIDsInSuccess : List String := []
  deriving DecidableEq, Repr

/-- `OICPEndpoint`. -/
structure Endpoint where
  lastPatchJobOn : Option Timestamp := none
  lastPatchJobResult : Option PatchJobResult := none
  deriving DecidableEq, Repr

/-- The endpoint after a run. -/
def Endpoint.patched (startDate : Timestamp) (result : Result) : Endpoint where
  lastPatchJobOn := some startDate
  lastPatchJobResult := some
    { successNbr := result.success
      failureNbr := result.failure
      totalNbr := result.total
      chargeBoxIDsInFailure := result.objectIDsInFailure.eraseDups }

/-- `getChargeBoxIDsInFailure`. -/
def Endpoint.getChargeBoxIDsInFailure (endpoint : Endpoint) : List String :=
  endpoint.lastPatchJobResult.elim [] PatchJobResult.chargeBoxIDsInFailure

/-- A stored status notification. -/
structure StatusNotification where
  chargeBoxID : String
  timestamp : Timestamp
  deriving DecidableEq, Repr

/-- What a run reads: the sites and the status notifications that are stored. -/
structure Network where
  sites : List Site
  statusNotifications : List StatusNotification := []
  deriving DecidableEq, Repr

/-- `CpoOICPClient`. -/
structure Client where
  tenantID : String
  options : LocationOptions
  endpoint : Endpoint := {}

/-- `getChargeBoxIDsWithNewStatusNotifications`; the date is the present when there was no run. -/
def Client.getChargeBoxIDsWithNewStatusNotifications (client : Client) (network : Network)
    (now : Timestamp) : List String :=
  (network.statusNotifications.filter fun notification =>
    client.endpoint.lastPatchJobOn.getD now ≤ notification.timestamp).map
      StatusNotification.chargeBoxID

/-- `chargeBoxIDsToProcess` of a delta run. -/
def Client.chargeBoxIDsToProcess (client : Client) (network : Network) (now : Timestamp) :
    List String :=
  (client.endpoint.getChargeBoxIDsInFailure ++
    client.getChargeBoxIDsWithNewStatusNotifications network now).eraseDups

/-- The action type a run begins with. -/
def initialActionType (processAll : Bool) (actionType : Option ActionType) : ActionType :=
  if processAll then actionType.getD .fullLoad else .insert

end OICP

end EvServer
