import EvServer.Roaming.OicpPush

/-!
# The EVSEs that are pushed to the hub (`sendEVSEs`)

The EVSEs of each page of stations are pushed in batches.  A page that does not fit into one
batch is to be added to an empty hub, so the hub is overwritten with nothing first; any other
page overwrites the hub as long as the run has not begun to add.
-/

namespace EvServer

/-- `OICPBatchSize.EVSE_DATA`. -/
def Constants.oicpBatchSize : ℕ := 10000

namespace OICP

/-- `OICPEvseDataRecord`; what else `convertConnector2Evse` sets is `details`. -/
structure EvseDataRecord (D : Type) where
  evseID : String
  chargingPoolID : String
  chargingStationID : String
  hardwareManufacturer : String
  details : D
  deriving DecidableEq, Repr

variable {D : Type}

/-- The address, the coordinates, the plugs and the facilities of an EVSE, for which packages are
asked. -/
abbrev Details (D : Type) := Site → Station → Connector → Except String D

def convertConnector2Evse (options : LocationOptions) (details : Details D) (site : Site)
    (station : Station) (connector : Connector) : Except String (EvseDataRecord D) :=
  match station.siteAreaID with
  | none => .error "Cannot read properties of undefined (reading 'id')"
  | some siteAreaID =>
      (details site station connector).map fun details =>
        { evseID := buildEvseID options station.id connector.connectorId
          chargingPoolID := normalizeID s!"{options.countryID}*{options.partyID}*P{siteAreaID}"
          chargingStationID := station.id
          hardwareManufacturer := station.chargePointVendor
          details := details }

def convertChargingStation2MultipleEvses (options : LocationOptions) (details : Details D)
    (site : Site) (station : Station) : Except String (List (EvseDataRecord D)) :=
  station.allConnectors.mapM (convertConnector2Evse options details site station)

/-- `convertChargingStationsToEVSEs`; that the EVSEs are also saved with the station is left out. -/
def convertChargingStationsToEVSEs (options : LocationOptions) (details : Details D) (site : Site)
    (stations : List Station) : Except String (List (EvseDataRecord D)) :=
  ((stations.filter fun station => station.issuer && station.isPublic).mapM
    (convertChargingStation2MultipleEvses options details site)).map List.flatten

/-- `pushEvseData`: an answer that is no acknowledgment throws. -/
def pushEvseData : PushOutcome → Except String (Option Acknowledgment)
  | .unconfigured message => .error message
  | .response data => reject data none
  | .requestError message data => reject data (some message)
where
  /-- The end of the function, with the answer and the error of the request. -/
  reject (data : Option Acknowledgment) (requestError : Option String) :
      Except String (Option Acknowledgment) :=
    if data.any Acknowledgment.result then .ok data
    else
      match buildOICPChargingNotificationErrorMessage data requestError with
      | .ok message => .error (message.getD "undefined")
      | .error message => .error message

/-- A push of EVSEs. -/
structure EvsePush (D : Type) where
  evses : List (EvseDataRecord D)
  actionType : ActionType
  outcome : PushOutcome

/-- A run, with the pushes it has made. -/
structure EvseRun (D : Type) where
  result : Result := {}
  pushes : List (EvsePush D) := []
  actionType : ActionType
  /-- What `sendEVSEs` has thrown. -/
  thrown : Option String := none

/-- Push.  The outcome of a push is known by its number. -/
def EvseRun.push (outcomes : ℕ → PushOutcome) (run : EvseRun D) (evses : List (EvseDataRecord D))
    (actionType : ActionType) : EvseRun D :=
  { run with pushes := run.pushes ++ [⟨evses, actionType, outcomes run.pushes.length⟩] }

/-- Overwrite the hub with nothing, and only add from here on. -/
def EvseRun.clean (outcomes : ℕ → PushOutcome) (run : EvseRun D) : EvseRun D :=
  match pushEvseData (outcomes run.pushes.length) with
  | .ok _ => { run.push outcomes [] .fullLoad with actionType := .insert }
  | .error message => { run.push outcomes [] .fullLoad with thrown := some message }

/-- `CpoOICPClient` pushes a batch. -/
def EvseRun.pushBatch (client : Client) (outcomes : ℕ → PushOutcome) (run : EvseRun D)
    (batch : List (EvseDataRecord D)) : EvseRun D :=
  match pushEvseData (outcomes run.pushes.length) with
  | .ok _ =>
      { run.push outcomes batch run.actionType with
        result := { run.result with success := run.result.success + batch.length } }
  | .error message =>
      { run.push outcomes batch run.actionType with
        result :=
          { run.result with
            failure := run.result.failure + batch.length
            objectIDsInFailure := run.result.objectIDsInFailure ++
              batch.map EvseDataRecord.chargingStationID
            logs := run.result.logs ++
              [s!"Failed to update the EVSEs from tenant '{client.tenantID}': {message}"] } }

/-- The batches of a page; there is always a first one. -/
def batches (evses : List (EvseDataRecord D)) : List (List (EvseDataRecord D)) :=
  if evses.isEmpty then [[]] else Paging.pages Constants.oicpBatchSize evses

/-- The number of EVSEs of a page. -/
def EvseRun.count (run : EvseRun D) (evses : List (EvseDataRecord D)) : EvseRun D :=
  { run with result := { run.result with total := evses.length } }

/-- Push the EVSEs of a page. -/
def EvseRun.pushAll (client : Client) (outcomes : ℕ → PushOutcome) (run : EvseRun D)
    (evses : List (EvseDataRecord D)) : EvseRun D :=
  let cleaned :=
    if Constants.oicpBatchSize < evses.length then (run.count evses).clean outcomes
    else run.count evses
  if cleaned.thrown.isSome then cleaned
  else (batches evses).foldl (EvseRun.pushBatch client outcomes) cleaned

/-- `evsesToProcess` of a page. -/
def Client.evsesToProcess (client : Client) (network : Network) (now : Timestamp)
    (processAll : Bool) (evses : List (EvseDataRecord D)) : List (EvseDataRecord D) :=
  evses.filter fun evse =>
    processAll || (client.chargeBoxIDsToProcess network now).contains evse.chargingStationID

/-- Process a page, of which the EVSEs have been converted or not. -/
def EvseRun.process (client : Client) (network : Network) (outcomes : ℕ → PushOutcome)
    (now : Timestamp) (processAll : Bool) (run : EvseRun D)
    (page : Except String (List (EvseDataRecord D))) : EvseRun D :=
  if run.thrown.isSome then run
  else
    match page with
    | .error message => { run with thrown := some message }
    | .ok evses =>
        run.pushAll client outcomes (client.evsesToProcess network now processAll evses)

/-- The EVSEs of each page. -/
def Client.evsePages (client : Client) (network : Network) (details : Details D) :
    List (Except String (List (EvseDataRecord D))) :=
  (stationPages network.sites).map fun page =>
    convertChargingStationsToEVSEs client.options details page.1 page.2

/-- `sendEVSEs`: the run, and the endpoint that is saved unless it throws. -/
def Client.sendEVSEs (client : Client) (network : Network) (details : Details D)
    (outcomes : ℕ → PushOutcome) (startDate : Timestamp) (processAll : Bool)
    (actionType : Option ActionType) : EvseRun D × Option Endpoint :=
  let run := (client.evsePages network details).foldl
    (EvseRun.process client network outcomes startDate processAll)
    { actionType := initialActionType processAll actionType }
  (run, if run.thrown.isSome then none else some (.patched startDate run.result))

/-! ## The hub -/

/-- What a push does to the records of the hub: an acknowledged full load replaces them, an
acknowledged insert adds to them. -/
def EvsePush.apply (hub : List (EvseDataRecord D)) (push : EvsePush D) : List (EvseDataRecord D) :=
  if push.outcome.acknowledged then
    match push.actionType with
    | .fullLoad => push.evses
    | .insert => hub ++ push.evses
    | .update | .delete => hub
  else hub

/-- The records of the hub after a run. -/
def EvseRun.hub (run : EvseRun D) (hub : List (EvseDataRecord D)) : List (EvseDataRecord D) :=
  run.pushes.foldl EvsePush.apply hub

/-- The EVSE is one of a public station of a public site. -/
def IsPublished (client : Client) (network : Network) (details : Details D)
    (evse : EvseDataRecord D) : Prop :=
  ∃ site ∈ network.sites, site.isPublic ∧ ∃ station ∈ site.chargingStations,
    station.isPublic ∧ station.issuer ∧ ∃ evses,
      convertChargingStation2MultipleEvses client.options details site station = .ok evses ∧
        evse ∈ evses

/-- The station of the EVSE is still public. -/
def IsStillPublic (network : Network) (evse : EvseDataRecord D) : Prop :=
  ∃ site ∈ network.sites, site.isPublic ∧ ∃ station ∈ site.chargingStations,
    station.isPublic ∧ station.id = evse.chargingStationID

end OICP

end EvServer
