import EvServer.Roaming.OicpPush

/-!
# The statuses that are pushed to the hub (`sendEVSEStatuses`)

The statuses of each page of stations are pushed in one request.  A push that fails is to be
counted, and its stations are to be stored, so that the next delta run sends them again.  But a
refused push and a network error are only logged, and the counters are set anew for every page.
-/

namespace EvServer

namespace OICP

/-- `OICPEvseStatus`. -/
inductive EvseStatus
  | available
  | reserved
  | occupied
  | outOfService
  | evseNotFound
  | unknown
  deriving DecidableEq, Repr

/-- `OICPEvseStatusRecord`. -/
structure EvseStatusRecord where
  evseID : String
  evseStatus : EvseStatus
  chargingStationID : String
  deriving DecidableEq, Repr

def convertStatus2OICPEvseStatus : ChargePointStatus → EvseStatus
  | .available => .available
  | .occupied | .charging => .occupied
  | .faulted => .outOfService
  | .preparing | .suspendedEv | .suspendedEvse | .finishing => .occupied
  | .reserved => .reserved
  | .unavailable => .unknown

def convertConnector2EvseStatus (options : LocationOptions) (station : Station)
    (connector : Connector) : EvseStatusRecord where
  evseID := buildEvseID options station.id connector.connectorId
  evseStatus :=
    if station.inactive then .outOfService else convertStatus2OICPEvseStatus connector.status
  chargingStationID := station.id

def convertChargingStation2MultipleEvseStatuses (options : LocationOptions) (station : Station) :
    List EvseStatusRecord :=
  station.allConnectors.map (convertConnector2EvseStatus options station)

def convertChargingStationsToEvseStatuses (options : LocationOptions) (stations : List Station) :
    List EvseStatusRecord :=
  (stations.filter fun station => station.issuer && station.isPublic).flatMap
    (convertChargingStation2MultipleEvseStatuses options)

/-- `pushEvseStatus`: an answer that is no acknowledgment is logged. -/
def pushEvseStatus : PushOutcome → Except String (Option Acknowledgment)
  | .unconfigured message => .error message
  | .response data =>
      if data.any Acknowledgment.result then .ok data
      else (buildOICPChargingNotificationErrorMessage data none).map fun _ => data
  | .requestError message data =>
      if data.any Acknowledgment.result then .ok data
      else (buildOICPChargingNotificationErrorMessage data (some message)).map fun _ => data

/-- A push of statuses. -/
structure StatusPush where
  statuses : List EvseStatusRecord
  actionType : ActionType
  outcome : PushOutcome
  deriving DecidableEq, Repr

/-- A run, with the pushes it has made. -/
structure StatusRun where
  result : Result := {}
  pushes : List StatusPush := []
  deriving DecidableEq, Repr

/-- `evseStatusesToProcess` of a page. -/
def Client.evseStatusesToProcess (client : Client) (network : Network) (now : Timestamp)
    (processAll : Bool) (stations : List Station) : List EvseStatusRecord :=
  (convertChargingStationsToEvseStatuses client.options stations).filter fun status =>
    processAll || (client.chargeBoxIDsToProcess network now).contains status.chargingStationID

/-- Push the statuses of a page.  The outcome of a push is known by its number. -/
def StatusRun.process (client : Client) (outcomes : ℕ → PushOutcome) (actionType : ActionType)
    (run : StatusRun) (statuses : List EvseStatusRecord) : StatusRun :=
  if statuses.isEmpty then { run with result := { run.result with total := 0 } }
  else
    { result :=
        match pushEvseStatus (outcomes run.pushes.length) with
        | .ok _ => { run.result with total := statuses.length, success := statuses.length }
        | .error message =>
            { run.result with
              total := statuses.length
              failure := statuses.length
              objectIDsInFailure := run.result.objectIDsInFailure ++
                statuses.map EvseStatusRecord.chargingStationID
              logs := run.result.logs ++
                [s!"Failed to update the EVSE Statuses from tenant '{client.tenantID}': {message}"] }
      pushes := run.pushes ++ [⟨statuses, actionType, outcomes run.pushes.length⟩] }

/-- The statuses to process of each page. -/
def Client.batches (client : Client) (network : Network) (now : Timestamp) (processAll : Bool) :
    List (List EvseStatusRecord) :=
  (stationPages network.sites).map fun page =>
    client.evseStatusesToProcess network now processAll page.2

/-- `sendEVSEStatuses`: the run, and the endpoint that is saved. -/
def Client.sendEVSEStatuses (client : Client) (network : Network) (outcomes : ℕ → PushOutcome)
    (startDate : Timestamp) (processAll : Bool) (actionType : Option ActionType) :
    StatusRun × Endpoint :=
  let run := (client.batches network startDate processAll).foldl
    (StatusRun.process client outcomes (initialActionType processAll actionType)) {}
  (run, .patched startDate run.result)

variable {client : Client} {network : Network} {outcomes : ℕ → PushOutcome}
variable {actionType : ActionType} {run : StatusRun} {batches : List (List EvseStatusRecord)}

/-- The statuses that are not empty are pushed, and earlier pushes stay. -/
theorem exists_push_of_mem {batch : List EvseStatusRecord} (mem : batch ∈ batches)
    (nonempty : batch ≠ []) :
    ∃ push ∈ (batches.foldl (StatusRun.process client outcomes actionType) run).pushes,
      push.statuses = batch := by
  have keeps : ∀ (rest : List (List EvseStatusRecord)) (run : StatusRun), ∀ push ∈ run.pushes,
      push ∈ (rest.foldl (StatusRun.process client outcomes actionType) run).pushes := by
    intro rest
    induction rest with
    | nil => exact fun _ _ mem => mem
    | cons first rest ih =>
        intro run push mem
        refine ih _ push ?_
        unfold StatusRun.process
        split
        · exact mem
        · exact List.mem_append_left _ mem
  induction batches generalizing run with
  | nil => cases mem
  | cons first rest ih =>
      rcases List.mem_cons.mp mem with rfl | later
      · refine ⟨⟨batch, actionType, outcomes run.pushes.length⟩, ?_, rfl⟩
        refine keeps rest (run.process client outcomes actionType batch) _ ?_
        unfold StatusRun.process
        rw [if_neg (by simpa using nonempty)]
        exact List.mem_append_right _ List.mem_cons_self
      · exact ih later

/-- A page without statuses leaves what has been counted, but for the total. -/
theorem foldl_of_forall_nil (empty : ∀ batch ∈ batches, batch = []) :
    batches.foldl (StatusRun.process client outcomes actionType) {} = {} := by
  induction batches with
  | nil => rfl
  | cons first rest ih =>
      obtain ⟨rfl, rest_empty⟩ := List.forall_mem_cons.mp empty
      exact ih rest_empty

/-- The total is that of the last page. -/
theorem total_process (batch : List EvseStatusRecord) :
    (StatusRun.process client outcomes actionType run batch).result.total = batch.length := by
  unfold StatusRun.process
  split
  · rename_i empty
    rw [List.isEmpty_iff.mp empty]
    rfl
  · split <;> rfl

/-- A run loses no status. -/
structure LosesNothing (client : Client) (network : Network) (outcomes : ℕ → PushOutcome)
    (startDate : Timestamp) (processAll : Bool) (actionType : Option ActionType) : Prop where
  /-- The stations of a push that the hub has not acknowledged are listed. -/
  listed : ∀ push ∈ (client.sendEVSEStatuses network outcomes startDate processAll
      actionType).1.pushes, push.outcome.acknowledged = false → ∀ status ∈ push.statuses,
    status.chargingStationID ∈ (client.sendEVSEStatuses network outcomes startDate processAll
      actionType).2.getChargeBoxIDsInFailure
  /-- The successes and the failures are all. -/
  counted : ∀ result ∈ (client.sendEVSEStatuses network outcomes startDate processAll
      actionType).2.lastPatchJobResult, result.successNbr + result.failureNbr = result.totalNbr
  /-- All is what has been processed over all sites and pages. -/
  total : ∀ result ∈ (client.sendEVSEStatuses network outcomes startDate processAll
      actionType).2.lastPatchJobResult,
    result.totalNbr = (client.batches network startDate processAll).flatten.length
  /-- The next delta run sends the statuses of those stations again. -/
  sentAgain : ∀ (network' : Network) (outcomes' : ℕ → PushOutcome) (startDate' : Timestamp)
      (actionType' : Option ActionType), ∀ push ∈ (client.sendEVSEStatuses network outcomes
        startDate processAll actionType).1.pushes, push.outcome.acknowledged = false →
      ∀ status ∈ push.statuses, ∀ site ∈ network'.sites, site.isPublic →
      ∀ station ∈ site.chargingStations, station.isPublic → station.issuer →
      station.id = status.chargingStationID →
      ∀ status' ∈ convertChargingStation2MultipleEvseStatuses client.options station,
        ∃ push' ∈ (({ client with
            endpoint := (client.sendEVSEStatuses network outcomes startDate processAll
              actionType).2 } : Client).sendEVSEStatuses network' outcomes' startDate' false
                actionType').1.pushes, status' ∈ push'.statuses

/-- **A delta run** sends the statuses of the stations that are listed. -/
theorem exists_push_of_listed {startDate : Timestamp} {actionType : Option ActionType} {site : Site}
    {station : Station} (mem : site ∈ network.sites) (isPublic : site.isPublic)
    (mem' : station ∈ site.chargingStations) (isPublic' : station.isPublic)
    (issuer : station.issuer) (listed : station.id ∈ client.endpoint.getChargeBoxIDsInFailure)
    {status : EvseStatusRecord}
    (converted : status ∈ convertChargingStation2MultipleEvseStatuses client.options station) :
    ∃ push ∈ (client.sendEVSEStatuses network outcomes startDate false actionType).1.pushes,
      status ∈ push.statuses := by
  obtain ⟨stations, page, onPage⟩ := exists_page mem isPublic mem' isPublic'
  have sameStation : status.chargingStationID = station.id := by
    obtain ⟨connector, _, rfl⟩ := List.mem_map.mp converted
    rfl
  have processed : status ∈ client.evseStatusesToProcess network startDate false stations := by
    refine List.mem_filter.mpr ⟨List.mem_flatMap.mpr ⟨station, ?_, converted⟩, ?_⟩
    · exact List.mem_filter.mpr ⟨onPage, by rw [issuer, isPublic']; rfl⟩
    · rw [Bool.false_or, List.contains_iff_mem, sameStation]
      exact List.mem_eraseDups.mpr (List.mem_append_left _ listed)
  have batch : client.evseStatusesToProcess network startDate false stations ∈
      client.batches network startDate false := List.mem_map.mpr ⟨(site, stations), page, rfl⟩
  obtain ⟨push, isPush, same⟩ := exists_push_of_mem batch (List.ne_nil_of_mem processed)
  exact ⟨push, isPush, same ▸ processed⟩

/-- `pushEvseStatus` throws: nothing is set up to push, or the request fails with an answer that
has no text. -/
def PushOutcome.throws (outcome : PushOutcome) : Bool :=
  match pushEvseStatus outcome with
  | .ok _ => false
  | .error _ => true

/-- The first push of a run, when it does not throw. -/
theorem process_of_not_throws {batch : List EvseStatusRecord} (nonempty : batch ≠ [])
    (counted : (outcomes 0).throws = false) :
    StatusRun.process client outcomes actionType {} batch =
      { result := { success := batch.length, total := batch.length }
        pushes := [⟨batch, actionType, outcomes 0⟩] } := by
  unfold StatusRun.process
  rw [if_neg (by simpa using nonempty)]
  unfold PushOutcome.throws at counted
  change StatusRun.mk (match pushEvseStatus (outcomes 0) with | .ok _ => _ | .error _ => _) _ = _
  cases pushed : pushEvseStatus (outcomes 0) with
  | ok data => rfl
  | error message =>
      rw [pushed] at counted
      cases counted

/-- The first push of a run, when it throws. -/
theorem process_of_throws {batch : List EvseStatusRecord} (nonempty : batch ≠ [])
    (failed : (outcomes 0).throws) :
    ∃ logs, StatusRun.process client outcomes actionType {} batch =
      { result :=
          { failure := batch.length
            total := batch.length
            objectIDsInFailure := batch.map EvseStatusRecord.chargingStationID
            logs := logs }
        pushes := [⟨batch, actionType, outcomes 0⟩] } := by
  unfold StatusRun.process
  rw [if_neg (by simpa using nonempty)]
  unfold PushOutcome.throws at failed
  change ∃ logs,
    StatusRun.mk (match pushEvseStatus (outcomes 0) with | .ok _ => _ | .error _ => _) _ = _
  cases pushed : pushEvseStatus (outcomes 0) with
  | ok data =>
      rw [pushed] at failed
      cases failed
  | error message =>
      exact ⟨[s!"Failed to update the EVSE Statuses from tenant '{client.tenantID}': {message}"], rfl⟩

/-- What is listed is sent again. -/
theorem LosesNothing.of_listed {startDate : Timestamp} {processAll : Bool}
    {actionType : Option ActionType} {run : StatusRun} {endpoint : Endpoint}
    (sent : client.sendEVSEStatuses network outcomes startDate processAll actionType =
      (run, endpoint))
    (listed : ∀ push ∈ run.pushes, push.outcome.acknowledged = false → ∀ status ∈ push.statuses,
      status.chargingStationID ∈ endpoint.getChargeBoxIDsInFailure)
    (counted : ∀ result ∈ endpoint.lastPatchJobResult,
      result.successNbr + result.failureNbr = result.totalNbr)
    (total : ∀ result ∈ endpoint.lastPatchJobResult,
      result.totalNbr = (client.batches network startDate processAll).flatten.length) :
    LosesNothing client network outcomes startDate processAll actionType := by
  refine ⟨?_, ?_, ?_, ?_⟩ <;> rw [sent]
  · exact listed
  · exact counted
  · exact total
  · intro network' outcomes' startDate' actionType' push isPush refused status mem site isSite
      isPublic station isStation isPublic' issuer same status' converted
    refine exists_push_of_listed isSite isPublic isStation isPublic' issuer ?_ converted
    rw [same]
    exact listed push isPush refused status mem

section SinglePage

variable {startDate : Timestamp} {processAll : Bool} {actionType : Option ActionType}
variable {init : List (List EvseStatusRecord)} {last : List EvseStatusRecord}

/-- Pages without statuses leave the run to the last page. -/
theorem sendEVSEStatuses_of_forall_nil
    (pages : client.batches network startDate processAll = init ++ [last])
    (empty : ∀ batch ∈ init, batch = []) :
    client.sendEVSEStatuses network outcomes startDate processAll actionType =
      (StatusRun.process client outcomes (initialActionType processAll actionType) {} last,
        .patched startDate (StatusRun.process client outcomes
          (initialActionType processAll actionType) {} last).result) := by
  unfold Client.sendEVSEStatuses
  rw [pages, List.foldl_append, foldl_of_forall_nil empty]
  rfl

/-- A run of one page loses nothing when its push is acknowledged or throws. -/
theorem losesNothing_of_single (last : List EvseStatusRecord)
    (sent : client.sendEVSEStatuses network outcomes startDate processAll actionType =
      (StatusRun.process client outcomes (initialActionType processAll actionType) {} last,
        .patched startDate (StatusRun.process client outcomes
          (initialActionType processAll actionType) {} last).result))
    (all : (client.batches network startDate processAll).flatten = last)
    (pushed : last ≠ [] → (outcomes 0).acknowledged ∨ (outcomes 0).throws) :
    LosesNothing client network outcomes startDate processAll actionType := by
  rcases eq_or_ne last [] with rfl | some
  · refine .of_listed sent nofun ?_ ?_ <;> rintro _ ⟨⟩
    · rfl
    · rw [all]
      rfl
  · cases throws : (outcomes 0).throws with
    | false =>
        have acknowledged := (pushed some).resolve_right (by rw [throws]; exact nofun)
        rw [process_of_not_throws some throws] at sent
        refine .of_listed sent ?_ ?_ ?_
        · intro push mem refused
          rw [List.mem_singleton.mp mem] at refused
          cases refused.symm.trans acknowledged
        · rintro _ ⟨⟩
          rfl
        · rintro _ ⟨⟩
          rw [all]
    | true =>
        obtain ⟨logs, failed⟩ := (process_of_throws some throws : ∃ logs,
          StatusRun.process client outcomes (initialActionType processAll actionType) {} _ = _)
        rw [failed] at sent
        refine .of_listed sent ?_ ?_ ?_
        · intro push mem _ status isStatus
          rw [List.mem_singleton.mp mem] at isStatus
          exact List.mem_eraseDups.mpr (List.mem_map_of_mem isStatus)
        · rintro _ ⟨⟩
          exact Nat.zero_add _
        · rintro _ ⟨⟩
          rw [all]

/-- The total is that of the last page, so there is nothing on the others. -/
theorem LosesNothing.forall_nil
    (nothing : LosesNothing client network outcomes startDate processAll actionType)
    (pages : client.batches network startDate processAll = init ++ [last]) :
    ∀ batch ∈ init, batch = [] := by
  have total := nothing.total _ rfl
  change (StatusRun.result ((client.batches network startDate processAll).foldl _ _)).total = _
    at total
  rw [pages, List.foldl_append, List.foldl_cons, List.foldl_nil, total_process,
    List.flatten_append, List.flatten_singleton, List.length_append] at total
  refine List.flatten_eq_nil_iff.mp (List.eq_nil_of_length_eq_zero ?_)
  omega

/-- Statuses that are pushed are listed, unless the push is acknowledged or does not throw. -/
theorem LosesNothing.pushed
    (nothing : LosesNothing client network outcomes startDate processAll actionType)
    (sent : client.sendEVSEStatuses network outcomes startDate processAll actionType =
      (StatusRun.process client outcomes (initialActionType processAll actionType) {} last,
        .patched startDate (StatusRun.process client outcomes
          (initialActionType processAll actionType) {} last).result))
    (some : last ≠ []) : (outcomes 0).acknowledged ∨ (outcomes 0).throws := by
  by_contra neither
  rw [not_or, Bool.not_eq_true, Bool.not_eq_true] at neither
  have listed := nothing.listed
  rw [sent, process_of_not_throws some neither.2] at listed
  obtain ⟨status, mem⟩ := List.exists_mem_of_ne_nil last some
  cases listed _ (List.mem_singleton_self _) neither.1 status mem

end SinglePage

/-- **Nothing is lost** just when no page but the last one has statuses to process, and the push
of those of the last one, if it has any, is acknowledged or throws. -/
theorem losesNothing_iff {startDate : Timestamp} {processAll : Bool}
    {actionType : Option ActionType} :
    LosesNothing client network outcomes startDate processAll actionType ↔
      (∀ batch ∈ (client.batches network startDate processAll).dropLast, batch = []) ∧
        ((client.batches network startDate processAll).flatten ≠ [] →
          (outcomes 0).acknowledged ∨ (outcomes 0).throws) := by
  rcases List.eq_nil_or_concat' (client.batches network startDate processAll) with
    none | ⟨init, last, pages⟩
  · rw [none]
    refine iff_of_true (losesNothing_of_single [] ?_ ?_ fun some => absurd rfl some)
      ⟨nofun, fun some => absurd rfl some⟩
    · unfold Client.sendEVSEStatuses
      rw [none]
      rfl
    · rw [none]
      rfl
  · rw [pages, List.dropLast_concat, List.flatten_append, List.flatten_singleton]
    constructor
    · intro nothing
      have empty := nothing.forall_nil pages
      refine ⟨empty, fun some => ?_⟩
      rw [List.flatten_eq_nil_iff.mpr empty, List.nil_append] at some
      exact nothing.pushed (sendEVSEStatuses_of_forall_nil pages empty) some
    · rintro ⟨empty, pushed⟩
      have none : init.flatten = [] := List.flatten_eq_nil_iff.mpr empty
      rw [none, List.nil_append] at pushed
      refine losesNothing_of_single last (sendEVSEStatuses_of_forall_nil pages empty) ?_ pushed
      rw [pages, List.flatten_append, List.flatten_singleton, none, List.nil_append]

/-- A public station with one connector. -/
def exampleStation (id : String) : Station :=
  { id := id, issuer := true, isPublic := true, connectors := [{ connectorId := 1 }] }

/-- A site with one such station. -/
def exampleNetwork : Network := { sites := [⟨"S1", true, [exampleStation "CS1"]⟩] }

def exampleClient : Client := { tenantID := "T1", options := ⟨"FR", "ABC"⟩ }

/-- The hub refuses. -/
def exampleRefusal (_ : ℕ) : PushOutcome := .response (some { result := false })

/-- The hub refuses the only push: the run counts a success and lists nothing. -/
theorem not_losesNothing_refused :
    ¬ LosesNothing exampleClient exampleNetwork exampleRefusal 0 true none := by
  intro nothing
  have refused : ∃ push ∈
      (exampleClient.sendEVSEStatuses exampleNetwork exampleRefusal 0 true none).1.pushes,
      push.outcome.acknowledged = false ∧ ∃ status ∈ push.statuses, status.chargingStationID ∉
        (exampleClient.sendEVSEStatuses exampleNetwork exampleRefusal 0 true
          none).2.getChargeBoxIDsInFailure := by
    decide +kernel
  obtain ⟨push, isPush, notAcknowledged, status, mem, notListed⟩ := refused
  exact notListed (nothing.listed push isPush notAcknowledged status mem)

end OICP

end EvServer
