import EvServer.Lib.Numbering
import EvServer.SmartCharging.GridAmps

/-!
# The IDs of the fuses

One counter numbers the fuses: those of the connectors of a station, then the one of the station.
`buildRootFuse` counts the root in its own copy of the counter only, so the first number goes to
the root fuse and again to the first connector of the first station.  The IDs are therefore apart
just when that station has no connector with a session, and its first number is not used.
-/

namespace EvServer

/-! ## IDs of a request -/

namespace OptimizerChargingStationFuse

/-- The IDs of the fuses of the connectors, then the one of the station. -/
def fuseIDs (chargingStationFuse : OptimizerChargingStationFuse) : List ℕ :=
  chargingStationFuse.children.map OptimizerChargingStationConnectorFuse.id ++
    [chargingStationFuse.id]

end OptimizerChargingStationFuse

namespace OptimizerChargingProfilesRequest

/-- The IDs of the connectors in the fuse tree. -/
def leafIDs (request : OptimizerChargingProfilesRequest) : List ℕ :=
  request.rootFuse.children.flatMap fun chargingStationFuse =>
    chargingStationFuse.children.map OptimizerChargingStationConnectorFuse.id

/-- The IDs of all fuses. -/
def fuseIDs (request : OptimizerChargingProfilesRequest) : List ℕ :=
  request.rootFuse.id ::
    request.rootFuse.children.flatMap OptimizerChargingStationFuse.fuseIDs

/-- Each fuse has an ID of its own, and a car is assigned to just one connector. -/
def HasApartIDs (request : OptimizerChargingProfilesRequest) : Prop :=
  request.fuseIDs.Nodup ∧
    ∀ assignment ∈ request.carAssignments,
      request.leafIDs.count assignment.chargingStationID = 1

instance (request : OptimizerChargingProfilesRequest) : Decidable request.HasApartIDs :=
  inferInstanceAs (Decidable (_ ∧ _))

end OptimizerChargingProfilesRequest

/-! ## The first station of the last run -/

section FirstStation

variable (context : SmartChargingContext) (siteArea : SiteArea)
  (excludedChargingStations : List String)

/-- A station as the last run leaves it. -/
def lastChargingStation (chargingStation : ChargingStation) : ChargingStation :=
  if isRetried context siteArea excludedChargingStations then
    remainingChargingStation (excludedByRetry context siteArea excludedChargingStations)
      (remainingChargingStation excludedChargingStations chargingStation)
  else remainingChargingStation excludedChargingStations chargingStation

/-- The stations that the last run goes through. -/
def lastChargingStations : List ChargingStation :=
  (siteArea.chargingStations.docs.map
    (lastChargingStation context siteArea excludedChargingStations)).filter
      fun chargingStation => !chargingStation.connectors.isEmpty

/-- The first station that the last run goes through has no connector with a session. -/
def LeavesFirstIDToRoot : Prop :=
  ∀ chargingStation ∈ (lastChargingStations context siteArea excludedChargingStations).head?,
    ¬ ∃ connector ∈ chargingStation.connectors, hasTransaction context connector

instance : Decidable (LeavesFirstIDToRoot context siteArea excludedChargingStations) :=
  inferInstanceAs (Decidable (∀ chargingStation ∈ _, _))

end FirstStation

section Counting

variable {context : SmartChargingContext} {siteArea : SiteArea}

/-- How many fuses the connectors of a station get. -/
def numberOfFuses (context : SmartChargingContext) (chargingStation : ChargingStation) : ℕ :=
  chargingStation.connectors.countP (hasTransaction context)

/-- A car is assigned to the connector of its own number. -/
def assignmentsOf (ids : List ℕ) : List OptimizerCarConnectorAssignment :=
  ids.map fun id => ⟨id, id⟩

/-! ## What the counter hands out -/

/-- The fuses of the connectors of a station take the next numbers. -/
theorem ids_of_foldlM_addConnectorFuse {chargingStation : ChargingStation}
    {connectors : List Connector} {s t : ConnectorFusesState}
    (h : connectors.foldlM (addConnectorFuse context siteArea chargingStation) s = .ok t) :
    t.request.fuseID = s.request.fuseID + connectors.countP (hasTransaction context) ∧
      t.chargingStationConnectorsFuse.map OptimizerChargingStationConnectorFuse.id =
        s.chargingStationConnectorsFuse.map OptimizerChargingStationConnectorFuse.id ++
          List.range' s.request.fuseID (connectors.countP (hasTransaction context)) ∧
      t.request.carConnectorAssignments = s.request.carConnectorAssignments ++
        assignmentsOf
          (List.range' s.request.fuseID (connectors.countP (hasTransaction context))) := by
  induction connectors generalizing s with
  | nil =>
      rw [List.foldlM_nil, Outcome.pure_eq_ok_iff] at h
      subst h
      simp [assignmentsOf]
  | cons connector rest ih =>
      obtain ⟨between, first, others⟩ := Outcome.foldlM_cons_eq_ok.mp h
      obtain ⟨counter, fuses, assignments⟩ := ih others
      rw [counter, fuses, assignments]
      cases has : hasTransaction context connector with
      | true =>
          obtain ⟨transaction, fuse, -, hfuse, rfl⟩ :=
            addConnectorFuse_of_hasTransaction has first
          have numbered := id_of_buildChargingStationConnectorFuse hfuse
          rw [List.countP_cons_of_pos has, List.range'_succ]
          refine ⟨?_, ?_, ?_⟩
          · dsimp only
            omega
          · simp [numbered]
          · simp [assignmentsOf]
      | false =>
          rw [addConnectorFuse_of_not_hasTransaction has first,
            List.countP_cons_of_neg (by simp [has])]
          exact ⟨rfl, rfl, rfl⟩

/-- What is read off the fuses of the stations, when one is added that has children. -/
theorem flatMap_addFuse {α : Type} (f : OptimizerChargingStationFuse → List α)
    (children : List OptimizerChargingStationFuse) (fuse : OptimizerChargingStationFuse) :
    (if fuse.children.isEmpty then children else children ++ [fuse]).flatMap f =
      children.flatMap f ++ if fuse.children.isEmpty then [] else f fuse := by
  split
  · rw [List.append_nil]
  · rw [List.flatMap_append, List.flatMap_singleton]

/-- A station is numbered after its connectors. -/
theorem ids_of_addChargingStationFuse {chargingStation : ChargingStation}
    {s t : OptimizerRequestState}
    (h : addChargingStationFuse context siteArea s chargingStation = .ok t) :
    t.fuseID = s.fuseID + numberOfFuses context chargingStation + 1 ∧
      t.children.flatMap OptimizerChargingStationFuse.fuseIDs =
        s.children.flatMap OptimizerChargingStationFuse.fuseIDs ++
          (if numberOfFuses context chargingStation = 0 then []
          else List.range' s.fuseID (numberOfFuses context chargingStation) ++
            [s.fuseID + numberOfFuses context chargingStation]) ∧
      t.children.flatMap (fun fuse => fuse.children.map OptimizerChargingStationConnectorFuse.id) =
        s.children.flatMap (fun fuse =>
          fuse.children.map OptimizerChargingStationConnectorFuse.id) ++
          List.range' s.fuseID (numberOfFuses context chargingStation) ∧
      t.carConnectorAssignments = s.carConnectorAssignments ++
        assignmentsOf (List.range' s.fuseID (numberOfFuses context chargingStation)) := by
  obtain ⟨added, hadded, h⟩ := Outcome.bind_eq_ok.mp h
  obtain ⟨counter, fuses, assignments⟩ := ids_of_foldlM_addConnectorFuse hadded
  have children := (foldlM_addConnectorFuse hadded).1
  change added.request.fuseID = s.fuseID + numberOfFuses context chargingStation at counter
  change _ = [] ++ List.range' s.fuseID (numberOfFuses context chargingStation) at fuses
  rw [List.nil_append] at fuses
  have size := congrArg List.length fuses
  rw [List.length_map, List.length_range'] at size
  have empty : added.chargingStationConnectorsFuse.isEmpty ↔
      numberOfFuses context chargingStation = 0 := by
    rw [List.isEmpty_iff_length_eq_zero, size]
  cases h
  refine ⟨congrArg (· + 1) counter, ?_, ?_, assignments⟩
  · rw [flatMap_addFuse, children]
    refine congrArg _ (if_congr empty rfl ?_)
    change added.chargingStationConnectorsFuse.map _ ++ [added.request.fuseID] = _
    rw [fuses, counter]
  · rw [flatMap_addFuse, children]
    refine congrArg _ ?_
    change (if added.chargingStationConnectorsFuse.isEmpty then []
      else added.chargingStationConnectorsFuse.map _) = _
    split
    · rename_i none
      rw [empty.mp none, List.range'_zero]
    · exact fuses

/-- The counter goes through the stations. -/
theorem ids_of_foldlM_addChargingStationFuse {chargingStations : List ChargingStation}
    {s t : OptimizerRequestState}
    (h : chargingStations.foldlM (addChargingStationFuse context siteArea) s = .ok t) :
    t.children.flatMap OptimizerChargingStationFuse.fuseIDs =
        s.children.flatMap OptimizerChargingStationFuse.fuseIDs ++
          Numbering.kept s.fuseID (chargingStations.map (numberOfFuses context)) ∧
      t.children.flatMap (fun fuse => fuse.children.map OptimizerChargingStationConnectorFuse.id) =
        s.children.flatMap (fun fuse =>
          fuse.children.map OptimizerChargingStationConnectorFuse.id) ++
          Numbering.members s.fuseID (chargingStations.map (numberOfFuses context)) ∧
      t.carConnectorAssignments = s.carConnectorAssignments ++
        assignmentsOf
          (Numbering.members s.fuseID (chargingStations.map (numberOfFuses context))) := by
  induction chargingStations generalizing s with
  | nil =>
      rw [List.foldlM_nil, Outcome.pure_eq_ok_iff] at h
      subst h
      simp [Numbering.kept, Numbering.members, assignmentsOf]
  | cons chargingStation rest ih =>
      obtain ⟨between, first, others⟩ := Outcome.foldlM_cons_eq_ok.mp h
      obtain ⟨fuseIDs, leafIDs, assignments⟩ := ih others
      obtain ⟨counter, fuseIDs', leafIDs', assignments'⟩ := ids_of_addChargingStationFuse first
      rw [fuseIDs, leafIDs, assignments, fuseIDs', leafIDs', assignments', counter]
      simp [Numbering.kept, Numbering.members, assignmentsOf]

/-- The IDs of one run; the number of the root fuse is the first one of the counter. -/
theorem ids_of_runOptimizerRequest {excludedChargingStations : List String}
    {run : OptimizerRequestRun}
    (h : runOptimizerRequest context siteArea excludedChargingStations = .ok run) :
    run.request.fuseIDs =
        0 :: Numbering.kept 0 (run.siteArea.chargingStations.docs.map (numberOfFuses context)) ∧
      run.request.leafIDs =
        Numbering.members 0 (run.siteArea.chargingStations.docs.map (numberOfFuses context)) ∧
      run.request.carAssignments = assignmentsOf run.request.leafIDs := by
  obtain ⟨-, -, h⟩ := Outcome.bind_eq_ok.mp h
  obtain ⟨state, hstate, h⟩ := Outcome.bind_eq_ok.mp h
  obtain ⟨fuseIDs, leafIDs, assignments⟩ := ids_of_foldlM_addChargingStationFuse hstate
  cases h
  refine ⟨congrArg (List.cons 0) fuseIDs, leafIDs, ?_⟩
  rw [OptimizerChargingProfilesRequest.leafIDs, leafIDs]
  exact assignments

/-! ## IDs that are apart -/

variable {excludedChargingStations : List String} {request : OptimizerChargingProfilesRequest}

/-- A retry leaves no station that the first run has left without connectors. -/
theorem filter_map_remaining_filter (chargingStations : List ChargingStation)
    (left : ChargingStation → ChargingStation) (excludedChargingStations : List String) :
    (((chargingStations.map left).filter fun chargingStation =>
        !chargingStation.connectors.isEmpty).map
          (remainingChargingStation excludedChargingStations)).filter
        (fun chargingStation => !chargingStation.connectors.isEmpty) =
      (chargingStations.map fun chargingStation =>
        remainingChargingStation excludedChargingStations (left chargingStation)).filter
          fun chargingStation => !chargingStation.connectors.isEmpty := by
  induction chargingStations with
  | nil => rfl
  | cons chargingStation rest ih =>
      rw [List.map_cons, List.map_cons, List.filter_cons]
      split
      · rw [List.map_cons, List.filter_cons, List.filter_cons, ih]
      · rename_i isEmpty
        rw [List.filter_cons_of_neg, ih]
        rw [connectors_remainingChargingStation_of_eq_nil (by simpa using isEmpty)]
        simp

/-- The stations of the last run. -/
theorem exists_lastRun
    (h : buildOptimizerRequest context siteArea excludedChargingStations = .ok request) :
    ∃ (lastSiteArea : SiteArea) (lastExcluded : List String) (run : OptimizerRequestRun),
      runOptimizerRequest context lastSiteArea lastExcluded = .ok run ∧ run.request = request ∧
        run.siteArea.chargingStations.docs =
          lastChargingStations context siteArea excludedChargingStations := by
  obtain ⟨run, hrun, h⟩ := Outcome.bind_eq_ok.mp h
  obtain ⟨site, -, -, inError, excluded⟩ := runOptimizerRequest_ok hrun
  rw [site] at inError excluded
  rw [any_docs_buildRootFuse] at inError
  rw [inError] at h
  unfold lastChargingStations lastChargingStation
  cases retried : isRetried context siteArea excludedChargingStations with
  | false =>
      rw [retried] at h
      cases h
      refine ⟨siteArea, excludedChargingStations, run, hrun, rfl, ?_⟩
      rw [site, docs_buildRootFuse]
      rfl
  | true =>
      rw [retried] at h
      obtain ⟨retry, hretry, h⟩ := Outcome.bind_eq_ok.mp h
      cases h
      refine ⟨_, _, retry, hretry, rfl, ?_⟩
      rw [(runOptimizerRequest_ok hretry).1, docs_buildRootFuse, site, docs_buildRootFuse,
        excluded, flatMap_docs_buildRootFuse fun _ => stationsInError_of_eq_nil]
      exact filter_map_remaining_filter _ _ _

/-- **The IDs are apart** just when the first station of the last run gets no fuse. -/
theorem hasApartIDs_iff_of_buildOptimizerRequest
    (h : buildOptimizerRequest context siteArea excludedChargingStations = .ok request) :
    request.HasApartIDs ↔ LeavesFirstIDToRoot context siteArea excludedChargingStations := by
  obtain ⟨lastSiteArea, lastExcluded, run, hrun, rfl, stations⟩ := exists_lastRun h
  obtain ⟨fuseIDs, leafIDs, assignments⟩ := ids_of_runOptimizerRequest hrun
  rw [stations] at fuseIDs leafIDs
  have once : ∀ assignment ∈ run.request.carAssignments,
      run.request.leafIDs.count assignment.chargingStationID = 1 := by
    rw [assignments]
    intro assignment mem
    obtain ⟨id, isLeaf, rfl⟩ := List.mem_map.mp mem
    refine List.count_eq_one_of_mem ?_ isLeaf
    rw [leafIDs]
    exact Numbering.nodup_kept.sublist Numbering.members_sublist_kept
  unfold OptimizerChargingProfilesRequest.HasApartIDs LeavesFirstIDToRoot
  rw [and_iff_left once, fuseIDs, List.nodup_cons, and_iff_left Numbering.nodup_kept]
  cases lastChargingStations context siteArea excludedChargingStations with
  | nil => simp [Numbering.kept]
  | cons chargingStation rest =>
      rw [List.map_cons, Numbering.start_mem_kept_cons, not_not, numberOfFuses,
        List.countP_eq_zero]
      simp

end Counting

/-! ## A root fuse that is not alone with its ID -/

/-- Two connectors that share the power of a charge point. -/
def idleChargingStation : ChargingStation where
  id := "CS-21"
  chargePoints := [
    { chargePointID := 1
      amperage := 96
      numberOfConnectedPhase := 3
      sharePowerToAllConnectors := true
      connectorIDs := [1, 2] }]
  connectors := [
    { connectorId := 1, status := .charging, chargePointID := 1 },
    { connectorId := 2, status := .charging, chargePointID := 1 }]

/-- A site area of 64 A per phase. -/
def numberedSiteArea (chargingStations : List ChargingStation)
    (nodup : (chargingStations.map ChargingStation.id).Nodup)
    (apart : ∀ chargingStation ∈ chargingStations,
      (chargingStation.connectors.map Connector.connectorId).Nodup) : SiteArea where
  id := "SA-2"
  maximumPower := 44160
  voltage := 230
  numberOfPhases := 3
  chargingStations := ⟨chargingStations, nodup⟩
  apart := apart

/-- A retry leaves one connector of the first station, which has no session. -/
theorem hasApartIDs_iff_of_buildOptimizerRequest_idle :
    ∃ request, buildOptimizerRequest (exampleSmartChargingContext true)
        (numberedSiteArea [idleChargingStation, exampleChargingStation "CS-1" 1 true]
          (by decide) (by decide)) [] = .ok request ∧
      request.fuseIDs = [0, 1, 2] ∧ request.HasApartIDs := by
  have built : (buildOptimizerRequest (exampleSmartChargingContext true)
      (numberedSiteArea [idleChargingStation, exampleChargingStation "CS-1" 1 true]
        (by decide) (by decide)) []).toOption.map
      OptimizerChargingProfilesRequest.fuseIDs = some [0, 1, 2] := by
    decide +kernel
  obtain ⟨request, h, ids⟩ := Outcome.exists_ok_of_toOption_map built
  exact ⟨request, h, ids, (hasApartIDs_iff_of_buildOptimizerRequest h).mpr (by decide +kernel)⟩

/-- The only connector with a session has the ID of the root fuse. -/
theorem not_hasApartIDs_firstSession :
    ∃ request, buildOptimizerRequest (exampleSmartChargingContext true)
        (numberedSiteArea [exampleChargingStation "CS-1" 1 true] (by decide) (by decide)) [] =
        .ok request ∧
      request.fuseIDs = [0, 0, 1] ∧ ¬ request.HasApartIDs := by
  have built : (buildOptimizerRequest (exampleSmartChargingContext true)
      (numberedSiteArea [exampleChargingStation "CS-1" 1 true] (by decide) (by decide))
      []).toOption.map OptimizerChargingProfilesRequest.fuseIDs = some [0, 0, 1] := by
    decide +kernel
  obtain ⟨request, h, ids⟩ := Outcome.exists_ok_of_toOption_map built
  refine ⟨request, h, ids, fun apart => ?_⟩
  have nodup := apart.1
  rw [ids] at nodup
  revert nodup
  decide

end EvServer
