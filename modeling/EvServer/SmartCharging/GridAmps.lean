import EvServer.Lib.KeyedList
import EvServer.SmartCharging.OptimizerRequest

/-!
# Which connectors the root fuse accounts for

The root fuse should be what the site can draw, less what those of its connectors can draw that
are not in the fuse tree.  The connectors that the last run takes out are subtracted.  But the
connectors that a first run has taken out are no longer in the site area when the request is
built again, and a retry may leave a connector that is in neither place; and the amps of a
connector that is taken out are those of its station as it is read then.  The account is exact
just when these amount to nothing, or when the site has nothing left either way.
-/

namespace EvServer

/-- What connectors of a station can draw from the grid. -/
def gridAmps (numberOfPhases : ℕ) (chargingStation : ChargingStation)
    (connectors : List Connector) : PhaseAmps :=
  (connectors.map (connectorGridAmps numberOfPhases chargingStation)).sum

namespace OptimizerChargingProfilesRequest

/-- The connectors of a station without a fuse in the tree. -/
def connectorsOutsideTree (request : OptimizerChargingProfilesRequest)
    (chargingStation : ChargingStation) : List Connector :=
  chargingStation.connectors.filter fun connector =>
    (chargingStation.id, connector.connectorId) ∉ treeConnectors request.rootFuse.children

/-- What the connectors of the site area can draw that are not in the fuse tree. -/
def ampsOutsideTree (request : OptimizerChargingProfilesRequest) (siteArea : SiteArea) :
    PhaseAmps :=
  (siteArea.chargingStations.docs.map fun chargingStation =>
    gridAmps siteArea.numberOfPhases chargingStation
      (request.connectorsOutsideTree chargingStation)).sum

/-- The root fuse is what the connectors outside the fuse tree leave of the site. -/
def Accounts (context : SmartChargingContext) (siteArea : SiteArea)
    (request : OptimizerChargingProfilesRequest) : Prop :=
  ∀ phase, request.rootFuse.fusePhase phase =
    max 0 (siteMaxAmpsPerPhase context siteArea phase - request.ampsOutsideTree siteArea phase)

instance (context : SmartChargingContext) (siteArea : SiteArea)
    (request : OptimizerChargingProfilesRequest) : Decidable (request.Accounts context siteArea) :=
  inferInstanceAs (Decidable (∀ _, _ = _))

end OptimizerChargingProfilesRequest

/-! ## What a request leaves out of the account -/

/-- The connectors that are taken out of a station. -/
def takenOut (excludedChargingStations : List String) (chargingStation : ChargingStation) :
    List Connector :=
  (takenOutConnectors excludedChargingStations chargingStation []
    chargingStation.connectors).map Prod.snd

/-- What the connectors taken out of a station can draw beyond what they are read to draw, given
the station as it was at the start. -/
def misreadAmps (numberOfPhases : ℕ) (excludedChargingStations : List String)
    (atStart chargingStation : ChargingStation) : PhaseAmps :=
  gridAmps numberOfPhases atStart (takenOut excludedChargingStations chargingStation) -
    takenOffAmps excludedChargingStations chargingStation numberOfPhases

section Account

variable (context : SmartChargingContext) (siteArea : SiteArea)
  (excludedChargingStations : List String)

/-- A connector that the first run leaves has no transaction, so there is a retry. -/
def isRetried : Bool :=
  siteArea.chargingStations.docs.any fun chargingStation =>
    isInError context (remainingChargingStation excludedChargingStations chargingStation)

/-- The stations that the retry excludes. -/
def excludedByRetry : List String :=
  excludedChargingStations ++ siteArea.chargingStations.docs.flatMap fun chargingStation =>
    stationsInError context (remainingChargingStation excludedChargingStations chargingStation)

/-- What the last run takes off the root fuse. -/
def lastTakenOffAmps : PhaseAmps :=
  if isRetried context siteArea excludedChargingStations then
    (siteArea.chargingStations.docs.map fun chargingStation =>
      takenOffAmps (excludedByRetry context siteArea excludedChargingStations)
        (remainingChargingStation excludedChargingStations chargingStation)
        siteArea.numberOfPhases).sum
  else siteArea.takenOffAmps excludedChargingStations

/-- What a retry leaves out of the account of a station: the connectors that the first run has
taken out, and those without a transaction that the retry leaves. -/
def forgottenAmps (chargingStation : ChargingStation) : PhaseAmps :=
  gridAmps siteArea.numberOfPhases chargingStation
    (takenOut excludedChargingStations chargingStation ++
      (remainingChargingStation (excludedByRetry context siteArea excludedChargingStations)
        (remainingChargingStation excludedChargingStations
          chargingStation)).connectors.filter fun connector => !hasTransaction context connector)

/-- What is not accounted for. -/
def unaccountedAmps : PhaseAmps :=
  (siteArea.chargingStations.docs.map fun chargingStation =>
    if isRetried context siteArea excludedChargingStations then
      forgottenAmps context siteArea excludedChargingStations chargingStation +
        misreadAmps siteArea.numberOfPhases
          (excludedByRetry context siteArea excludedChargingStations) chargingStation
          (remainingChargingStation excludedChargingStations chargingStation)
    else
      misreadAmps siteArea.numberOfPhases excludedChargingStations chargingStation
        chargingStation).sum

/-- On each phase nothing is left out of the account, or the site has no amps left with it and
without it. -/
def LeavesNothingOut : Prop :=
  ∀ phase,
    unaccountedAmps context siteArea excludedChargingStations phase = 0 ∨
      siteMaxAmpsPerPhase context siteArea phase ≤
          lastTakenOffAmps context siteArea excludedChargingStations phase ∧
        siteMaxAmpsPerPhase context siteArea phase ≤
          lastTakenOffAmps context siteArea excludedChargingStations phase +
            unaccountedAmps context siteArea excludedChargingStations phase

end Account

/-! ## The connectors outside the tree -/

section Stations

variable {context : SmartChargingContext} {siteArea : SiteArea}
  {excludedChargingStations : List String}

/-- From a station without connectors none is taken out. -/
theorem takenOffAmps_of_connectors_eq_nil {chargingStation : ChargingStation} {phases : ℕ}
    (empty : chargingStation.connectors = []) :
    takenOffAmps excludedChargingStations chargingStation phases = 0 := by
  unfold takenOffAmps
  rw [empty]
  rfl

theorem connectors_remainingChargingStation_of_eq_nil {chargingStation : ChargingStation}
    (empty : chargingStation.connectors = []) :
    (remainingChargingStation excludedChargingStations chargingStation).connectors = [] := by
  unfold remainingChargingStation
  rw [empty]
  rfl

theorem connectorsWithTransaction_of_eq_nil {chargingStation : ChargingStation}
    (empty : chargingStation.connectors = []) :
    connectorsWithTransaction context chargingStation = [] := by
  unfold connectorsWithTransaction
  rw [empty]
  rfl

theorem stationsInError_of_eq_nil {chargingStation : ChargingStation}
    (empty : chargingStation.connectors = []) :
    stationsInError context chargingStation = [] := by
  unfold stationsInError
  rw [empty]
  rfl

/-- What is read off the stations that a run leaves is read off all of them, where a station
without connectors does not matter. -/
theorem flatMap_docs_buildRootFuse {α : Type} {f : ChargingStation → List α}
    (empty : ∀ chargingStation, chargingStation.connectors = [] → f chargingStation = []) :
    (buildRootFuse context siteArea 0 excludedChargingStations).2.chargingStations.docs.flatMap f =
      siteArea.chargingStations.docs.flatMap fun chargingStation =>
        f (remainingChargingStation excludedChargingStations chargingStation) := by
  rw [docs_buildRootFuse]
  induction siteArea.chargingStations.docs with
  | nil => rfl
  | cons chargingStation rest ih =>
      rw [List.map_cons, List.filter_cons, List.flatMap_cons, ← ih]
      split
      · rw [List.flatMap_cons]
      · rename_i isEmpty
        rw [empty _ (by simpa using isEmpty), List.nil_append]

/-- A retry takes off what it takes off from all of the stations. -/
theorem takenOffAmps_buildRootFuse (excludedByRetry : List String) :
    (buildRootFuse context siteArea 0 excludedChargingStations).2.takenOffAmps excludedByRetry =
      (siteArea.chargingStations.docs.map fun chargingStation =>
        takenOffAmps excludedByRetry
          (remainingChargingStation excludedChargingStations chargingStation)
          siteArea.numberOfPhases).sum := by
  unfold SiteArea.takenOffAmps
  rw [docs_buildRootFuse]
  change ((List.filter _ _).map fun chargingStation =>
    takenOffAmps excludedByRetry chargingStation siteArea.numberOfPhases).sum = _
  induction siteArea.chargingStations.docs with
  | nil => rfl
  | cons chargingStation rest ih =>
      rw [List.map_cons, List.filter_cons, List.map_cons, List.sum_cons, ← ih]
      split
      · rw [List.map_cons, List.sum_cons]
      · rename_i isEmpty
        rw [takenOffAmps_of_connectors_eq_nil (by simpa using isEmpty), zero_add]

/-- A run is in error when it leaves a connector without a transaction. -/
theorem any_docs_buildRootFuse :
    (buildRootFuse context siteArea 0 excludedChargingStations).2.chargingStations.docs.any
        (isInError context) =
      isRetried context siteArea excludedChargingStations := by
  unfold isRetried
  rw [docs_buildRootFuse, List.any_filter, List.any_map]
  refine congrArg _ (funext fun chargingStation => ?_)
  change (!(remainingChargingStation excludedChargingStations
    chargingStation).connectors.isEmpty && isInError context (remainingChargingStation
      excludedChargingStations chargingStation)) = isInError context (remainingChargingStation
      excludedChargingStations chargingStation)
  unfold isInError
  cases (remainingChargingStation excludedChargingStations chargingStation).connectors with
  | nil => rfl
  | cons connector rest => rfl

/-- The connectors of a station that are in the fuse tree, by those it is left with. -/
theorem mem_treeConnectors_iff {chargingStation : ChargingStation}
    (mem : chargingStation ∈ siteArea.chargingStations.docs) {connectorId : ℕ}
    {left : ChargingStation → ChargingStation} (sameID : ∀ old, (left old).id = old.id) :
    (chargingStation.id, connectorId) ∈
        siteArea.chargingStations.docs.flatMap
          (fun chargingStation => connectorsWithTransaction context (left chargingStation)) ↔
      connectorId ∈ ((left chargingStation).connectors.filter (hasTransaction context)).map
        Connector.connectorId := by
  rw [List.mem_flatMap]
  constructor
  · rintro ⟨other, memOther, inOther⟩
    obtain ⟨connector, has, equal⟩ := List.mem_map.mp inOther
    rw [Prod.mk.injEq, sameID] at equal
    have same := Collection.eq_of_key_eq memOther mem equal.1
    rw [same] at has
    exact List.mem_map.mpr ⟨connector, has, equal.2⟩
  · intro inStation
    obtain ⟨connector, has, rfl⟩ := List.mem_map.mp inStation
    refine ⟨chargingStation, mem, List.mem_map.mpr ⟨connector, has, ?_⟩⟩
    rw [sameID]

/-! ## The account -/

variable {request : OptimizerChargingProfilesRequest}

theorem gridAmps_append (numberOfPhases : ℕ) (chargingStation : ChargingStation)
    (first second : List Connector) :
    gridAmps numberOfPhases chargingStation (first ++ second) =
      gridAmps numberOfPhases chargingStation first +
        gridAmps numberOfPhases chargingStation second := by
  rw [gridAmps, List.map_append, List.sum_append]
  rfl

/-- The connectors of a station are those that have been taken out of it and those it is left
with; the ones outside the fuse tree are all but the latter that have their transaction. -/
theorem gridAmps_connectorsOutsideTree {out : List Connector}
    (left : ChargingStation → ChargingStation) (sameID : ∀ old, (left old).id = old.id)
    (tree : treeConnectors request.rootFuse.children = siteArea.chargingStations.docs.flatMap
      fun chargingStation => connectorsWithTransaction context (left chargingStation))
    {chargingStation : ChargingStation} (mem : chargingStation ∈ siteArea.chargingStations.docs)
    (split : (out ++ (left chargingStation).connectors).Perm chargingStation.connectors) :
    gridAmps siteArea.numberOfPhases chargingStation
        (request.connectorsOutsideTree chargingStation) =
      gridAmps siteArea.numberOfPhases chargingStation
        (out ++ (left chargingStation).connectors.filter fun connector =>
          !hasTransaction context connector) := by
  have outside := KeyedList.filter_notMem_keys_perm split (siteArea.apart chargingStation mem)
    (hasTransaction context)
  have same : request.connectorsOutsideTree chargingStation =
      chargingStation.connectors.filter fun connector => connector.connectorId ∉
        ((left chargingStation).connectors.filter (hasTransaction context)).map
          Connector.connectorId := by
    unfold OptimizerChargingProfilesRequest.connectorsOutsideTree
    rw [tree]
    refine List.filter_congr fun connector _ => decide_eq_decide.mpr (not_congr ?_)
    exact mem_treeConnectors_iff mem sameID
  rw [same]
  exact (outside.map _).sum_eq

/-- What the connectors taken out of a station can draw, by what they are read to draw. -/
theorem gridAmps_takenOut (numberOfPhases : ℕ) (atStart chargingStation : ChargingStation) :
    gridAmps numberOfPhases atStart (takenOut excludedChargingStations chargingStation) =
      takenOffAmps excludedChargingStations chargingStation numberOfPhases +
        misreadAmps numberOfPhases excludedChargingStations atStart chargingStation :=
  (add_sub_cancel _ _).symm

theorem takenOut_append_remaining (excludedChargingStations : List String)
    (chargingStation : ChargingStation) :
    (takenOut excludedChargingStations chargingStation ++
      (remainingChargingStation excludedChargingStations chargingStation).connectors).Perm
      chargingStation.connectors :=
  takenOut_append_remaining_perm [] chargingStation.connectors

/-- **The account of a request.**  What the connectors outside the fuse tree can draw is what the
last run has taken off and what is not accounted for; the root fuse is the site without the
former. -/
theorem account_of_buildOptimizerRequest
    (h : buildOptimizerRequest context siteArea excludedChargingStations = .ok request) :
    request.ampsOutsideTree siteArea =
        lastTakenOffAmps context siteArea excludedChargingStations +
          unaccountedAmps context siteArea excludedChargingStations ∧
      ∀ phase, request.rootFuse.fusePhase phase =
        max 0 (siteMaxAmpsPerPhase context siteArea phase -
          lastTakenOffAmps context siteArea excludedChargingStations phase) := by
  obtain ⟨run, hrun, h⟩ := Outcome.bind_eq_ok.mp h
  obtain ⟨site, fuse, tree, inError, excluded⟩ := runOptimizerRequest_ok hrun
  rw [site] at tree inError excluded
  rw [any_docs_buildRootFuse] at inError
  rw [inError] at h
  rw [flatMap_docs_buildRootFuse fun _ => connectorsWithTransaction_of_eq_nil] at tree
  rw [flatMap_docs_buildRootFuse fun _ => stationsInError_of_eq_nil] at excluded
  change _ = excludedByRetry context siteArea excludedChargingStations at excluded
  unfold OptimizerChargingProfilesRequest.ampsOutsideTree lastTakenOffAmps unaccountedAmps
  cases retried : isRetried context siteArea excludedChargingStations with
  | false =>
      rw [retried] at h
      cases h
      refine ⟨?_, fun phase => ?_⟩
      · refine Eq.trans ?_ List.sum_map_add
        refine congrArg List.sum (List.map_congr_left fun chargingStation mem => ?_)
        -- Every connector that is left has its transaction.
        have complete : ((remainingChargingStation excludedChargingStations
            chargingStation).connectors.filter fun connector =>
              !hasTransaction context connector) = [] := by
          rw [List.filter_eq_nil_iff]
          intro connector left missing
          have inError : isRetried context siteArea excludedChargingStations :=
            List.any_eq_true.mpr ⟨chargingStation, mem,
              List.any_eq_true.mpr ⟨connector, left, missing⟩⟩
          rw [retried] at inError
          cases inError
        rw [gridAmps_connectorsOutsideTree (remainingChargingStation excludedChargingStations)
          (fun _ => rfl) tree mem
          (takenOut_append_remaining excludedChargingStations chargingStation), complete,
        List.append_nil]
        exact gridAmps_takenOut _ _ _
      · rw [fuse]
        exact fusePhase_buildRootFuse context siteArea 0 excludedChargingStations phase
  | true =>
      rw [retried] at h
      obtain ⟨retry, hretry, h⟩ := Outcome.bind_eq_ok.mp h
      cases h
      obtain ⟨site', fuse', tree', -, -⟩ := runOptimizerRequest_ok hretry
      rw [site', site, excluded,
        flatMap_docs_buildRootFuse fun _ => connectorsWithTransaction_of_eq_nil,
        flatMap_docs_buildRootFuse fun _ empty => connectorsWithTransaction_of_eq_nil
          (connectors_remainingChargingStation_of_eq_nil empty)] at tree'
      refine ⟨?_, fun phase => ?_⟩
      · refine Eq.trans ?_ List.sum_map_add
        refine congrArg List.sum (List.map_congr_left fun chargingStation mem => ?_)
        -- The retry takes connectors out of what the first run has left of the station.
        have split := ((takenOut_append_remaining
            (excludedByRetry context siteArea excludedChargingStations)
            (remainingChargingStation excludedChargingStations chargingStation)).append_left
          (takenOut excludedChargingStations chargingStation)).trans
            (takenOut_append_remaining excludedChargingStations chargingStation)
        rw [← List.append_assoc] at split
        rw [gridAmps_connectorsOutsideTree (fun old => remainingChargingStation
            (excludedByRetry context siteArea excludedChargingStations)
            (remainingChargingStation excludedChargingStations old))
          (fun _ => rfl) tree' mem split]
        rw [if_pos rfl, forgottenAmps, gridAmps_append, gridAmps_append, gridAmps_append,
          gridAmps_takenOut _ chargingStation (remainingChargingStation _ _)]
        abel
      · rw [fuse', site, excluded, fusePhase_buildRootFuse, takenOffAmps_buildRootFuse]
        rfl

/-- Two amounts off the same site come to the same when they are equal or take all of it. -/
theorem max_sub_eq_max_sub_add_iff (site takenOff unaccounted : ℚ) :
    max 0 (site - takenOff) = max 0 (site - (takenOff + unaccounted)) ↔
      unaccounted = 0 ∨ site ≤ takenOff ∧ site ≤ takenOff + unaccounted := by
  constructor
  · intro same
    rcases le_total site takenOff with all | some
    · rw [max_eq_left (sub_nonpos.mpr all), eq_comm, max_eq_left_iff, sub_nonpos] at same
      exact .inr ⟨all, same⟩
    · rw [max_eq_right (sub_nonneg.mpr some)] at same
      rcases le_total site (takenOff + unaccounted) with all | some'
      · rw [max_eq_left (sub_nonpos.mpr all), sub_eq_zero] at same
        exact .inr ⟨same.le, all⟩
      · rw [max_eq_right (sub_nonneg.mpr some')] at same
        exact .inl (by linarith)
  · rintro (none | ⟨all, all'⟩)
    · rw [none, add_zero]
    · rw [max_eq_left (sub_nonpos.mpr all), max_eq_left (sub_nonpos.mpr all')]

/-- **The root fuse accounts for the connectors outside the fuse tree** just when the run that
built the request leaves nothing out of its account. -/
theorem accounts_iff_of_buildOptimizerRequest
    (h : buildOptimizerRequest context siteArea excludedChargingStations = .ok request) :
    request.Accounts context siteArea ↔
      LeavesNothingOut context siteArea excludedChargingStations := by
  obtain ⟨outside, fuse⟩ := account_of_buildOptimizerRequest h
  refine forall_congr' fun phase => ?_
  rw [fuse phase, outside]
  exact max_sub_eq_max_sub_add_iff _ _ _

end Stations

/-! ## A request that is built twice -/

/-- A station with one charge point of 48 A and one connector. -/
def exampleChargingStation (id : String) (transactionID : ℕ) (supportChargingProfiles : Bool) :
    ChargingStation where
  id := id
  supportChargingProfiles := supportChargingProfiles
  chargePoints := [
    { chargePointID := 1, amperage := 48, numberOfConnectedPhase := 3, connectorIDs := [1] }]
  connectors := [
    { connectorId := 1
      status := .charging
      chargePointID := 1
      currentTransactionID := transactionID }]

/-- A site area of 32 A per phase; the first of its stations does not support charging profiles. -/
def exampleSiteArea : SiteArea where
  id := "SA-1"
  maximumPower := 22080
  voltage := 230
  numberOfPhases := 3
  chargingStations := ⟨[exampleChargingStation "CS-1" 1 false, exampleChargingStation "CS-2" 2 true],
    by decide⟩
  apart := by decide

/-- A transaction on connector 1. -/
def exampleSmartChargingTransaction (id : ℕ) (chargeBoxID : String) : Transaction where
  id := id
  chargeBoxID := chargeBoxID
  connectorId := 1
  tagID := "TAG"
  meterStart := 0
  timestamp := 0

/-- Transaction 1 runs on the first station; the one on the second is known or is not. -/
def exampleSmartChargingContext (known : Bool) : SmartChargingContext where
  transactions :=
    ⟨exampleSmartChargingTransaction 1 "CS-1" ::
      if known then [exampleSmartChargingTransaction 2 "CS-2"] else [], by
        cases known <;> decide⟩

/-- The amps of the first station are subtracted when both transactions are known. -/
theorem accounts_iff_of_buildOptimizerRequest_known :
    ∃ request, buildOptimizerRequest (exampleSmartChargingContext true) exampleSiteArea [] =
        .ok request ∧
      request.rootFuse.fusePhase .phase1 = 16 ∧
      LeavesNothingOut (exampleSmartChargingContext true) exampleSiteArea [] := by
  have built : (buildOptimizerRequest (exampleSmartChargingContext true) exampleSiteArea
      []).toOption.map (fun request => (request.rootFuse.fusePhase .phase1,
        decide (request.Accounts (exampleSmartChargingContext true) exampleSiteArea))) =
      some (16, true) := by
    decide +kernel
  obtain ⟨request, h, amps⟩ := Outcome.exists_ok_of_toOption_map built
  rw [Prod.mk.injEq, decide_eq_true_eq] at amps
  exact ⟨request, h, amps.1, (accounts_iff_of_buildOptimizerRequest h).mp amps.2⟩

/-- When the transaction on the second station is not known, the retry subtracts that station
only: 16 A are left although both stations draw 16 A outside the fuse tree. -/
theorem forgets_first_run :
    ∃ request, buildOptimizerRequest (exampleSmartChargingContext false) exampleSiteArea [] =
        .ok request ∧
      request.rootFuse.fusePhase .phase1 = 16 ∧
      request.ampsOutsideTree exampleSiteArea .phase1 = 32 ∧
      ¬ request.Accounts (exampleSmartChargingContext false) exampleSiteArea := by
  have built : (buildOptimizerRequest (exampleSmartChargingContext false) exampleSiteArea
      []).toOption.map (fun request => (request.rootFuse.fusePhase .phase1,
        request.ampsOutsideTree exampleSiteArea .phase1,
        decide (request.Accounts (exampleSmartChargingContext false) exampleSiteArea))) =
      some (16, 32, false) := by
    decide +kernel
  obtain ⟨request, h, amps⟩ := Outcome.exists_ok_of_toOption_map built
  rw [Prod.mk.injEq, Prod.mk.injEq, decide_eq_false_iff_not] at amps
  exact ⟨request, h, amps⟩

end EvServer
