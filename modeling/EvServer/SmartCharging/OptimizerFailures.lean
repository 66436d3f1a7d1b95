import EvServer.SmartCharging.GridLoad

/-!
# When the request to the optimizer is built

Nothing that the loops of `buildOptimizerRequest` read off valid stations throws, but for one
case.  Of a charge point that cannot charge in parallel, each connector is given no amps as soon
as two of them are charging, and a connector without amps is taken for one whose amperage is
not known.  The request of the whole site area is then given up.

The connectors of such a charge point that the loops meet are all of them, or all but the last
one where smart charging has no hold on the charge point.
-/

namespace EvServer

/-- The station has the data that smart charging reads: its charge points and connectors refer to
one another, and each connector has an amperage. -/
structure ChargingStation.IsValid (chargingStation : ChargingStation) : Prop
    extends chargingStation.IsLaidOut where
  /-- A connector may leave its amperage to its charge point. -/
  chargePoint_amperage : ∀ connector ∈ chargingStation.connectors, connector.chargePointID ≠ 0 →
    ∃ chargePoint ∈ chargingStation.chargePoints,
      chargePoint.chargePointID = connector.chargePointID ∧
        (connector.amperage ≠ 0 ∨ chargePoint.amperage ≠ 0)
  connector_amperage : ∀ connector ∈ chargingStation.connectors, connector.chargePointID = 0 →
    connector.numberOfConnectedPhase ≠ 0 ∧ connector.amperage ≠ 0

/-- The connectors of a shared charge point that the loops meet. -/
def connectorsLeft (excludedChargingStations : List String) (chargingStation : ChargingStation)
    (chargePoint : ChargePoint) : List Connector :=
  if isUnsupported excludedChargingStations chargingStation (some chargePoint) then
    (connectorsOfChargePoint chargingStation chargePoint).dropLast
  else connectorsOfChargePoint chargingStation chargePoint

/-- The sessions of a charge point abort the request: it cannot charge in parallel, several of
its connectors are charging, and one of its connectors has its transaction. -/
def sessionsAbort (context : SmartChargingContext) (excludedChargingStations : List String)
    (chargingStation : ChargingStation) (chargePoint : ChargePoint) : Bool :=
  chargePoint.cannotChargeInParallel &&
    1 < (connectorsLeft excludedChargingStations chargingStation chargePoint).countP
      connectorIsCharging &&
    (connectorsLeft excludedChargingStations chargingStation chargePoint).any
      (hasTransaction context)

/-- The charge point of a connector leaves it no amps. -/
def isAnnihilated (chargingStation : ChargingStation) (connector : Connector) : Bool :=
  (connector.chargePoint? chargingStation).any fun chargePoint =>
    chargePoint.cannotChargeInParallel &&
      1 < numberOfConnectorsCurrentlyCharging chargingStation chargePoint

section Station

variable {chargingStation : ChargingStation} {chargePoint : ChargePoint} {connector : Connector}
  {excludedChargingStations : List String}

namespace ChargingStation.IsValid

/-- A station is valid still when connectors are taken out of it. -/
theorem sublist (valid : chargingStation.IsValid) {connectors : List Connector}
    (left : connectors.Sublist chargingStation.connectors) :
    { chargingStation with connectors }.IsValid where
  toIsLaidOut := valid.toIsLaidOut.sublist left
  chargePoint_amperage connector mem := valid.chargePoint_amperage connector (left.subset mem)
  connector_amperage connector mem := valid.connector_amperage connector (left.subset mem)

theorem remaining (valid : chargingStation.IsValid) (excludedChargingStations : List String) :
    (remainingChargingStation excludedChargingStations chargingStation).IsValid :=
  valid.sublist (remainingConnectors_sublist _)

end ChargingStation.IsValid

/-! ## The connectors that the loops meet -/

/-- Of a shared charge point that is not supported the last connector is taken out. -/
theorem filter_remainingConnectors (shared : chargePoint.isShared)
    (found : ∀ connector : Connector, connector.chargePointID = chargePoint.chargePointID →
      connector.chargePoint? chargingStation = some chargePoint) (connectors : List Connector) :
    (remainingConnectors excludedChargingStations chargingStation connectors).filter
        (fun connector => connector.chargePointID = chargePoint.chargePointID) =
      if isUnsupported excludedChargingStations chargingStation (some chargePoint) then
        (connectors.filter fun connector =>
          connector.chargePointID = chargePoint.chargePointID).dropLast
      else connectors.filter fun connector =>
        connector.chargePointID = chargePoint.chargePointID := by
  induction connectors with
  | nil => split <;> rfl
  | cons connector rest ih =>
      rw [remainingConnectors]
      by_cases same : connector.chargePointID = chargePoint.chargePointID
      · have keeps : ∀ others : List Connector, (connector :: others).filter (fun connector =>
              connector.chargePointID = chargePoint.chargePointID) =
            connector :: others.filter fun connector =>
              connector.chargePointID = chargePoint.chargePointID :=
          fun _ => List.filter_cons_of_pos (decide_eq_true same)
        rw [keeps rest]
        cases unsupported : isUnsupported excludedChargingStations chargingStation
            (some chargePoint) with
        | false =>
            have stays : isTakenOut excludedChargingStations chargingStation rest connector =
                false := by
              unfold isTakenOut
              rw [found connector same, unsupported, Bool.false_and]
            rw [unsupported] at ih
            rw [stays, if_neg Bool.false_ne_true, if_neg Bool.false_ne_true,
              keeps, ih, if_neg Bool.false_ne_true]
        | true =>
            have taken : isTakenOut excludedChargingStations chargingStation rest connector ↔ _ :=
              isTakenOut_iff (found connector same) unsupported
            rw [unsupported, if_pos rfl] at ih
            rw [if_pos rfl]
            by_cases later : ∃ other ∈ rest, other.chargePointID = connector.chargePointID
            · -- A later connector stands for this one.
              have nonempty : rest.filter (fun connector =>
                  connector.chargePointID = chargePoint.chargePointID) ≠ [] := by
                obtain ⟨other, mem, sameOther⟩ := later
                exact List.ne_nil_of_mem
                  (List.mem_filter.mpr ⟨mem, decide_eq_true (sameOther.trans same)⟩)
              rw [if_neg fun isTaken => taken.mp isTaken ⟨shared, later⟩,
                keeps, ih, List.dropLast_cons_of_ne_nil nonempty]
            · have empty : rest.filter (fun connector =>
                  connector.chargePointID = chargePoint.chargePointID) = [] :=
                List.filter_eq_nil_iff.mpr fun other mem sameOther =>
                  later ⟨other, mem, (of_decide_eq_true sameOther).trans same.symm⟩
              rw [if_pos (taken.mpr fun stands => later stands.2), ih, empty]
              rfl
      · have drops : ∀ others : List Connector, (connector :: others).filter (fun connector =>
              connector.chargePointID = chargePoint.chargePointID) =
            others.filter fun connector =>
              connector.chargePointID = chargePoint.chargePointID :=
          fun _ => List.filter_cons_of_neg (by simpa using same)
        rw [drops rest, ← ih]
        split
        · rfl
        · exact drops _

/-- The connectors of a shared charge point that are left. -/
theorem connectorsOfChargePoint_remaining (valid : chargingStation.IsValid)
    (memPoint : chargePoint ∈ chargingStation.chargePoints) (shared : chargePoint.isShared) :
    connectorsOfChargePoint (remainingChargingStation excludedChargingStations chargingStation)
        chargePoint =
      connectorsLeft excludedChargingStations chargingStation chargePoint :=
  filter_remainingConnectors shared (fun _ same => valid.chargePoint?_eq memPoint same) _

/-- Without some connectors no more of a charge point are charging. -/
theorem numberOfConnectorsCurrentlyCharging_remaining_le (valid : chargingStation.IsValid)
    (memPoint : chargePoint ∈ chargingStation.chargePoints) :
    numberOfConnectorsCurrentlyCharging
        (remainingChargingStation excludedChargingStations chargingStation) chargePoint ≤
      numberOfConnectorsCurrentlyCharging chargingStation chargePoint := by
  rw [numberOfConnectorsCurrentlyCharging_of_isLaidOut (valid.remaining _).toIsLaidOut memPoint,
    numberOfConnectorsCurrentlyCharging_of_isLaidOut valid.toIsLaidOut memPoint]
  exact ((remainingConnectors_sublist _).filter _).countP_le

/-- A connector that is annihilated when others have been taken out was so before. -/
theorem isAnnihilated_of_remaining (valid : chargingStation.IsValid)
    (annihilated : isAnnihilated
      (remainingChargingStation excludedChargingStations chargingStation) connector) :
    isAnnihilated chargingStation connector := by
  obtain ⟨chargePoint, found, annihilates⟩ := (Option.any_eq_true _ _).mp annihilated
  have found' : connector.chargePoint? chargingStation = some chargePoint := found
  obtain ⟨-, memPoint, -⟩ := Connector.chargePoint?_eq_some found'
  rw [Bool.and_eq_true, decide_eq_true_eq] at annihilates
  unfold isAnnihilated
  rw [found', Option.any_some, Bool.and_eq_true, decide_eq_true_eq]
  exact ⟨annihilates.1, annihilates.2.trans_le
    (numberOfConnectorsCurrentlyCharging_remaining_le valid memPoint)⟩

/-! ## What throws -/

/-- A connector of a valid station has an amperage. -/
theorem amperageOf_ne_zero (valid : chargingStation.IsValid)
    (memPoint : chargePoint ∈ chargingStation.chargePoints)
    (mem : connector ∈ chargingStation.connectors)
    (same : connector.chargePointID = chargePoint.chargePointID)
    (amps : connector.amperage ≠ 0 ∨ chargePoint.amperage ≠ 0) :
    chargePoint.amperageOf connector ≠ 0 := by
  have isOf := (valid.mem_connectorIDs_iff chargePoint memPoint connector mem).mpr same
  have length : (chargePoint.connectorIDs.length : ℚ) ≠ 0 :=
    Nat.cast_ne_zero.mpr (List.length_pos_of_mem isOf).ne'
  unfold ChargePoint.amperageOf
  split
  · rename_i unset
    exact amps.resolve_right (not_not.mpr unset)
  · rename_i set
    split
    · split
      · assumption
      · exact set
    · exact div_ne_zero set length

/-- What a charge point leaves a connector is no current just when it annihilates it. -/
theorem shareAmps_eq_zero_iff (chargePoint : ChargePoint) (charging : ℕ) {totalAmps : ℚ}
    (amps : totalAmps ≠ 0) :
    shareAmps chargePoint charging totalAmps = 0 ↔
      chargePoint.cannotChargeInParallel ∧ 1 < charging := by
  unfold shareAmps
  split
  · rename_i shares
    rw [Bool.and_eq_true, decide_eq_true_eq] at shares
    have positive : (charging : ℚ) ≠ 0 := Nat.cast_ne_zero.mpr (by omega)
    split
    · rename_i annihilates
      rw [Bool.and_eq_true, decide_eq_true_eq] at annihilates
      exact iff_of_true rfl annihilates
    · rename_i annihilates
      rw [Bool.and_eq_true, decide_eq_true_eq] at annihilates
      refine iff_of_false ?_ annihilates
      split
      · exact div_ne_zero amps positive
      · exact amps
  · rename_i shares
    refine iff_of_false amps fun annihilates => shares ?_
    rw [ChargePoint.isShared, annihilates.1, Bool.or_true, Bool.true_and, decide_eq_true_eq]
    exact annihilates.2.le

/-- The amps of a connector of a valid station are known unless it is annihilated. -/
theorem exists_getConnectorNbrOfPhasesAndAmps_iff (siteArea : SiteArea)
    (valid : chargingStation.IsValid) (mem : connector ∈ chargingStation.connectors) :
    (∃ connectorAmps,
        getConnectorNbrOfPhasesAndAmps siteArea chargingStation connector = .ok connectorAmps) ↔
      isAnnihilated chargingStation connector = false := by
  by_cases has : connector.chargePointID = 0
  · obtain ⟨phases, amps⟩ := valid.connector_amperage connector mem has
    have none : connector.chargePoint? chargingStation = none := if_neg (not_not.mpr has)
    have read : readConnectorAmps chargingStation connector =
        .ok ⟨connector.numberOfConnectedPhase, connector.amperage⟩ := if_neg (not_not.mpr has)
    unfold isAnnihilated getConnectorNbrOfPhasesAndAmps
    rw [none, read, Outcome.ok_bind, if_neg phases, if_neg amps]
    exact iff_of_true ⟨_, rfl⟩ rfl
  · obtain ⟨chargePoint, memPoint, same, amps⟩ := valid.chargePoint_amperage connector mem has
    have found := valid.chargePoint?_eq memPoint same.symm
    have byID : Utils.getChargePointFromID chargingStation connector.chargePointID =
        some chargePoint :=
      same ▸ Utils.getChargePointFromID_of_isLaidOut valid.toIsLaidOut memPoint
    have read : readConnectorAmps chargingStation connector = .ok {
        numberOfConnectedPhase := Utils.getNumberOfConnectedPhases chargingStation
          (some chargePoint) connector.connectorId
        totalAmps := shareAmps chargePoint
          (numberOfConnectorsCurrentlyCharging chargingStation chargePoint)
          (chargePoint.amperageOf connector) } := by
      unfold readConnectorAmps
      rw [if_pos has, byID, ← Utils.getChargingStationAmperage_of_isLaidOut valid.toIsLaidOut
        memPoint mem same.symm]
    have phases := Utils.getNumberOfConnectedPhases_ne_zero chargingStation (some chargePoint)
      connector.connectorId
    have shared := shareAmps_eq_zero_iff chargePoint
      (numberOfConnectorsCurrentlyCharging chargingStation chargePoint)
      (amperageOf_ne_zero valid memPoint mem same.symm amps)
    unfold isAnnihilated getConnectorNbrOfPhasesAndAmps
    rw [found, read, Outcome.ok_bind, if_neg phases, Option.any_some, Bool.eq_false_iff, ne_eq,
      Bool.and_eq_true, decide_eq_true_eq, ← shared]
    split
    · rename_i zero
      exact iff_of_false (fun ⟨_, h⟩ => nomatch h) (not_not.mpr zero)
    · rename_i nonzero
      exact iff_of_true ⟨_, rfl⟩ nonzero

/-- A connector of a valid station gets its fuse unless it is annihilated. -/
theorem exists_buildChargingStationConnectorFuse_iff (siteArea : SiteArea) (fuseID : ℕ)
    (valid : chargingStation.IsValid) (mem : connector ∈ chargingStation.connectors) :
    (∃ fuse, buildChargingStationConnectorFuse siteArea fuseID chargingStation connector =
        .ok fuse) ↔
      isAnnihilated chargingStation connector = false := by
  rw [← exists_getConnectorNbrOfPhasesAndAmps_iff siteArea valid mem]
  constructor
  · rintro ⟨fuse, h⟩
    obtain ⟨connectorAmps, amps, -⟩ := Outcome.bind_eq_ok.mp h
    exact ⟨connectorAmps, amps⟩
  · rintro ⟨connectorAmps, amps⟩
    exact ⟨_, Outcome.bind_eq_ok.mpr ⟨connectorAmps, amps, rfl⟩⟩

end Station

/-! ## The runs -/

section Request

variable {context : SmartChargingContext} {siteArea : SiteArea} {chargingStation : ChargingStation}
  {excludedChargingStations : List String}

/-- A connector of the station has its transaction and no amps. -/
def hasAnnihilated (context : SmartChargingContext) (chargingStation : ChargingStation) : Bool :=
  chargingStation.connectors.any fun connector =>
    hasTransaction context connector && isAnnihilated chargingStation connector

variable (context siteArea) in
/-- One turn of the loop through the connectors of a valid station. -/
theorem exists_addConnectorFuse_iff (valid : chargingStation.IsValid) {connector : Connector}
    (mem : connector ∈ chargingStation.connectors) (s : ConnectorFusesState) :
    (∃ t, addConnectorFuse context siteArea chargingStation s connector = .ok t) ↔
      (hasTransaction context connector && isAnnihilated chargingStation connector) = false := by
  unfold addConnectorFuse hasTransaction
  cases getTransactionFromChargingConnector context connector with
  | none => exact iff_of_true ⟨_, rfl⟩ rfl
  | some transaction =>
      rw [Option.isSome_some, Bool.true_and,
        ← exists_buildChargingStationConnectorFuse_iff siteArea s.request.fuseID valid mem]
      constructor
      · rintro ⟨t, h⟩
        obtain ⟨fuse, built, -⟩ := Outcome.bind_eq_ok.mp h
        exact ⟨fuse, built⟩
      · rintro ⟨fuse, built⟩
        exact ⟨_, Outcome.bind_eq_ok.mpr ⟨fuse, built, rfl⟩⟩

variable (context siteArea) in
/-- One turn of the loop through valid stations. -/
theorem exists_addChargingStationFuse_iff (valid : chargingStation.IsValid)
    (s : OptimizerRequestState) :
    (∃ t, addChargingStationFuse context siteArea s chargingStation = .ok t) ↔
      hasAnnihilated context chargingStation = false := by
  have connectors := Outcome.exists_foldlM_eq_ok_iff (fun _ mem =>
    exists_addConnectorFuse_iff context siteArea valid mem) { request := s }
  simp only [hasAnnihilated, List.any_eq_false, Bool.not_eq_true]
  rw [← connectors]
  constructor
  · rintro ⟨t, h⟩
    obtain ⟨added, hadded, -⟩ := Outcome.bind_eq_ok.mp h
    exact ⟨added, hadded⟩
  · rintro ⟨added, hadded⟩
    exact ⟨_, Outcome.bind_eq_ok.mpr ⟨added, hadded, rfl⟩⟩

variable (context excludedChargingStations) in
/-- The site area that the root fuse leaves has valid stations. -/
theorem forall_isValid_buildRootFuse
    (valid : ∀ chargingStation ∈ siteArea.chargingStations.docs, chargingStation.IsValid) :
    ∀ chargingStation ∈ (buildRootFuse context siteArea 0
      excludedChargingStations).2.chargingStations.docs, chargingStation.IsValid := by
  intro chargingStation mem
  rw [docs_buildRootFuse] at mem
  obtain ⟨old, memOld, rfl⟩ := List.mem_map.mp (List.mem_filter.mp mem).1
  exact (valid old memOld).remaining _

variable (context excludedChargingStations) in
/-- A station without connectors that are left has none without amps. -/
theorem any_hasAnnihilated_buildRootFuse :
    (∀ chargingStation ∈ (buildRootFuse context siteArea 0
        excludedChargingStations).2.chargingStations.docs,
        hasAnnihilated context chargingStation = false) ↔
      ∀ chargingStation ∈ siteArea.chargingStations.docs,
        hasAnnihilated context
          (remainingChargingStation excludedChargingStations chargingStation) = false := by
  rw [docs_buildRootFuse]
  constructor
  · intro none chargingStation mem
    cases empty : (remainingChargingStation excludedChargingStations
        chargingStation).connectors.isEmpty with
    | true =>
        unfold hasAnnihilated
        rw [List.isEmpty_iff.mp empty, List.any_nil]
    | false =>
        exact none _ (List.mem_filter.mpr ⟨List.mem_map_of_mem mem, by rw [empty]; rfl⟩)
  · intro none chargingStation mem
    obtain ⟨old, memOld, rfl⟩ := List.mem_map.mp (List.mem_filter.mp mem).1
    exact none old memOld

/-- **One run.**  It throws for an invalid site area, and for a connector that has its
transaction and no amps. -/
theorem exists_runOptimizerRequest_iff
    (valid : ∀ chargingStation ∈ siteArea.chargingStations.docs, chargingStation.IsValid) :
    (∃ run, runOptimizerRequest context siteArea excludedChargingStations = .ok run) ↔
      checkIfSiteAreaIsValid siteArea = .ok () ∧
        ∀ chargingStation ∈ siteArea.chargingStations.docs,
          hasAnnihilated context
            (remainingChargingStation excludedChargingStations chargingStation) = false := by
  have validLeft := forall_isValid_buildRootFuse context excludedChargingStations valid
  have stations := Outcome.exists_foldlM_eq_ok_iff (fun chargingStation mem =>
    exists_addChargingStationFuse_iff context
      (buildRootFuse context siteArea 0 excludedChargingStations).2
      (validLeft chargingStation mem)) { excludedChargingStations }
  rw [← any_hasAnnihilated_buildRootFuse, ← stations]
  constructor
  · rintro ⟨run, h⟩
    obtain ⟨_, checked, h⟩ := Outcome.bind_eq_ok.mp h
    obtain ⟨state, hstate, -⟩ := Outcome.bind_eq_ok.mp h
    exact ⟨checked, state, hstate⟩
  · rintro ⟨checked, state, hstate⟩
    exact ⟨_, Outcome.bind_eq_ok.mpr ⟨(), checked,
      Outcome.bind_eq_ok.mpr ⟨state, hstate, rfl⟩⟩⟩

/-- What a run leaves without a connector of no amps has none in the retry either. -/
theorem hasAnnihilated_remaining (valid : chargingStation.IsValid)
    (none : hasAnnihilated context chargingStation = false) :
    hasAnnihilated context
      (remainingChargingStation excludedChargingStations chargingStation) = false := by
  unfold hasAnnihilated at none ⊢
  rw [List.any_eq_false] at none ⊢
  intro connector mem annihilated
  rw [Bool.and_eq_true] at annihilated
  refine none connector ((remainingConnectors_sublist _).subset mem) ?_
  rw [Bool.and_eq_true]
  exact ⟨annihilated.1, isAnnihilated_of_remaining valid annihilated.2⟩

/-- The retry throws only where the first run has. -/
theorem exists_buildOptimizerRequest_iff_run
    (valid : ∀ chargingStation ∈ siteArea.chargingStations.docs, chargingStation.IsValid) :
    (∃ request, buildOptimizerRequest context siteArea excludedChargingStations = .ok request) ↔
      ∃ run, runOptimizerRequest context siteArea excludedChargingStations = .ok run := by
  constructor
  · rintro ⟨request, h⟩
    obtain ⟨run, hrun, -⟩ := Outcome.bind_eq_ok.mp h
    exact ⟨run, hrun⟩
  · rintro ⟨run, hrun⟩
    obtain ⟨checked, none⟩ := (exists_runOptimizerRequest_iff valid).mp ⟨run, hrun⟩
    have left := (runOptimizerRequest_ok hrun).1
    have retry : ∃ retried, runOptimizerRequest context run.siteArea
        run.excludedChargingStations = .ok retried := by
      rw [left]
      have validLeft := forall_isValid_buildRootFuse context excludedChargingStations valid
      refine (exists_runOptimizerRequest_iff validLeft).mpr ⟨checked, ?_⟩
      intro chargingStation mem
      exact hasAnnihilated_remaining (validLeft chargingStation mem)
        ((any_hasAnnihilated_buildRootFuse _ _).mpr none chargingStation mem)
    obtain ⟨retried, hretried⟩ := retry
    unfold buildOptimizerRequest
    rw [hrun, Outcome.ok_bind]
    split
    · rw [hretried]
      exact ⟨_, rfl⟩
    · exact ⟨_, rfl⟩

/-- A connector that is left has its transaction and no amps just when the sessions of some
charge point abort the request. -/
theorem hasAnnihilated_remaining_eq (valid : chargingStation.IsValid) :
    hasAnnihilated context (remainingChargingStation excludedChargingStations chargingStation) =
      chargingStation.chargePoints.any
        (sessionsAbort context excludedChargingStations chargingStation) := by
  have left := valid.remaining excludedChargingStations
  -- The charge points are the same, and each has the connectors that are left of it.
  have counted : ∀ chargePoint ∈ chargingStation.chargePoints, chargePoint.cannotChargeInParallel →
      numberOfConnectorsCurrentlyCharging
          (remainingChargingStation excludedChargingStations chargingStation) chargePoint =
        (connectorsLeft excludedChargingStations chargingStation chargePoint).countP
          connectorIsCharging := by
    intro chargePoint memPoint alone
    rw [numberOfConnectorsCurrentlyCharging_of_isLaidOut left.toIsLaidOut memPoint,
      connectorsOfChargePoint_remaining valid memPoint
        (by rw [ChargePoint.isShared, alone, Bool.or_true])]
  rw [Bool.eq_iff_iff, hasAnnihilated, List.any_eq_true, List.any_eq_true]
  constructor
  · rintro ⟨connector, mem, annihilated⟩
    rw [Bool.and_eq_true] at annihilated
    obtain ⟨has, annihilated⟩ := annihilated
    obtain ⟨chargePoint, found, annihilates⟩ := (Option.any_eq_true _ _).mp annihilated
    rw [Bool.and_eq_true, decide_eq_true_eq] at annihilates
    obtain ⟨alone, several⟩ := annihilates
    obtain ⟨-, memPoint, same⟩ := Connector.chargePoint?_eq_some found
    have memLeft : connector ∈
        connectorsLeft excludedChargingStations chargingStation chargePoint := by
      rw [← connectorsOfChargePoint_remaining valid memPoint
        (by rw [ChargePoint.isShared, alone, Bool.or_true])]
      exact mem_connectorsOfChargePoint.mpr
        ⟨mem, same.symm⟩
    refine ⟨chargePoint, memPoint, ?_⟩
    unfold sessionsAbort
    rw [Bool.and_eq_true, Bool.and_eq_true, decide_eq_true_eq, ← counted chargePoint memPoint alone]
    exact ⟨⟨alone, several⟩, List.any_eq_true.mpr ⟨connector, memLeft, has⟩⟩
  · rintro ⟨chargePoint, memPoint, aborts⟩
    unfold sessionsAbort at aborts
    rw [Bool.and_eq_true, Bool.and_eq_true, decide_eq_true_eq] at aborts
    obtain ⟨⟨alone, several⟩, some⟩ := aborts
    obtain ⟨connector, memLeft, has⟩ := List.any_eq_true.mp some
    rw [← connectorsOfChargePoint_remaining valid memPoint
      (by rw [ChargePoint.isShared, alone, Bool.or_true])] at memLeft
    obtain ⟨mem, same⟩ := mem_connectorsOfChargePoint.mp memLeft
    refine ⟨connector, mem, ?_⟩
    unfold isAnnihilated
    rw [has, Bool.true_and, left.chargePoint?_eq memPoint same, Option.any_some, Bool.and_eq_true,
      decide_eq_true_eq, counted chargePoint memPoint alone]
    exact ⟨alone, several⟩

/-- **The request.**  For valid stations it is built just when the site area is valid and the
sessions of no charge point abort it. -/
theorem exists_buildOptimizerRequest_iff
    (valid : ∀ chargingStation ∈ siteArea.chargingStations.docs, chargingStation.IsValid) :
    (∃ request, buildOptimizerRequest context siteArea excludedChargingStations = .ok request) ↔
      checkIfSiteAreaIsValid siteArea = .ok () ∧
        ∀ chargingStation ∈ siteArea.chargingStations.docs,
          ∀ chargePoint ∈ chargingStation.chargePoints,
            sessionsAbort context excludedChargingStations chargingStation chargePoint =
              false := by
  rw [exists_buildOptimizerRequest_iff_run valid, exists_runOptimizerRequest_iff valid]
  refine and_congr_right fun _ => forall₂_congr fun chargingStation mem => ?_
  rw [hasAnnihilated_remaining_eq (valid chargingStation mem), List.any_eq_false]
  exact forall₂_congr fun _ _ => Bool.not_eq_true _ ▸ Iff.rfl

end Request

/-! ## Two sessions of a charge point that cannot charge in parallel -/

/-- A station of 32 A whose connectors cannot charge in parallel; the given ones are charging. -/
def alternatingChargingStation (id : String) (transactionID : ℕ) (connectorIDs : List ℕ) :
    ChargingStation where
  id := id
  chargePoints := [
    { chargePointID := 1
      amperage := 32
      numberOfConnectedPhase := 3
      cannotChargeInParallel := true
      connectorIDs := [1, 2] }]
  connectors := connectorIDs.map fun connectorId =>
    { connectorId
      status := .charging
      chargePointID := 1
      currentTransactionID := transactionID + connectorId }

/-- The connectors of the first station that are charging are given; of the second it is one. -/
def alternatingSiteArea (connectorIDs : List ℕ) (nodup : connectorIDs.Nodup) : SiteArea where
  id := "SA-1"
  maximumPower := 22080
  voltage := 230
  numberOfPhases := 3
  chargingStations :=
    ⟨[alternatingChargingStation "CS-1" 60 connectorIDs, alternatingChargingStation "CS-2" 70 [1]],
      by simp [alternatingChargingStation]⟩
  apart := by
    refine List.forall_mem_cons.mpr ⟨?_, List.forall_mem_singleton.mpr (by decide)⟩
    rwa [alternatingChargingStation, List.map_map, Function.comp_def, List.map_id']

/-- The transactions on the three connectors. -/
def alternatingContext : SmartChargingContext where
  transactions :=
    ⟨[exampleSmartChargingTransaction 61 "CS-1",
      { exampleSmartChargingTransaction 62 "CS-1" with connectorId := 2 },
      exampleSmartChargingTransaction 71 "CS-2"], by decide⟩

theorem isValid_alternatingChargingStation (id : String) (transactionID : ℕ) {connectorIDs : List ℕ}
    (nodup : connectorIDs.Nodup) (known : ∀ connectorID ∈ connectorIDs, connectorID ∈ [1, 2]) :
    (alternatingChargingStation id transactionID connectorIDs).IsValid where
  chargePoints_nodup := by simp [alternatingChargingStation]
  connectors_nodup := by
    rwa [alternatingChargingStation, List.map_map, Function.comp_def, List.map_id']
  chargePointID_ne_zero := by simp [alternatingChargingStation]
  connectorId_ne_zero := by
    intro connector mem
    obtain ⟨connectorID, isIn, rfl⟩ := List.mem_map.mp mem
    have := known connectorID isIn
    simp only [List.mem_cons, List.not_mem_nil, or_false] at this
    show connectorID ≠ 0
    omega
  connectorIDs_nodup := by simp [alternatingChargingStation]
  mem_connectorIDs_iff := by
    intro chargePoint memPoint connector mem
    obtain rfl := List.mem_singleton.mp memPoint
    obtain ⟨connectorID, isIn, rfl⟩ := List.mem_map.mp mem
    exact iff_of_true (known connectorID isIn) rfl
  chargePoint_amperage := by
    intro connector mem _
    obtain ⟨connectorID, -, rfl⟩ := List.mem_map.mp mem
    exact ⟨_, List.mem_singleton_self _, rfl, .inr (by norm_num)⟩
  connector_amperage := by
    intro connector mem none
    obtain ⟨connectorID, -, rfl⟩ := List.mem_map.mp mem
    exact absurd none one_ne_zero

theorem isValid_alternatingSiteArea {connectorIDs : List ℕ} (nodup : connectorIDs.Nodup)
    (known : ∀ connectorID ∈ connectorIDs, connectorID ∈ [1, 2]) :
    ∀ chargingStation ∈ (alternatingSiteArea connectorIDs nodup).chargingStations.docs,
      chargingStation.IsValid :=
  List.forall_mem_cons.mpr ⟨isValid_alternatingChargingStation _ _ nodup known,
    List.forall_mem_singleton.mpr
      (isValid_alternatingChargingStation _ _ (by decide) (by decide))⟩

/-- With one session on each station the request is built. -/
theorem exists_buildOptimizerRequest_iff_oneSession :
    ∃ request, buildOptimizerRequest alternatingContext (alternatingSiteArea [2] (by decide)) [] =
      .ok request :=
  (exists_buildOptimizerRequest_iff (isValid_alternatingSiteArea (by decide) (by decide))).mpr
    ⟨by decide +kernel, by decide +kernel⟩

/-- Two sessions on the first station throw, and the second station gets no request either. -/
theorem not_exists_buildOptimizerRequest :
    (∀ chargingStation ∈ (alternatingSiteArea [1, 2] (by decide)).chargingStations.docs,
        chargingStation.IsValid) ∧
      checkIfSiteAreaIsValid (alternatingSiteArea [1, 2] (by decide)) = .ok () ∧
      buildOptimizerRequest alternatingContext (alternatingSiteArea [1, 2] (by decide)) [] =
        .error " > Cannot get the amperage of connector ID '1'" :=
  ⟨isValid_alternatingSiteArea (by decide) (by decide), by decide +kernel, by
    have thrown : (match buildOptimizerRequest alternatingContext
        (alternatingSiteArea [1, 2] (by decide)) [] with
      | .ok _ => none
      | .error message => some message) =
        some " > Cannot get the amperage of connector ID '1'" := by
      decide +kernel
    generalize buildOptimizerRequest alternatingContext
      (alternatingSiteArea [1, 2] (by decide)) [] = outcome at thrown
    cases outcome with
    | ok _ => cases thrown
    | error message => exact congrArg _ (Option.some.inj thrown)⟩

end EvServer
