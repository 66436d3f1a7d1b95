import Mathlib.Algebra.BigOperators.Ring.List
import EvServer.SmartCharging.ConnectorReadings
import EvServer.SmartCharging.SupportedConnectors

/-!
# The grid load of a charge point, in the tree and outside it

A charge point has a load on the grid whether smart charging controls it or not: the fuses of its
connectors in the one case, what `buildRootFuse` subtracts for them in the other.  Three-phase
charge points have the same load in both just when their current is AC or their efficiency is
known, and, where the connectors share the power, when the last of them has the mean amperage.
The default efficiency is a percentage that the connector fuse takes for a factor.
-/

namespace EvServer

section Loads

variable (chargingStation : ChargingStation) (chargePoint : ChargePoint)

/-- The connectors of a charge point that are in the station. -/
def connectorsOfChargePoint : List Connector :=
  chargingStation.connectors.filter fun connector =>
    connector.chargePointID = chargePoint.chargePointID

/-- The fuses that the connectors get, with whatever IDs. -/
def AreFusesOf (siteArea : SiteArea) (connectors : List Connector)
    (fuses : List OptimizerChargingStationConnectorFuse) : Prop :=
  List.Forall₂ (fun connector fuse => ∃ fuseID,
    buildChargingStationConnectorFuse siteArea fuseID chargingStation connector = .ok fuse)
    connectors fuses

/-- What the connectors of a charge point draw in the fuse tree. -/
def fusedAmps (fuses : List OptimizerChargingStationConnectorFuse) : PhaseAmps :=
  (fuses.map OptimizerChargingStationConnectorFuse.fusePhase).sum

/-- What is subtracted from the root fuse for a charge point. -/
def subtractedAmps (numberOfPhases : ℕ) (excludedChargingStations : List String) : PhaseAmps :=
  (((takenOutConnectors excludedChargingStations chargingStation []
    chargingStation.connectors).filter fun takenOut =>
      takenOut.2.chargePointID = chargePoint.chargePointID).map fun takenOut =>
        connectorGridAmps numberOfPhases takenOut.1 takenOut.2).sum

/-- The amperages of the connectors of a charge point. -/
def amperages : List ℚ :=
  (connectorsOfChargePoint chargingStation chargePoint).map chargePoint.amperageOf

/-- How much more is subtracted for an amp than is in the tree: the default efficiency, 80, is
divided by there and so is 80 %. -/
def ChargePoint.loadFactor (chargePoint : ChargePoint) (currentType : CurrentType) : ℚ :=
  if currentType = .DC ∧ chargePoint.efficiency ≤ 0 then 100 else 1

/-- Of the connectors that share the power the last one has the mean amperage, and the current
is AC or the efficiency is known; or the amperages make up for what is wrong. -/
def LoadsAlike (currentType : CurrentType) : Prop :=
  if chargePoint.isShared then
    (amperages chargingStation chargePoint).sum =
      chargePoint.loadFactor currentType * ((amperages chargingStation chargePoint).length *
        (amperages chargingStation chargePoint).getLast?.getD 0)
  else
    chargePoint.loadFactor currentType = 1 ∨ (amperages chargingStation chargePoint).sum = 0

instance (currentType : CurrentType) :
    Decidable (LoadsAlike chargingStation chargePoint currentType) :=
  inferInstanceAs (Decidable (if chargePoint.isShared then _ = _ else _ ∨ _ = _))

end Loads

/-- A three-phase charge point with connectors that are charging. -/
structure IsCharging (chargingStation : ChargingStation) (chargePoint : ChargePoint)
    (currentType : CurrentType) : Prop where
  laidOut : chargingStation.IsLaidOut
  threePhase : chargingStation.IsThreePhase
  mem : chargePoint ∈ chargingStation.chargePoints
  nonempty : connectorsOfChargePoint chargingStation chargePoint ≠ []
  charging : ∀ connector ∈ connectorsOfChargePoint chargingStation chargePoint,
    connectorIsCharging connector
  single : chargePoint.cannotChargeInParallel →
    (connectorsOfChargePoint chargingStation chargePoint).length = 1
  currentTypeOf : ∀ connector ∈ connectorsOfChargePoint chargingStation chargePoint,
    chargePoint.currentTypeOf connector = some currentType

section

variable {siteArea : SiteArea} {chargingStation : ChargingStation} {chargePoint : ChargePoint}
  {connector : Connector} {currentType : CurrentType} {excludedChargingStations : List String}

theorem mem_connectorsOfChargePoint :
    connector ∈ connectorsOfChargePoint chargingStation chargePoint ↔
      connector ∈ chargingStation.connectors ∧
        connector.chargePointID = chargePoint.chargePointID := by
  rw [connectorsOfChargePoint, List.mem_filter, decide_eq_true_eq]

/-! ## Rates -/

/-- What is subtracted on each phase for an amp of a connector. -/
def ChargePoint.gridRate (chargePoint : ChargePoint) (currentType : CurrentType) : ℚ :=
  if currentType = .DC then 1 / 3 * 100 / efficiencyPercent (some chargePoint) else 1 / 3

/-- What the fuse of a connector has on each phase for an amp of it. -/
def ChargePoint.fuseRate (chargePoint : ChargePoint) (currentType : CurrentType) : ℚ :=
  if currentType = .DC then 1 / 3 / gridEfficiency (some chargePoint) else 1 / 3

/-- The default efficiency is used as a percentage in the one and as a factor in the other. -/
theorem gridRate_eq (chargePoint : ChargePoint) (currentType : CurrentType) :
    chargePoint.gridRate currentType =
      chargePoint.loadFactor currentType * chargePoint.fuseRate currentType := by
  unfold ChargePoint.gridRate ChargePoint.loadFactor ChargePoint.fuseRate efficiencyPercent
    gridEfficiency
  cases currentType with
  | AC => simp
  | DC =>
      rcases lt_or_ge 0 chargePoint.efficiency with known | unknown
      · simp only [known, not_le.mpr known, and_false, if_true, if_false]
        field_simp
      · simp only [unknown, not_lt.mpr unknown, and_self, if_true, if_false,
          Constants.dcChargingStationDefaultEfficiencyPercent]
        norm_num

theorem fuseRate_ne_zero (chargePoint : ChargePoint) (currentType : CurrentType) :
    chargePoint.fuseRate currentType ≠ 0 := by
  unfold ChargePoint.fuseRate gridEfficiency
  cases currentType with
  | AC => simp
  | DC =>
      rcases lt_or_ge 0 chargePoint.efficiency with known | unknown
      · simp [known, known.ne']
      · simp [not_lt.mpr unknown, Constants.dcChargingStationDefaultEfficiencyPercent]

/-- What is the same on each phase is added up once. -/
theorem sum_map_const (amps : List ℚ) (rate : ℚ) :
    (amps.map fun amp => Function.const OptimizerPhase (amp * rate)).sum =
      Function.const OptimizerPhase (amps.sum * rate) := by
  induction amps with
  | nil =>
      rw [List.map_nil, List.sum_nil, List.sum_nil, zero_mul]
      rfl
  | cons amp rest ih =>
      rw [List.map_cons, List.sum_cons, ih, List.sum_cons, add_mul]
      rfl

theorem const_eq_const_iff {amps amps' : ℚ} :
    Function.const OptimizerPhase amps = Function.const OptimizerPhase amps' ↔ amps = amps' :=
  ⟨fun same => congrFun same .phase1, congrArg _⟩

/-! ## The load outside the tree -/

/-- A connector of a charge point finds it. -/
theorem ChargingStation.IsLaidOut.chargePoint?_eq (laidOut : chargingStation.IsLaidOut)
    (memPoint : chargePoint ∈ chargingStation.chargePoints)
    (same : connector.chargePointID = chargePoint.chargePointID) :
    connector.chargePoint? chargingStation = some chargePoint := by
  unfold Connector.chargePoint?
  rw [same, if_pos (laidOut.chargePointID_ne_zero chargePoint memPoint)]
  exact Utils.getChargePointFromID_of_isLaidOut laidOut memPoint

/-- A connector draws the same from each phase, whichever other connectors are in the station. -/
theorem connectorGridAmps_of_isCharging {connectors : List Connector}
    (charges : IsCharging chargingStation chargePoint currentType)
    (sub : connectors.Sublist chargingStation.connectors) (mem : connector ∈ connectors)
    (same : connector.chargePointID = chargePoint.chargePointID) :
    connectorGridAmps 3 { chargingStation with connectors } connector =
      Function.const _ (chargePoint.amperageOf connector * chargePoint.gridRate currentType) := by
  have laidOut := charges.laidOut.sublist sub
  have threePhase := charges.threePhase.sublist sub
  have memPoint : chargePoint ∈ { chargingStation with connectors }.chargePoints := charges.mem
  have found := laidOut.chargePoint?_eq memPoint same
  have type := charges.currentTypeOf connector
    (mem_connectorsOfChargePoint.mpr ⟨sub.subset mem, same⟩)
  unfold connectorGridAmps ChargePoint.gridRate
  rw [found]
  dsimp only
  rw [Utils.getChargingStationAmperage_of_isLaidOut laidOut memPoint mem same,
    Utils.getNumberOfConnectedPhases_zero_of_isLaidOut memPoint mem same threePhase,
    Utils.getChargingStationCurrentType_of_isLaidOut laidOut memPoint mem same, type]
  funext phase
  cases currentType with
  | AC =>
      change chargePoint.amperageOf connector / 3 = _ * (1 / 3)
      ring
  | DC =>
      change chargePoint.amperageOf connector / 3 * 100 / _ = _ * (1 / 3 * 100 / _)
      ring

/-- A connector is taken out of the station as it stands then. -/
theorem exists_of_mem_takenOutConnectors {before connectors : List Connector}
    {takenOut : ChargingStation × Connector}
    (mem : takenOut ∈ takenOutConnectors excludedChargingStations chargingStation before
      connectors) :
    ∃ stillThere : List Connector,
      takenOut.1 = { chargingStation with connectors := stillThere } ∧
        takenOut.2 ∈ stillThere ∧ stillThere.Sublist (before ++ connectors) := by
  induction connectors generalizing before with
  | nil => cases mem
  | cons connector rest ih =>
      have later (mem : takenOut ∈ takenOutConnectors excludedChargingStations chargingStation
          (before ++ [connector]) rest) := ih mem
      rw [List.append_assoc, List.singleton_append] at later
      rw [takenOutConnectors] at mem
      split at mem
      · rcases List.mem_cons.mp mem with rfl | mem
        · refine ⟨_, rfl, ?_, ?_⟩
          · exact List.mem_append_right _ List.mem_cons_self
          · exact List.Sublist.append_left
              ((remainingConnectors_sublist rest).cons_cons connector) before
        · exact later mem
      · exact later mem

/-- Of the connectors of a charge point all are taken out, or the last one when they share the
power. -/
theorem filter_takenOutConnectors (before connectors : List Connector)
    (found : ∀ connector : Connector, connector.chargePointID = chargePoint.chargePointID →
      connector.chargePoint? chargingStation = some chargePoint)
    (unsupported : isUnsupported excludedChargingStations chargingStation (some chargePoint)) :
    ((takenOutConnectors excludedChargingStations chargingStation before connectors).filter
        fun takenOut => takenOut.2.chargePointID = chargePoint.chargePointID).map Prod.snd =
      if chargePoint.isShared then
        (connectors.filter fun connector =>
          connector.chargePointID = chargePoint.chargePointID).getLast?.toList
      else connectors.filter fun connector =>
        connector.chargePointID = chargePoint.chargePointID := by
  induction connectors generalizing before with
  | nil => simp [takenOutConnectors]
  | cons connector rest ih =>
      rw [takenOutConnectors]
      by_cases same : connector.chargePointID = chargePoint.chargePointID
      · have takenOut : isTakenOut excludedChargingStations chargingStation rest connector ↔ _ :=
          isTakenOut_iff (found connector same) unsupported
        rw [List.filter_cons_of_pos (by simpa using same)]
        cases shared : chargePoint.isShared with
        | false =>
            rw [shared] at ih takenOut
            rw [if_pos (takenOut.mpr fun stays => Bool.false_ne_true stays.1),
              List.filter_cons_of_pos (by simpa using same), List.map_cons, ih]
            rfl
        | true =>
            rw [shared] at ih takenOut
            rw [if_pos rfl] at ih ⊢
            cases later : rest.filter fun connector =>
                connector.chargePointID = chargePoint.chargePointID with
            | nil =>
                have last : isTakenOut excludedChargingStations chargingStation rest connector := by
                  refine takenOut.mpr fun stays => ?_
                  obtain ⟨other, mem, isOf⟩ := stays.2
                  have := List.filter_eq_nil_iff.mp later other mem
                  rw [isOf, same, decide_eq_true_eq] at this
                  exact this rfl
                rw [if_pos last, List.filter_cons_of_pos (by simpa using same), List.map_cons, ih,
                  later]
                rfl
            | cons other others =>
                have notLast : ¬ isTakenOut excludedChargingStations chargingStation rest
                    connector := by
                  rw [takenOut, not_not]
                  have mem : other ∈ rest.filter fun connector =>
                      connector.chargePointID = chargePoint.chargePointID := by
                    rw [later]
                    exact List.mem_cons_self
                  rw [List.mem_filter, decide_eq_true_eq] at mem
                  exact ⟨rfl, other, mem.1, mem.2.trans same.symm⟩
                rw [if_neg notLast, ih, later, List.getLast?_cons_cons]
      · rw [List.filter_cons_of_neg (by simpa using same), ← ih]
        split
        · rw [List.filter_cons_of_neg (by simpa using same)]
        · rfl

/-- The amperages that are subtracted for a charge point. -/
def subtractedAmperages (chargingStation : ChargingStation) (chargePoint : ChargePoint) :
    List ℚ :=
  if chargePoint.isShared then (amperages chargingStation chargePoint).getLast?.toList
  else amperages chargingStation chargePoint

/-- **The load outside the tree.** -/
theorem subtractedAmps_eq (charges : IsCharging chargingStation chargePoint currentType)
    (unsupported : isUnsupported excludedChargingStations chargingStation (some chargePoint)) :
    subtractedAmps chargingStation chargePoint 3 excludedChargingStations =
      Function.const _ ((subtractedAmperages chargingStation chargePoint).sum *
        chargePoint.gridRate currentType) := by
  have found : ∀ connector : Connector,
      connector.chargePointID = chargePoint.chargePointID →
        connector.chargePoint? chargingStation = some chargePoint := fun _ same =>
    charges.laidOut.chargePoint?_eq charges.mem same
  have read : ∀ takenOut ∈ (takenOutConnectors excludedChargingStations chargingStation []
      chargingStation.connectors).filter fun takenOut =>
        takenOut.2.chargePointID = chargePoint.chargePointID,
      connectorGridAmps 3 takenOut.1 takenOut.2 = Function.const _
        (chargePoint.amperageOf takenOut.2 * chargePoint.gridRate currentType) := by
    intro takenOut mem
    rw [List.mem_filter, decide_eq_true_eq] at mem
    obtain ⟨stillThere, station, memThere, sub⟩ := exists_of_mem_takenOutConnectors mem.1
    rw [station]
    exact connectorGridAmps_of_isCharging charges sub memThere mem.2
  have amounts : (((takenOutConnectors excludedChargingStations chargingStation []
      chargingStation.connectors).filter fun takenOut =>
        takenOut.2.chargePointID = chargePoint.chargePointID).map Prod.snd).map
          chargePoint.amperageOf = subtractedAmperages chargingStation chargePoint := by
    rw [filter_takenOutConnectors [] chargingStation.connectors found unsupported]
    unfold subtractedAmperages amperages connectorsOfChargePoint
    split
    · rw [List.getLast?_map, Option.toList_map]
    · rfl
  unfold subtractedAmps
  rw [List.map_congr_left read, ← sum_map_const, ← amounts, List.map_map, List.map_map]
  rfl

/-! ## The load in the tree -/

/-- A charge point counts those of its connectors in the station that are charging. -/
theorem numberOfConnectorsCurrentlyCharging_of_isLaidOut (laidOut : chargingStation.IsLaidOut)
    (memPoint : chargePoint ∈ chargingStation.chargePoints) :
    numberOfConnectorsCurrentlyCharging chargingStation chargePoint =
      (connectorsOfChargePoint chargingStation chargePoint).countP connectorIsCharging := by
  unfold numberOfConnectorsCurrentlyCharging
  rw [List.countP_eq_length_filter, List.countP_eq_length_filter,
    ← List.length_map Connector.connectorId]
  refine (List.perm_of_nodup_nodup_toFinset_eq ?_ ?_ ?_).length_eq
  · exact (laidOut.connectorIDs_nodup chargePoint memPoint).filter _
  · exact laidOut.connectors_nodup.sublist
      ((List.filter_sublist.trans List.filter_sublist).map _)
  · ext connectorID
    simp only [List.mem_toFinset, List.mem_filter, List.mem_map]
    constructor
    · rintro ⟨isOf, isCharging⟩
      obtain ⟨connector, found, charging⟩ := (Option.any_eq_true _ _).mp isCharging
      have isIn : connector ∈ chargingStation.connectors := List.mem_of_find?_eq_some found
      have same : connector.connectorId = connectorID := Collection.key_of_find
        (c := ⟨_, laidOut.connectors_nodup⟩) found
      rw [← same] at isOf
      refine ⟨connector, ⟨mem_connectorsOfChargePoint.mpr ⟨isIn, ?_⟩, charging⟩, same⟩
      exact (laidOut.mem_connectorIDs_iff chargePoint memPoint connector isIn).mp isOf
    · rintro ⟨connector, ⟨mem, charging⟩, rfl⟩
      obtain ⟨isIn, same⟩ := mem_connectorsOfChargePoint.mp mem
      refine ⟨?_, ?_⟩
      · exact (laidOut.mem_connectorIDs_iff chargePoint memPoint connector isIn).mpr same
      · rw [Utils.getConnectorFromID_of_isLaidOut laidOut isIn]
        exact charging

/-- The connectors that count as charging are those of the charge point. -/
theorem numberOfConnectorsCurrentlyCharging_eq
    (charges : IsCharging chargingStation chargePoint currentType) :
    numberOfConnectorsCurrentlyCharging chargingStation chargePoint =
      (connectorsOfChargePoint chargingStation chargePoint).length := by
  rw [numberOfConnectorsCurrentlyCharging_of_isLaidOut charges.laidOut charges.mem]
  exact List.countP_eq_length.mpr charges.charging

/-- What a connector gets of the power. -/
def ChargePoint.shareOf (chargePoint : ChargePoint) (connectors : ℕ) (amperage : ℚ) : ℚ :=
  if chargePoint.isShared then amperage / connectors else amperage

theorem shareAmps_of_isCharging (charges : IsCharging chargingStation chargePoint currentType)
    (amperage : ℚ) :
    shareAmps chargePoint (connectorsOfChargePoint chargingStation chargePoint).length amperage =
      chargePoint.shareOf (connectorsOfChargePoint chargingStation chargePoint).length
        amperage := by
  have some : 1 ≤ (connectorsOfChargePoint chargingStation chargePoint).length :=
    List.length_pos_iff.mpr charges.nonempty
  unfold shareAmps ChargePoint.shareOf
  cases shared : chargePoint.isShared with
  | false => rfl
  | true =>
      rw [if_pos (by simpa using some), if_pos rfl]
      cases parallel : chargePoint.cannotChargeInParallel with
      | false =>
          have power : chargePoint.sharePowerToAllConnectors := by
            rw [ChargePoint.isShared, parallel, Bool.or_false] at shared
            exact shared
          rw [if_neg (by simp), if_pos power]
      | true =>
          rw [charges.single parallel, if_neg (by simp), Nat.cast_one, div_one, ite_self]

/-- A fuse draws the same from each phase. -/
theorem fusePhase_of_isCharging {fuseID : ℕ} {fuse : OptimizerChargingStationConnectorFuse}
    (charges : IsCharging chargingStation chargePoint currentType)
    (mem : connector ∈ connectorsOfChargePoint chargingStation chargePoint)
    (h : buildChargingStationConnectorFuse siteArea fuseID chargingStation connector = .ok fuse) :
    fuse.fusePhase = Function.const _
      (chargePoint.shareOf (connectorsOfChargePoint chargingStation chargePoint).length
        (chargePoint.amperageOf connector) * chargePoint.fuseRate currentType) := by
  obtain ⟨isIn, same⟩ := mem_connectorsOfChargePoint.mp mem
  obtain ⟨connectorAmps, hamps, h⟩ := Outcome.bind_eq_ok.mp h
  have read := (getConnectorNbrOfPhasesAndAmps_ok hamps).1
  have type := charges.currentTypeOf connector mem
  have point := Utils.getChargePointFromID_of_isLaidOut charges.laidOut charges.mem
  unfold readConnectorAmps at read
  rw [same, if_pos (charges.laidOut.chargePointID_ne_zero chargePoint charges.mem), point] at read
  cases read
  rw [same, point,
    Utils.getChargingStationCurrentType_of_isLaidOut charges.laidOut charges.mem isIn same,
    type] at h
  cases h
  dsimp only
  rw [Utils.getNumberOfConnectedPhases_of_isLaidOut charges.laidOut charges.mem isIn same
      charges.threePhase,
    Utils.getChargingStationAmperage_of_isLaidOut charges.laidOut charges.mem isIn same,
    numberOfConnectorsCurrentlyCharging_eq charges, shareAmps_of_isCharging charges]
  funext phase
  have connected : isPhaseConnected 3 phase := by
    cases phase with
    | phase1 => rfl
    | phase2 => rfl
    | phase3 => rfl
  rw [if_pos connected, Function.const_apply]
  unfold ChargePoint.fuseRate
  cases currentType with
  | AC =>
      change _ / ((3 : ℕ) : ℚ) = _ * (1 / 3)
      rw [Nat.cast_ofNat]
      ring
  | DC =>
      change _ / ((3 : ℕ) : ℚ) / _ = _ * (1 / 3 / _)
      rw [Nat.cast_ofNat]
      ring

/-- What is known of the fuse of each connector is known of all of them. -/
theorem fusePhases_of_forall₂ {connectors : List Connector}
    {fuses : List OptimizerChargingStationConnectorFuse} {amps : Connector → PhaseAmps}
    (built : AreFusesOf chargingStation siteArea connectors fuses)
    (each : ∀ connector ∈ connectors, ∀ fuseID fuse,
      buildChargingStationConnectorFuse siteArea fuseID chargingStation connector = .ok fuse →
        fuse.fusePhase = amps connector) :
    fuses.map OptimizerChargingStationConnectorFuse.fusePhase = connectors.map amps := by
  induction built with
  | nil => rfl
  | cons first _ ih =>
      obtain ⟨fuseID, h⟩ := first
      rw [List.forall_mem_cons] at each
      rw [List.map_cons, List.map_cons, each.1 fuseID _ h, ih each.2]

theorem sum_map_shareOf (connectors : ℕ) (amps : List ℚ) :
    (amps.map (chargePoint.shareOf connectors)).sum =
      chargePoint.shareOf connectors amps.sum := by
  unfold ChargePoint.shareOf
  cases chargePoint.isShared with
  | false => simp
  | true =>
      simp only [if_true, div_eq_mul_inv]
      rw [List.sum_map_mul_right, List.map_id']

/-- **The load in the tree.** -/
theorem fusedAmps_eq {fuses : List OptimizerChargingStationConnectorFuse}
    (charges : IsCharging chargingStation chargePoint currentType)
    (built : AreFusesOf chargingStation siteArea
      (connectorsOfChargePoint chargingStation chargePoint) fuses) :
    fusedAmps fuses = Function.const _
      (chargePoint.shareOf (connectorsOfChargePoint chargingStation chargePoint).length
        (amperages chargingStation chargePoint).sum * chargePoint.fuseRate currentType) := by
  have phases : fuses.map OptimizerChargingStationConnectorFuse.fusePhase =
      ((amperages chargingStation chargePoint).map (chargePoint.shareOf
        (connectorsOfChargePoint chargingStation chargePoint).length)).map fun amp =>
          Function.const _ (amp * chargePoint.fuseRate currentType) := by
    unfold amperages
    rw [List.map_map, List.map_map]
    refine fusePhases_of_forall₂ built fun connector mem fuseID fuse h => ?_
    exact fusePhase_of_isCharging charges mem h
  unfold fusedAmps
  rw [phases, sum_map_const, sum_map_shareOf]

/-! ## The same load -/

/-- **A charge point has the same load in the tree and outside it** just when the amperages that
are subtracted make up what its connectors share. -/
theorem fusedAmps_eq_subtractedAmps_iff {fuses : List OptimizerChargingStationConnectorFuse}
    (threePhaseSite : siteArea.numberOfPhases = 3)
    (charges : IsCharging chargingStation chargePoint currentType)
    (unsupported : isUnsupported excludedChargingStations chargingStation (some chargePoint))
    (built : AreFusesOf chargingStation siteArea
      (connectorsOfChargePoint chargingStation chargePoint) fuses) :
    fusedAmps fuses = subtractedAmps chargingStation chargePoint siteArea.numberOfPhases
        excludedChargingStations ↔
      LoadsAlike chargingStation chargePoint currentType := by
  have length : (connectorsOfChargePoint chargingStation chargePoint).length =
      (amperages chargingStation chargePoint).length := by
    rw [amperages, List.length_map]
  have nonzero : ((amperages chargingStation chargePoint).length : ℚ) ≠ 0 := by
    rw [← length, Nat.cast_ne_zero]
    exact List.length_pos_iff.mpr charges.nonempty |>.ne'
  have sum_toList : ∀ last : Option ℚ, last.toList.sum = last.getD 0 := fun last => by
    cases last with
    | none => rfl
    | some last => exact List.sum_singleton
  rw [threePhaseSite, fusedAmps_eq charges built, subtractedAmps_eq charges unsupported, gridRate_eq,
    ← mul_assoc, const_eq_const_iff, mul_left_inj' (fuseRate_ne_zero chargePoint currentType), length]
  unfold ChargePoint.shareOf subtractedAmperages LoadsAlike
  split
  · rw [sum_toList, div_eq_iff nonzero, mul_comm _ (chargePoint.loadFactor _), mul_assoc,
      mul_comm (Option.getD _ _)]
  · rw [eq_comm, mul_comm, mul_left_eq_self₀]

end

/-! ## A DC charge point -/

/-- A DC charge point of 96 A that two connectors share. -/
def dcChargePoint (efficiency : ℚ) : ChargePoint where
  chargePointID := 1
  currentType := some .DC
  amperage := 96
  numberOfConnectedPhase := 3
  sharePowerToAllConnectors := true
  efficiency := efficiency
  connectorIDs := [1, 2]

/-- A connector of the charge point that is charging. -/
def dcConnector (connectorId : ℕ) : Connector where
  connectorId := connectorId
  status := .charging
  chargePointID := 1

/-- The station of the charge point. -/
def dcChargingStation (efficiency : ℚ) (connectorIDs : List ℕ) : ChargingStation where
  id := "CS-41"
  chargePoints := [dcChargePoint efficiency]
  connectors := connectorIDs.map dcConnector

theorem connectorsOfChargePoint_dc (connectorIDs : List ℕ) (efficiency : ℚ) :
    connectorsOfChargePoint (dcChargingStation efficiency connectorIDs)
      (dcChargePoint efficiency) = connectorIDs.map dcConnector := by
  refine List.filter_eq_self.mpr fun connector mem => ?_
  obtain ⟨connectorId, -, rfl⟩ := List.mem_map.mp mem
  rfl

theorem isLaidOut_dc {connectorIDs : List ℕ} (efficiency : ℚ)
    (sub : connectorIDs.Sublist [1, 2]) :
    (dcChargingStation efficiency connectorIDs).IsLaidOut where
  chargePoints_nodup := List.nodup_singleton _
  connectors_nodup := by
    change ((connectorIDs.map dcConnector).map Connector.connectorId).Nodup
    rw [List.map_map]
    have nodup : [1, 2].Nodup := by decide
    exact (nodup.sublist sub).map fun _ _ same => same
  chargePointID_ne_zero := List.forall_mem_singleton.mpr one_ne_zero
  connectorId_ne_zero connector mem := by
    obtain ⟨connectorId, isIn, rfl⟩ := List.mem_map.mp mem
    have positive : ∀ id ∈ [1, 2], id ≠ 0 := by decide
    exact positive connectorId (sub.subset isIn)
  connectorIDs_nodup := List.forall_mem_singleton.mpr (by decide : [1, 2].Nodup)
  mem_connectorIDs_iff := List.forall_mem_singleton.mpr fun connector mem => by
    obtain ⟨connectorId, isIn, rfl⟩ := List.mem_map.mp mem
    exact iff_of_true (sub.subset isIn) rfl

theorem isCharging_dcChargePoint {connectorIDs : List ℕ} {efficiency : ℚ}
    (sub : connectorIDs.Sublist [1, 2]) (some : connectorIDs ≠ []) :
    IsCharging (dcChargingStation efficiency connectorIDs) (dcChargePoint efficiency) .DC where
  laidOut := isLaidOut_dc efficiency sub
  threePhase := {
    chargePoints := List.forall_mem_singleton.mpr (.inr rfl)
    connectors := fun connector mem => by
      obtain ⟨connectorId, -, rfl⟩ := List.mem_map.mp mem
      exact .inl rfl
    stated := List.forall_mem_singleton.mpr fun _ _ _ => .inl rfl }
  mem := List.mem_singleton_self _
  nonempty := by
    rw [connectorsOfChargePoint_dc]
    exact mt List.map_eq_nil_iff.mp some
  charging := by
    rw [connectorsOfChargePoint_dc]
    intro connector mem
    obtain ⟨connectorId, -, rfl⟩ := List.mem_map.mp mem
    rfl
  single := fun inParallel => absurd inParallel Bool.false_ne_true
  currentTypeOf := by
    rw [connectorsOfChargePoint_dc]
    intro connector mem
    obtain ⟨connectorId, -, rfl⟩ := List.mem_map.mp mem
    rfl

/-- Two connectors draw 20 A each from a phase, at an efficiency of 80 %; 40 A are subtracted. -/
theorem fusedAmps_eq_subtractedAmps_iff_shared :
    ∃ fuses, AreFusesOf (dcChargingStation 80 [1, 2]) exampleSiteArea
        (connectorsOfChargePoint (dcChargingStation 80 [1, 2]) (dcChargePoint 80)) fuses ∧
      fusedAmps fuses = subtractedAmps (dcChargingStation 80 [1, 2]) (dcChargePoint 80)
        exampleSiteArea.numberOfPhases ["CS-41"] := by
  have first : (buildChargingStationConnectorFuse exampleSiteArea 1 (dcChargingStation 80 [1, 2])
      (dcConnector 1)).toOption.map OptimizerChargingStationConnectorFuse.fusePhase =
      some fun _ => 20 := by
    decide +kernel
  have second : (buildChargingStationConnectorFuse exampleSiteArea 2 (dcChargingStation 80 [1, 2])
      (dcConnector 2)).toOption.map OptimizerChargingStationConnectorFuse.fusePhase =
      some fun _ => 20 := by
    decide +kernel
  obtain ⟨fuse, hfuse, -⟩ := Outcome.exists_ok_of_toOption_map first
  obtain ⟨fuse', hfuse', -⟩ := Outcome.exists_ok_of_toOption_map second
  have built : AreFusesOf (dcChargingStation 80 [1, 2]) exampleSiteArea
      (connectorsOfChargePoint (dcChargingStation 80 [1, 2]) (dcChargePoint 80)) [fuse, fuse'] :=
    .cons ⟨1, hfuse⟩ (.cons ⟨2, hfuse'⟩ .nil)
  refine ⟨_, built, (fusedAmps_eq_subtractedAmps_iff rfl
    (isCharging_dcChargePoint (List.Sublist.refl _) (by decide)) (by decide) built).mpr ?_⟩
  decide +kernel

/-- Without an efficiency one connector draws 0.4 A in the tree, and 40 A are subtracted. -/
theorem fusedAmps_ne_subtractedAmps_defaultEfficiency :
    IsCharging (dcChargingStation 0 [1]) (dcChargePoint 0) .DC ∧
      isUnsupported ["CS-41"] (dcChargingStation 0 [1]) (some (dcChargePoint 0)) ∧
      ∃ fuses, AreFusesOf (dcChargingStation 0 [1]) exampleSiteArea
          (connectorsOfChargePoint (dcChargingStation 0 [1]) (dcChargePoint 0)) fuses ∧
        fusedAmps fuses .phase1 = 2 / 5 ∧
        subtractedAmps (dcChargingStation 0 [1]) (dcChargePoint 0)
          exampleSiteArea.numberOfPhases ["CS-41"] .phase1 = 40 ∧
        fusedAmps fuses ≠ subtractedAmps (dcChargingStation 0 [1]) (dcChargePoint 0)
          exampleSiteArea.numberOfPhases ["CS-41"] := by
  have only : (buildChargingStationConnectorFuse exampleSiteArea 1 (dcChargingStation 0 [1])
      (dcConnector 1)).toOption.map OptimizerChargingStationConnectorFuse.fusePhase =
      some fun _ => 2 / 5 := by
    decide +kernel
  obtain ⟨fuse, hfuse, amps⟩ := Outcome.exists_ok_of_toOption_map only
  have subtracted : subtractedAmps (dcChargingStation 0 [1]) (dcChargePoint 0)
      exampleSiteArea.numberOfPhases ["CS-41"] .phase1 = 40 := by
    decide +kernel
  have fused : fusedAmps [fuse] .phase1 = 2 / 5 := by
    rw [fusedAmps, List.map_singleton, List.sum_singleton, amps]
  refine ⟨isCharging_dcChargePoint (by decide) (by decide), by decide, [fuse],
    .cons ⟨1, hfuse⟩ .nil, fused, subtracted, fun same => ?_⟩
  rw [same, subtracted] at fused
  norm_num at fused

end EvServer
