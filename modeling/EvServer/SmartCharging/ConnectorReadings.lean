import EvServer.Lib.Documents
import EvServer.Lib.KeyedList
import EvServer.ChargingStation

/-!
# What is read of a connector

The lookups of `Utils` go through all charge points and all connectors of a station.  In a
station whose charge points and connectors refer to one another they give what the connector and
its charge point say, whichever other connectors the station has at the moment.
-/

namespace EvServer

namespace ChargingStation

/-- The charge points and the connectors of the station refer to one another by their IDs. -/
structure IsLaidOut (chargingStation : ChargingStation) : Prop where
  chargePoints_nodup : (chargingStation.chargePoints.map ChargePoint.chargePointID).Nodup
  connectors_nodup : (chargingStation.connectors.map Connector.connectorId).Nodup
  chargePointID_ne_zero : ∀ chargePoint ∈ chargingStation.chargePoints,
    chargePoint.chargePointID ≠ 0
  connectorId_ne_zero : ∀ connector ∈ chargingStation.connectors, connector.connectorId ≠ 0
  connectorIDs_nodup : ∀ chargePoint ∈ chargingStation.chargePoints,
    chargePoint.connectorIDs.Nodup
  mem_connectorIDs_iff : ∀ chargePoint ∈ chargingStation.chargePoints,
    ∀ connector ∈ chargingStation.connectors,
      connector.connectorId ∈ chargePoint.connectorIDs ↔
        connector.chargePointID = chargePoint.chargePointID

/-- What says how many phases a connector has says three. -/
structure IsThreePhase (chargingStation : ChargingStation) : Prop where
  chargePoints : ∀ chargePoint ∈ chargingStation.chargePoints,
    chargePoint.numberOfConnectedPhase = 0 ∨ chargePoint.numberOfConnectedPhase = 3
  connectors : ∀ connector ∈ chargingStation.connectors,
    connector.numberOfConnectedPhase = 0 ∨ connector.numberOfConnectedPhase = 3
  stated : ∀ chargePoint ∈ chargingStation.chargePoints,
    ∀ connector ∈ chargingStation.connectors,
      connector.chargePointID = chargePoint.chargePointID →
        chargePoint.numberOfConnectedPhase = 3 ∨ connector.numberOfConnectedPhase = 3

end ChargingStation

/-- The amperage of a connector of a charge point. -/
def ChargePoint.amperageOf (chargePoint : ChargePoint) (connector : Connector) : ℚ :=
  if chargePoint.amperage = 0 then connector.amperage
  else if chargePoint.cannotChargeInParallel || chargePoint.sharePowerToAllConnectors then
    if connector.amperage ≠ 0 then connector.amperage else chargePoint.amperage
  else chargePoint.amperage / chargePoint.connectorIDs.length

/-- The current type of a connector of a charge point. -/
def ChargePoint.currentTypeOf (chargePoint : ChargePoint) (connector : Connector) :
    Option CurrentType :=
  connector.currentType.or chargePoint.currentType

section

variable {chargingStation : ChargingStation} {chargePoint : ChargePoint} {connector : Connector}
  {connectors : List Connector}

/-- A station is laid out still when connectors are taken out of it. -/
theorem ChargingStation.IsLaidOut.sublist (laidOut : chargingStation.IsLaidOut)
    (sub : connectors.Sublist chargingStation.connectors) :
    { chargingStation with connectors }.IsLaidOut where
  chargePoints_nodup := laidOut.chargePoints_nodup
  connectors_nodup := laidOut.connectors_nodup.sublist (sub.map _)
  chargePointID_ne_zero := laidOut.chargePointID_ne_zero
  connectorId_ne_zero connector mem := laidOut.connectorId_ne_zero connector (sub.subset mem)
  connectorIDs_nodup := laidOut.connectorIDs_nodup
  mem_connectorIDs_iff chargePoint memPoint connector mem :=
    laidOut.mem_connectorIDs_iff chargePoint memPoint connector (sub.subset mem)

theorem ChargingStation.IsThreePhase.sublist (threePhase : chargingStation.IsThreePhase)
    (sub : connectors.Sublist chargingStation.connectors) :
    { chargingStation with connectors }.IsThreePhase where
  chargePoints := threePhase.chargePoints
  connectors connector mem := threePhase.connectors connector (sub.subset mem)
  stated chargePoint memPoint connector mem :=
    threePhase.stated chargePoint memPoint connector (sub.subset mem)

/-- A charge point has one set of connectors. -/
theorem ChargingStation.IsLaidOut.not_mem_connectorIDs (laidOut : chargingStation.IsLaidOut)
    (mem : connector ∈ chargingStation.connectors)
    (same : connector.chargePointID = chargePoint.chargePointID) {other : ChargePoint}
    (memOther : other ∈ chargingStation.chargePoints)
    (ne : other.chargePointID ≠ chargePoint.chargePointID) :
    connector.connectorId ∉ other.connectorIDs := by
  rw [laidOut.mem_connectorIDs_iff other memOther connector mem, same]
  exact ne.symm

namespace Utils

theorem isConsidered_none : isConsidered none chargePoint = true := rfl

theorem isConsidered_self : isConsidered (some chargePoint) chargePoint = true :=
  decide_eq_true rfl

theorem getConnectorFromID_of_isLaidOut (laidOut : chargingStation.IsLaidOut)
    (mem : connector ∈ chargingStation.connectors) :
    getConnectorFromID chargingStation connector.connectorId = some connector :=
  Collection.find_of_mem (c := ⟨_, laidOut.connectors_nodup⟩) mem

theorem getChargePointFromID_of_isLaidOut (laidOut : chargingStation.IsLaidOut)
    (memPoint : chargePoint ∈ chargingStation.chargePoints) :
    getChargePointFromID chargingStation chargePoint.chargePointID = some chargePoint :=
  Collection.find_of_mem (c := ⟨_, laidOut.chargePoints_nodup⟩) memPoint

variable (laidOut : chargingStation.IsLaidOut)
  (memPoint : chargePoint ∈ chargingStation.chargePoints)
  (mem : connector ∈ chargingStation.connectors)
  (same : connector.chargePointID = chargePoint.chargePointID)

include laidOut memPoint mem same

/-- The amperage of a connector. -/
theorem getChargingStationAmperage_of_isLaidOut :
    getChargingStationAmperage chargingStation (some chargePoint) connector.connectorId =
      chargePoint.amperageOf connector := by
  have found := getConnectorFromID_of_isLaidOut laidOut mem
  have isOf := (laidOut.mem_connectorIDs_iff chargePoint memPoint connector mem).mpr same
  have nonzero := laidOut.connectorId_ne_zero connector mem
  have considered : chargingStation.chargePoints.filter (isConsidered (some chargePoint)) =
      [chargePoint] := by
    rw [← Collection.filter_key_eq (c := ⟨_, laidOut.chargePoints_nodup⟩)
      (getChargePointFromID_of_isLaidOut laidOut memPoint)]
    exact List.filter_congr fun other _ => decide_eq_decide.mpr eq_comm
  unfold getChargingStationAmperage ChargePoint.amperageOf
  rw [considered]
  by_cases none : chargePoint.amperage = 0
  · have others : ∀ other ∈ chargingStation.connectors,
        other.connectorId ≠ connector.connectorId →
          (if other.connectorId = connector.connectorId ∧ other.amperage ≠ 0 then
            some other.amperage else Option.none) = Option.none :=
      fun other _ ne => if_neg fun isOther => ne isOther.1
    simp only [List.findSome?_cons, List.findSome?_nil, none, ne_eq, not_true, and_false,
      if_false, nonzero, if_true]
    rw [KeyedList.findSome?_eq_of_nodup laidOut.connectors_nodup mem others]
    by_cases unset : connector.amperage = 0
    · simp [unset]
    · simp [unset]
  · simp only [List.findSome?_cons, ne_eq, nonzero, not_false_iff, isOf, none, and_self, if_true,
      found, if_false]
    cases chargePoint.cannotChargeInParallel || chargePoint.sharePowerToAllConnectors with
    | false => rfl
    | true =>
        by_cases unset : connector.amperage = 0
        · simp [unset]
        · simp [unset]

/-- The current type of a connector. -/
theorem getChargingStationCurrentType_of_isLaidOut :
    getChargingStationCurrentType chargingStation none connector.connectorId =
      chargePoint.currentTypeOf connector := by
  have found := getConnectorFromID_of_isLaidOut laidOut mem
  have isOf := (laidOut.mem_connectorIDs_iff chargePoint memPoint connector mem).mpr same
  have nonzero := laidOut.connectorId_ne_zero connector mem
  unfold getChargingStationCurrentType
  dsimp only
  rw [KeyedList.findSome?_eq_of_nodup laidOut.chargePoints_nodup memPoint,
    KeyedList.findSome?_eq_of_nodup laidOut.connectors_nodup mem]
  · rw [if_pos (Or.inr rfl), isConsidered_none, if_pos rfl,
      if_neg fun station => nonzero station.1, found]
    unfold ChargePoint.currentTypeOf
    by_cases set : chargePoint.currentType.isSome
    · obtain ⟨currentType, type⟩ := Option.isSome_iff_exists.mp set
      rw [if_pos ⟨isOf, set⟩, type, Option.bind_some]
      cases connector.currentType with
      | none => rfl
      | some _ => rfl
    · rw [if_neg fun isSet => set isSet.2, Option.none_or,
        Option.not_isSome_iff_eq_none.mp set, Option.or_none]
  · intro other memOther ne
    rw [if_neg]
    rintro (station | isOther)
    · exact nonzero station
    · exact ne isOther
  · intro other memOther ne
    have apart := laidOut.not_mem_connectorIDs mem same memOther ne
    rw [isConsidered_none, if_pos rfl, if_neg fun station => nonzero station.1,
      if_neg fun isOther => apart isOther.1]

/-- The number of phases of a connector of a three-phase station. -/
theorem getNumberOfConnectedPhases_of_isLaidOut (threePhase : chargingStation.IsThreePhase) :
    getNumberOfConnectedPhases chargingStation (some chargePoint) connector.connectorId = 3 := by
  have found := getConnectorFromID_of_isLaidOut laidOut mem
  have isOf := (laidOut.mem_connectorIDs_iff chargePoint memPoint connector mem).mpr same
  have nonzero := laidOut.connectorId_ne_zero connector mem
  have ofConnector := threePhase.connectors connector mem
  unfold getNumberOfConnectedPhases
  dsimp only
  rw [KeyedList.findSome?_eq_of_nodup laidOut.chargePoints_nodup memPoint]
  · rw [isConsidered_self, if_pos rfl, if_neg fun station => nonzero station.1, found]
    rcases threePhase.chargePoints chargePoint memPoint with none | three
    · rw [if_neg fun stated => stated.2 none]
      have stated := (threePhase.stated chargePoint memPoint connector mem same).resolve_left
        (by omega)
      dsimp only
      rw [KeyedList.findSome?_eq_of_nodup laidOut.connectors_nodup mem]
      · simp [stated]
      · intro other memOther ne
        simp [nonzero, ne]
    · rw [if_pos ⟨isOf, by omega⟩]
      dsimp only
      by_cases unset : connector.numberOfConnectedPhase = 0
      · rw [if_neg (not_not.mpr unset)]
        exact three
      · rw [if_pos unset]
        exact ofConnector.resolve_left unset
  · intro other memOther ne
    have apart := laidOut.not_mem_connectorIDs mem same memOther ne
    simp [nonzero, apart]

omit laidOut in
/-- The number of phases of a three-phase station. -/
theorem getNumberOfConnectedPhases_zero_of_isLaidOut
    (threePhase : chargingStation.IsThreePhase) :
    getNumberOfConnectedPhases chargingStation none 0 = 3 := by
  unfold getNumberOfConnectedPhases
  dsimp only
  split
  · rename_i phases stated
    obtain ⟨other, memOther, stated⟩ := List.exists_of_findSome?_eq_some stated
    have ofOther := threePhase.chargePoints other memOther
    rw [isConsidered_none, if_pos rfl] at stated
    split at stated
    · cases stated
      omega
    · rename_i unstated
      rw [if_neg fun stated => unstated ⟨rfl, stated.2⟩] at stated
      cases stated
  · rename_i unstated
    have none : chargePoint.numberOfConnectedPhase = 0 := by
      have unstated := List.findSome?_eq_none_iff.mp unstated chargePoint memPoint
      by_contra stated
      rw [isConsidered_none, if_pos rfl, if_pos ⟨rfl, stated⟩] at unstated
      cases unstated
    have stated := (threePhase.stated chargePoint memPoint connector mem same).resolve_left
      (by omega)
    cases found : chargingStation.connectors.findSome? fun connector =>
        if (0 = 0 ∨ connector.connectorId = 0) ∧ connector.numberOfConnectedPhase ≠ 0 then
          some connector.numberOfConnectedPhase
        else Option.none with
    | none =>
        have unstated := List.findSome?_eq_none_iff.mp found connector mem
        rw [if_pos ⟨.inl rfl, by omega⟩] at unstated
        cases unstated
    | some phases =>
        obtain ⟨other, memOther, phasesOf⟩ := List.exists_of_findSome?_eq_some found
        have ofOther := threePhase.connectors other memOther
        split at phasesOf
        · cases phasesOf
          rw [Option.getD_some]
          omega
        · cases phasesOf

end Utils

end

end EvServer
