import EvServer.ChargingStation
import EvServer.Lib.Outcome
import Mathlib.Data.List.Nodup
import Mathlib.Data.List.TakeWhile

/-!
# The UIDs of published EVSEs

The connectors of a charge point that cannot charge in parallel are published as one EVSE, any
other connector as an EVSE of its own.  The UID of an EVSE ends in a number: the ID of the charge
point for the connectors of one that cannot charge in parallel, and the ID of the connector
otherwise.  To start a session, the number is read back as the ID of a connector.

`evseUids_iff` says for which stations this works.
-/

namespace EvServer

/-! ## Reading a number -/

namespace Utils

/-- The global `parseInt` on decimal literals: the longest prefix that is one; `none` is `NaN`. -/
def parseInt (text : String) : Option ℤ :=
  let signed := parseSign (text.toList.dropWhile isBlank)
  let digits := signed.2.takeWhile Char.isDigit
  if digits.isEmpty then none else some (signed.1 * digitsValue digits)

/-- `Utils.convertToInt` of a text. -/
def convertToInt (text : String) : Option ℤ := if text = "" then some 0 else parseInt text

theorem digitsValue_toDigits (n : ℕ) : digitsValue (Nat.toDigits 10 n) = n :=
  Nat.ofDigitChars_ten_toDigits

theorem isDigit_of_mem_toDigits {n : ℕ} {c : Char} (mem : c ∈ Nat.toDigits 10 n) :
    c.isDigit = true :=
  Nat.isDigit_of_mem_toDigits (by decide) (by decide) mem

/-- A number is read back from its decimal text. -/
theorem convertToInt_toString (n : ℕ) : convertToInt (toString n) = some (n : ℤ) := by
  have digits : (toString n).toList = Nat.toDigits 10 n := Nat.toList_repr
  have nonempty : Nat.toDigits 10 n ≠ [] := Nat.toDigits_ne_nil
  have notEmpty : toString n ≠ "" := by
    intro empty
    rw [empty] at digits
    exact nonempty digits.symm
  obtain ⟨first, rest, hdigits⟩ := List.exists_cons_of_ne_nil nonempty
  have isDigit : first.isDigit = true :=
    isDigit_of_mem_toDigits (n := n) (hdigits ▸ List.mem_cons_self)
  have unsigned : parseSign (Nat.toDigits 10 n) = (1, Nat.toDigits 10 n) := by
    rw [hdigits]
    unfold parseSign
    split
    · rename_i same
      obtain ⟨rfl, -⟩ := List.cons.inj same
      exact absurd isDigit (by decide)
    · rename_i same
      obtain ⟨rfl, -⟩ := List.cons.inj same
      exact absurd isDigit (by decide)
    · rfl
  have notBlank : (Nat.toDigits 10 n).dropWhile isBlank = Nat.toDigits 10 n := by
    rw [hdigits]
    refine List.dropWhile_cons_of_neg fun blank => ?_
    simp only [isBlank, Bool.or_eq_true, decide_eq_true_eq] at blank
    rcases blank with ((rfl | rfl) | rfl) | rfl <;> exact absurd isDigit (by decide)
  have all : (Nat.toDigits 10 n).takeWhile Char.isDigit = Nat.toDigits 10 n :=
    List.takeWhile_eq_self_iff.mpr fun _ => isDigit_of_mem_toDigits
  rw [convertToInt, if_neg notEmpty, parseInt]
  simp only [digits, notBlank, unsigned, all]
  rw [if_neg (by simp), digitsValue_toDigits, one_mul]

end Utils

/-! ## EVSEs -/

/-- `OCPIEvse`, with its UID, its location and the connectors it has, not yet converted. -/
structure PublishedEvse where
  uid : String
  location_id : Option String
  connectors : List Connector
  deriving DecidableEq, Repr

namespace OCPIUtils

/-- `getConnectorIDFromEvseID`: what comes after the last separator. -/
def getConnectorIDFromEvseID (evseID : String) : String :=
  String.ofList ((evseID.toList.splitOn '*').getLast?.getD [])

/-- The charge point of a connector, if it cannot charge in parallel. -/
def groupingChargePoint (chargingStation : ChargingStation) (connector : Connector) :
    Option ChargePoint :=
  if connector.chargePointID ≠ 0 then
    (Utils.getChargePointFromID chargingStation connector.chargePointID).filter
      ChargePoint.cannotChargeInParallel
  else none

/-- `buildEvseUID`; connectors are grouped in the same EVSE when they cannot charge in parallel. -/
def buildEvseUID (chargingStation : ChargingStation) (connector : Connector) : String :=
  match groupingChargePoint chargingStation connector with
  | some chargePoint => s!"{chargingStation.id}*{chargePoint.chargePointID}"
  | none => s!"{chargingStation.id}*{connector.connectorId}"

end OCPIUtils

namespace Utils

/-- `Utils.getConnectorsFromChargePoint`. -/
def getConnectorsFromChargePoint (chargingStation : ChargingStation)
    (chargePoint : ChargePoint) : List Connector :=
  chargePoint.connectorIDs.filterMap (getConnectorFromID chargingStation)

end Utils

namespace OCPIUtilsService

/-- `convertChargingStation2MultipleEvses`. -/
def convertChargingStation2MultipleEvses (chargingStation : ChargingStation)
    (chargePoint : Option ChargePoint) : List PublishedEvse :=
  let connectors :=
    match chargePoint with
    | some chargePoint => Utils.getConnectorsFromChargePoint chargingStation chargePoint
    | none => chargingStation.connectors
  connectors.map fun connector =>
    { uid := OCPIUtils.buildEvseUID chargingStation connector
      location_id := chargingStation.siteID
      connectors := [connector] }

/-- `convertChargingStation2UniqueEvse`. -/
def convertChargingStation2UniqueEvse (chargingStation : ChargingStation)
    (chargePoint : ChargePoint) : Except String (List PublishedEvse) :=
  let connectors := Utils.getConnectorsFromChargePoint chargingStation chargePoint
  match connectors.head? with
  | none => .error "TypeError: Cannot read properties of undefined (reading 'chargePointID')"
  | some first =>
      .ok [{ uid := OCPIUtils.buildEvseUID chargingStation first
             location_id := chargingStation.siteID
             connectors := connectors }]

/-- The EVSEs of a charge point. -/
def convertChargePoint (chargingStation : ChargingStation) (chargePoint : ChargePoint) :
    Except String (List PublishedEvse) :=
  if chargePoint.cannotChargeInParallel then
    convertChargingStation2UniqueEvse chargingStation chargePoint
  else .ok (convertChargingStation2MultipleEvses chargingStation (some chargePoint))

/-- The EVSEs of the charge points of a station. -/
def convertChargePoints (chargingStation : ChargingStation) :
    List ChargePoint → Except String (List PublishedEvse)
  | [] => .ok []
  | chargePoint :: rest => do
      let evses ← convertChargePoint chargingStation chargePoint
      let others ← convertChargePoints chargingStation rest
      return evses ++ others

/-- The `chargingStationEvses` of `getEvsesFromSite`. -/
def chargingStationEvses (chargingStation : ChargingStation) :
    Except String (List PublishedEvse) :=
  if chargingStation.chargePoints.isEmpty then
    .ok (convertChargingStation2MultipleEvses chargingStation none)
  else convertChargePoints chargingStation chargingStation.chargePoints

/-- `getEvsesFromSite`: the public stations of a site with their EVSEs, which are saved as their
OCPI data. -/
def getEvsesFromSite :
    List ChargingStation → Except String (List (ChargingStation × List PublishedEvse))
  | [] => .ok []
  | chargingStation :: rest => do
      let evses ← chargingStationEvses chargingStation
      let others ← getEvsesFromSite rest
      return (chargingStation, evses) :: others

end OCPIUtilsService

namespace CPOCommandsEndpoint

/-- The station that `remoteStartSessionRequest` finds: the only one with the EVSE and the
location in its OCPI data. -/
def getChargingStation (saved : List (ChargingStation × List PublishedEvse))
    (location_id evse_uid : String) : Option ChargingStation :=
  match saved.filter fun station =>
      station.2.any (fun evse => evse.uid = evse_uid) &&
        station.2.any fun evse => evse.location_id = some location_id with
  | [station] => some station.1
  | _ => none

/-- The connector that `remoteStartSessionRequest` finds. -/
def startedConnector (saved : List (ChargingStation × List PublishedEvse))
    (location_id evse_uid : String) : Option Connector := do
  let chargingStation ← getChargingStation saved location_id evse_uid
  let connectorID ← Utils.convertToInt (OCPIUtils.getConnectorIDFromEvseID evse_uid)
  if 0 ≤ connectorID then Utils.getConnectorFromID chargingStation connectorID.toNat else none

end CPOCommandsEndpoint

/-! ## The numbers of EVSEs -/

namespace OCPIUtils

/-- A UID is the ID of the station and a number. -/
def evseUID (chargingStationID : String) (number : ℕ) : String :=
  s!"{chargingStationID}*{number}"

/-- The number in the UID of the EVSE of a connector. -/
def evseNumber (chargingStation : ChargingStation) (connector : Connector) : ℕ :=
  match groupingChargePoint chargingStation connector with
  | some chargePoint => chargePoint.chargePointID
  | none => connector.connectorId

theorem buildEvseUID_eq (chargingStation : ChargingStation) (connector : Connector) :
    buildEvseUID chargingStation connector =
      evseUID chargingStation.id (evseNumber chargingStation connector) := by
  unfold buildEvseUID evseNumber
  split <;> rfl

theorem toList_evseUID (chargingStationID : String) (number : ℕ) :
    (evseUID chargingStationID number).toList =
      chargingStationID.toList ++ '*' :: Nat.toDigits 10 number := by
  have name : (toString chargingStationID).toList = chargingStationID.toList := rfl
  have separator : (toString "*").toList = ['*'] := rfl
  simp [evseUID, name, separator]

/-- The number comes after the last separator. -/
theorem getConnectorIDFromEvseID_evseUID (chargingStationID : String) (number : ℕ) :
    getConnectorIDFromEvseID (evseUID chargingStationID number) = toString number := by
  have noSeparator : ∀ c ∈ Nat.toDigits 10 number, (c == '*') = false := by
    intro c mem
    have isDigit := Utils.isDigit_of_mem_toDigits mem
    refine beq_false_of_ne ?_
    rintro rfl
    exact absurd isDigit (by decide)
  have pieces := @List.splitOnP_append_cons Char (· == '*') chargingStationID.toList
    (Nat.toDigits 10 number) '*' (beq_self_eq_true '*')
  rw [getConnectorIDFromEvseID, toList_evseUID, List.splitOn, pieces,
    List.splitOnP_eq_singleton noSeparator, List.getLast?_append]
  exact Nat.toString_eq_ofList_toDigits.symm

/-- **A UID tells the station and the number.** -/
theorem evseUID_inj {id id' : String} {number number' : ℕ}
    (same : evseUID id number = evseUID id' number') : id = id' ∧ number = number' := by
  have texts := congrArg getConnectorIDFromEvseID same
  rw [getConnectorIDFromEvseID_evseUID, getConnectorIDFromEvseID_evseUID] at texts
  have numbers := congrArg Utils.convertToInt texts
  rw [Utils.convertToInt_toString, Utils.convertToInt_toString, Option.some.injEq,
    Nat.cast_inj] at numbers
  subst numbers
  have lists := congrArg String.toList same
  rw [toList_evseUID, toList_evseUID] at lists
  exact ⟨String.toList_injective (List.append_cancel_right lists), rfl⟩

end OCPIUtils

namespace ChargingStation

open OCPIUtils (groupingChargePoint evseNumber)

/-- The connectors that are published together, EVSE by EVSE. -/
def groups (chargingStation : ChargingStation) : List (List Connector) :=
  if chargingStation.chargePoints.isEmpty then
    chargingStation.connectors.map ([·])
  else
    chargingStation.chargePoints.flatMap fun chargePoint =>
      let connectors := Utils.getConnectorsFromChargePoint chargingStation chargePoint
      if chargePoint.cannotChargeInParallel then [connectors] else connectors.map ([·])

/-- The number of an EVSE is that of its first connector. -/
def number (chargingStation : ChargingStation) (connectors : List Connector) : ℕ :=
  (connectors.head?.map (evseNumber chargingStation)).getD 0

/-- **The condition on a station**: an EVSE that has the number of a charge point has a connector
with that ID, and no two EVSEs have the same number. -/
structure NumberedByConnectors (chargingStation : ChargingStation) : Prop where
  own : ∀ connectors ∈ chargingStation.groups, ∀ first ∈ connectors.head?,
    ∀ chargePoint ∈ groupingChargePoint chargingStation first,
      ∃ connector ∈ connectors, connector.connectorId = chargePoint.chargePointID
  apart : (chargingStation.groups.map chargingStation.number).Nodup

end ChargingStation

namespace OCPIUtilsService

open OCPIUtils (evseUID evseNumber buildEvseUID buildEvseUID_eq)

/-- The EVSE of connectors that are published together. -/
def publish (chargingStation : ChargingStation) (connectors : List Connector) : PublishedEvse where
  uid := evseUID chargingStation.id (chargingStation.number connectors)
  location_id := chargingStation.siteID
  connectors := connectors

variable {chargingStation : ChargingStation} {evses : List PublishedEvse}

theorem convertChargingStation2MultipleEvses_eq (chargePoint : Option ChargePoint) :
    convertChargingStation2MultipleEvses chargingStation chargePoint =
      ((match chargePoint with
        | some chargePoint => Utils.getConnectorsFromChargePoint chargingStation chargePoint
        | none => chargingStation.connectors).map ([·])).map (publish chargingStation) := by
  rw [List.map_map]
  refine List.map_congr_left fun connector _ => ?_
  show PublishedEvse.mk (buildEvseUID chargingStation connector) _ _ = _
  rw [buildEvseUID_eq]
  rfl

theorem convertChargingStation2UniqueEvse_ok {chargePoint : ChargePoint}
    (h : convertChargingStation2UniqueEvse chargingStation chargePoint = .ok evses) :
    Utils.getConnectorsFromChargePoint chargingStation chargePoint ≠ [] ∧
      evses = [publish chargingStation
        (Utils.getConnectorsFromChargePoint chargingStation chargePoint)] := by
  unfold convertChargingStation2UniqueEvse at h
  dsimp only at h
  cases hfirst : (Utils.getConnectorsFromChargePoint chargingStation chargePoint).head? with
  | none =>
      rw [hfirst] at h
      cases h
  | some first =>
      rw [hfirst] at h
      cases h
      refine ⟨?_, ?_⟩
      · intro none
        rw [none] at hfirst
        cases hfirst
      · rw [buildEvseUID_eq, publish, ChargingStation.number, hfirst]
        rfl

theorem convertChargePoints_ok {chargePoints : List ChargePoint}
    (h : convertChargePoints chargingStation chargePoints = .ok evses) :
    evses = (chargePoints.flatMap fun chargePoint =>
        let connectors := Utils.getConnectorsFromChargePoint chargingStation chargePoint
        if chargePoint.cannotChargeInParallel then [connectors] else connectors.map ([·])).map
          (publish chargingStation) ∧
      ∀ chargePoint ∈ chargePoints, chargePoint.cannotChargeInParallel = true →
        Utils.getConnectorsFromChargePoint chargingStation chargePoint ≠ [] := by
  induction chargePoints generalizing evses with
  | nil =>
      cases h
      exact ⟨rfl, fun _ mem => by cases mem⟩
  | cons chargePoint rest ih =>
      obtain ⟨first, hfirst, h⟩ := Outcome.bind_eq_ok.mp h
      obtain ⟨others, hothers, h⟩ := Outcome.bind_eq_ok.mp h
      obtain rfl := Outcome.pure_eq_ok_iff.mp h
      obtain ⟨rfl, nonempty⟩ := ih hothers
      rw [List.flatMap_cons, List.map_append, List.forall_mem_cons]
      cases grouped : chargePoint.cannotChargeInParallel with
      | true =>
          rw [convertChargePoint, if_pos grouped] at hfirst
          obtain ⟨some, rfl⟩ := convertChargingStation2UniqueEvse_ok hfirst
          exact ⟨by simp, fun _ => some, nonempty⟩
      | false =>
          rw [convertChargePoint, if_neg (by simp [grouped])] at hfirst
          cases hfirst
          rw [convertChargingStation2MultipleEvses_eq]
          exact ⟨by simp, nofun, nonempty⟩

/-- **The EVSEs of a station** are its groups of connectors, of which none is empty. -/
theorem chargingStationEvses_ok (h : chargingStationEvses chargingStation = .ok evses) :
    evses = chargingStation.groups.map (publish chargingStation) ∧
      ∀ connectors ∈ chargingStation.groups, connectors ≠ [] := by
  unfold chargingStationEvses at h
  unfold ChargingStation.groups
  split at h
  · rename_i none
    cases h
    rw [if_pos none, convertChargingStation2MultipleEvses_eq]
    refine ⟨rfl, fun connectors mem => ?_⟩
    obtain ⟨connector, -, rfl⟩ := List.mem_map.mp mem
    exact List.cons_ne_nil _ _
  · rename_i some
    rw [if_neg some]
    obtain ⟨same, nonempty⟩ := convertChargePoints_ok h
    refine ⟨same, fun connectors mem => ?_⟩
    obtain ⟨chargePoint, memPoint, mem⟩ := List.mem_flatMap.mp mem
    dsimp only at mem
    split at mem
    · rename_i grouped
      rw [List.mem_singleton.mp mem]
      exact nonempty chargePoint memPoint grouped
    · obtain ⟨connector, -, rfl⟩ := List.mem_map.mp mem
      exact List.cons_ne_nil _ _

theorem getEvsesFromSite_ok {stations : List ChargingStation}
    {saved : List (ChargingStation × List PublishedEvse)}
    (h : getEvsesFromSite stations = .ok saved) :
    saved = stations.map (fun station => (station, station.groups.map (publish station))) ∧
      ∀ station ∈ stations, ∀ connectors ∈ station.groups, connectors ≠ [] := by
  induction stations generalizing saved with
  | nil =>
      cases h
      exact ⟨rfl, fun _ mem => by cases mem⟩
  | cons station rest ih =>
      obtain ⟨evses, hevses, h⟩ := Outcome.bind_eq_ok.mp h
      obtain ⟨others, hothers, h⟩ := Outcome.bind_eq_ok.mp h
      obtain rfl := Outcome.pure_eq_ok_iff.mp h
      obtain ⟨rfl, nonempty⟩ := chargingStationEvses_ok hevses
      obtain ⟨rfl, others⟩ := ih hothers
      exact ⟨rfl, List.forall_mem_cons.mpr ⟨nonempty, others⟩⟩

end OCPIUtilsService

/-! ## Reading a UID back -/

namespace ChargingStation

open OCPIUtils (groupingChargePoint evseNumber)

variable {chargingStation : ChargingStation} {connectors : List Connector} {connector : Connector}

/-- The number of an EVSE is the ID of one of its connectors. -/
theorem own_iff (nonempty : connectors ≠ []) :
    (∀ first ∈ connectors.head?, ∀ chargePoint ∈ groupingChargePoint chargingStation first,
        ∃ connector ∈ connectors, connector.connectorId = chargePoint.chargePointID) ↔
      ∃ connector ∈ connectors, connector.connectorId = chargingStation.number connectors := by
  obtain ⟨first, rest, rfl⟩ := List.exists_cons_of_ne_nil nonempty
  have number : chargingStation.number (first :: rest) = evseNumber chargingStation first := rfl
  rw [number, evseNumber]
  cases hpoint : groupingChargePoint chargingStation first with
  | none =>
      refine iff_of_true ?_ ⟨first, List.mem_cons_self, rfl⟩
      intro first' same chargePoint
      rw [List.head?_cons, Option.mem_some_iff] at same
      rw [← same, hpoint]
      exact nofun
  | some chargePoint =>
      constructor
      · intro own
        exact own first rfl chargePoint hpoint
      · intro own first' same chargePoint' hpoint'
        rw [List.head?_cons, Option.mem_some_iff] at same
        rw [← same, hpoint, Option.mem_some_iff] at hpoint'
        rwa [← hpoint']

/-- A connector that is published is found by its ID. -/
theorem getConnectorFromID_of_mem_groups
    (apart : (chargingStation.groups.map chargingStation.number).Nodup)
    (mem : connectors ∈ chargingStation.groups) (memConnector : connector ∈ connectors) :
    Utils.getConnectorFromID chargingStation connector.connectorId = some connector := by
  unfold groups at mem apart
  split at mem
  · rename_i noPoints
    rw [if_pos noPoints, List.map_map] at apart
    obtain ⟨other, present, rfl⟩ := List.mem_map.mp mem
    obtain rfl := List.mem_singleton.mp memConnector
    -- Without charge points the numbers are the IDs of the connectors.
    have numbers : chargingStation.number ∘ (fun connector => [connector]) =
        Connector.connectorId := by
      funext connector
      have noPoint : groupingChargePoint chargingStation connector = none := by
        unfold groupingChargePoint
        rw [Utils.getChargePointFromID, List.isEmpty_iff.mp noPoints]
        simp
      show evseNumber chargingStation connector = _
      rw [evseNumber, noPoint]
    rw [numbers] at apart
    have found : Utils.getConnectorFromID chargingStation connector.connectorId ≠ Option.none := by
      rw [Utils.getConnectorFromID, ne_eq, List.find?_eq_none]
      exact fun absent => absent connector present (decide_eq_true rfl)
    obtain ⟨other, hother⟩ := Option.ne_none_iff_exists'.mp found
    have same : other.connectorId = connector.connectorId :=
      of_decide_eq_true (List.find?_some (p := fun other => decide (_ = _)) hother)
    rw [hother, List.inj_on_of_nodup_map apart (List.mem_of_find?_eq_some hother) present same]
  · obtain ⟨chargePoint, -, mem⟩ := List.mem_flatMap.mp mem
    have listed :
        connector ∈ Utils.getConnectorsFromChargePoint chargingStation chargePoint := by
      dsimp only at mem
      split at mem
      · rwa [← List.mem_singleton.mp mem]
      · obtain ⟨other, present, rfl⟩ := List.mem_map.mp mem
        rwa [List.mem_singleton.mp memConnector]
    obtain ⟨connectorID, -, found⟩ := List.mem_filterMap.mp listed
    have same : connector.connectorId = connectorID :=
      of_decide_eq_true (List.find?_some (p := fun other => decide (_ = _)) found)
    rwa [same]

end ChargingStation

namespace OCPIUtilsService

open OCPIUtils (evseUID evseUID_inj)
open CPOCommandsEndpoint (getChargingStation startedConnector)

variable {stations : List ChargingStation} {siteID : String} {connectors : List Connector}
variable {chargingStation : ChargingStation}
variable {saved : List (ChargingStation × List PublishedEvse)}

/-- The station with its EVSEs. -/
def savedStation (chargingStation : ChargingStation) : ChargingStation × List PublishedEvse :=
  (chargingStation, chargingStation.groups.map (publish chargingStation))

/-- A published UID leads to its station. -/
theorem getChargingStation_publish (nodup : (stations.map ChargingStation.id).Nodup)
    (atSite : ∀ station ∈ stations, station.siteID = some siteID)
    (mem : chargingStation ∈ stations) (memGroup : connectors ∈ chargingStation.groups) :
    getChargingStation (stations.map savedStation) siteID (publish chargingStation connectors).uid =
      some chargingStation := by
  have only : (stations.map savedStation).filter (fun station =>
      station.2.any (fun evse => evse.uid = (publish chargingStation connectors).uid) &&
        station.2.any fun evse => evse.location_id = some siteID) =
        [savedStation chargingStation] := by
    have distinct : (stations.map savedStation).Nodup := by
      refine List.Nodup.of_map (fun station => station.1.id) ?_
      rwa [List.map_map]
    refine List.perm_singleton.mp ((List.perm_ext_iff_of_nodup (distinct.filter _)
      (List.nodup_singleton _)).mpr fun station => ?_)
    rw [List.mem_filter, List.mem_singleton, Bool.and_eq_true, List.any_eq_true, List.any_eq_true]
    constructor
    · rintro ⟨hstation, ⟨evse, hevse, same⟩, -⟩
      obtain ⟨other, hother, rfl⟩ := List.mem_map.mp hstation
      obtain ⟨_, -, rfl⟩ := List.mem_map.mp hevse
      obtain ⟨id, -⟩ := evseUID_inj (of_decide_eq_true same)
      rw [List.inj_on_of_nodup_map nodup hother mem id]
    · rintro rfl
      have published : publish chargingStation connectors ∈ (savedStation chargingStation).2 :=
        List.mem_map_of_mem memGroup
      exact ⟨List.mem_map_of_mem mem, ⟨_, published, decide_eq_true rfl⟩, _, published,
        decide_eq_true (atSite chargingStation mem)⟩
  unfold getChargingStation
  rw [only]
  rfl

/-- A published UID is read back as the connector with its number. -/
theorem startedConnector_publish (nodup : (stations.map ChargingStation.id).Nodup)
    (atSite : ∀ station ∈ stations, station.siteID = some siteID)
    (mem : chargingStation ∈ stations) (memGroup : connectors ∈ chargingStation.groups) :
    startedConnector (stations.map savedStation) siteID (publish chargingStation connectors).uid =
      Utils.getConnectorFromID chargingStation (chargingStation.number connectors) := by
  have read : Utils.convertToInt (OCPIUtils.getConnectorIDFromEvseID
      (publish chargingStation connectors).uid) = some (chargingStation.number connectors : ℤ) := by
    rw [publish, OCPIUtils.getConnectorIDFromEvseID_evseUID, Utils.convertToInt_toString]
  rw [startedConnector, getChargingStation_publish nodup atSite mem memGroup, read]
  rfl

/-- **What the published UIDs are for**: no two EVSEs have the same, and a session is started on
one of the connectors of the EVSE with the UID. -/
structure ReadsBack (siteID : String) (saved : List (ChargingStation × List PublishedEvse)) :
    Prop where
  distinct : ((saved.flatMap Prod.snd).map PublishedEvse.uid).Nodup
  decodes : ∀ station ∈ saved, ∀ evse ∈ station.2,
    ∃ connector ∈ evse.connectors, startedConnector saved siteID evse.uid = some connector

/-- **The UIDs of a site** can be read back just when each of its stations is numbered by
connectors. -/
theorem evseUids_iff (nodup : (stations.map ChargingStation.id).Nodup)
    (atSite : ∀ station ∈ stations, station.siteID = some siteID)
    (published : getEvsesFromSite stations = .ok saved) :
    ReadsBack siteID saved ↔ ∀ station ∈ stations, station.NumberedByConnectors := by
  obtain ⟨rfl, nonempty⟩ := getEvsesFromSite_ok published
  change ReadsBack siteID (stations.map savedStation) ↔ _
  have uids (station : ChargingStation) : (savedStation station).2.map PublishedEvse.uid =
      (station.groups.map station.number).map (evseUID station.id) := by
    rw [savedStation, List.map_map, List.map_map]
    rfl
  have uids_nodup_iff (station : ChargingStation) :
      ((savedStation station).2.map PublishedEvse.uid).Nodup ↔
        (station.groups.map station.number).Nodup := by
    rw [uids]
    exact List.nodup_map_iff fun _ _ same => (evseUID_inj same).2
  constructor
  · rintro ⟨distinct, decodes⟩ station mem
    refine ⟨fun connectors memGroup => ?_, (uids_nodup_iff station).mp ?_⟩
    · refine (ChargingStation.own_iff (nonempty station mem connectors memGroup)).mpr ?_
      obtain ⟨connector, own, started⟩ := decodes (savedStation station)
        (List.mem_map_of_mem mem) (publish station connectors) (List.mem_map_of_mem memGroup)
      rw [startedConnector_publish nodup atSite mem memGroup] at started
      exact ⟨connector, own,
        of_decide_eq_true (List.find?_some (p := fun other => decide (_ = _)) started)⟩
    · rw [List.map_flatMap, List.nodup_flatMap] at distinct
      exact distinct.1 (savedStation station) (List.mem_map_of_mem mem)
  · intro numbered
    constructor
    · rw [List.map_flatMap, List.nodup_flatMap]
      constructor
      · intro _ memSaved
        obtain ⟨station, mem, rfl⟩ := List.mem_map.mp memSaved
        exact (uids_nodup_iff station).mpr (numbered station mem).apart
      · rw [List.pairwise_map]
        refine (List.pairwise_map.mp nodup).imp fun {station other} ids => ?_
        intro uid mem mem'
        change uid ∈ (savedStation station).2.map PublishedEvse.uid at mem
        change uid ∈ (savedStation other).2.map PublishedEvse.uid at mem'
        rw [uids] at mem mem'
        obtain ⟨number, -, rfl⟩ := List.mem_map.mp mem
        obtain ⟨number', -, same⟩ := List.mem_map.mp mem'
        exact ids (evseUID_inj same).1.symm
    · intro _ memSaved evse hevse
      obtain ⟨station, mem, rfl⟩ := List.mem_map.mp memSaved
      obtain ⟨connectors, memGroup, rfl⟩ := List.mem_map.mp hevse
      obtain ⟨connector, own, number⟩ :=
        (ChargingStation.own_iff (nonempty station mem connectors memGroup)).mp
          ((numbered station mem).own connectors memGroup)
      refine ⟨connector, own, ?_⟩
      rw [startedConnector_publish nodup atSite mem memGroup, ← number]
      exact ChargingStation.getConnectorFromID_of_mem_groups (numbered station mem).apart memGroup
        own

/-- A charge point with ID 1 that cannot charge in parallel has the connectors 2 and 3, and
connector 1 is on a charge point of its own. -/
def exampleStation (grouped : ℕ) : ChargingStation :=
  { id := "CS1"
    siteID := some "site"
    chargePoints :=
      [{ chargePointID := grouped, cannotChargeInParallel := true, connectorIDs := [2, 3] },
        { chargePointID := 4, connectorIDs := [1] }]
    connectors :=
      [{ connectorId := 1, chargePointID := 4 }, { connectorId := 2, chargePointID := grouped },
        { connectorId := 3, chargePointID := grouped }] }

instance (chargingStation : ChargingStation) :
    Decidable chargingStation.NumberedByConnectors :=
  decidable_of_iff ((∀ connectors ∈ chargingStation.groups, ∀ first ∈ connectors.head?,
      ∀ chargePoint ∈ OCPIUtils.groupingChargePoint chargingStation first,
        ∃ connector ∈ connectors, connector.connectorId = chargePoint.chargePointID) ∧
      (chargingStation.groups.map chargingStation.number).Nodup)
    ⟨fun h => ⟨h.1, h.2⟩, fun h => ⟨h.own, h.apart⟩⟩

/-- With ID 2 the charge point has the number of one of its connectors. -/
theorem evseUids_iff_station :
    ∃ saved, getEvsesFromSite [exampleStation 2] = .ok saved ∧ ReadsBack "site" saved := by
  have readsBack := @evseUids_iff [exampleStation 2] "site" _ (by decide) (by decide) rfl
  exact ⟨_, rfl, readsBack.mpr (by decide +kernel)⟩

/-- With ID 1 it has the number of another connector: two EVSEs have one UID, and a session on
the one starts on the other. -/
theorem not_readsBack : ∃ saved, getEvsesFromSite [exampleStation 1] = .ok saved ∧
    ((saved.flatMap Prod.snd).map PublishedEvse.uid) = ["CS1*1", "CS1*1"] ∧
    (CPOCommandsEndpoint.startedConnector saved "site" "CS1*1").map Connector.connectorId =
      some 1 ∧ ¬ ReadsBack "site" saved := by
  refine ⟨_, rfl, by decide +kernel, by decide +kernel, fun readsBack => ?_⟩
  exact absurd readsBack.distinct (by decide +kernel)

end OCPIUtilsService

end EvServer
