import EvServer.ChargingStationVendor.ChargingProfile
import EvServer.Ocpp.StopHandler

/-!
# The static power limitation of a charge point

`setStaticPowerLimitation` sends the limit of a charge point to the station as an OCPP
parameter and stores it at the connectors.  When the parameter is changed by other means,
`checkUpdateOfOCPPParams` computes the limits of the connectors from its value.

The first stores the share of the limit at every connector of the station, whichever
charge point it belongs to, and the second starts from a parameter that has been divided
by the phases and is truncated when it is read.  `confinesLimitation_iff` says when the
limits stored are those recomputed, and no other connector has been changed.
-/

namespace EvServer

/-- `OCPPConfigurationStatus`. -/
inductive OCPPConfigurationStatus
  | accepted
  | rejected
  | rebootRequired
  | notSupported
  deriving DecidableEq, Repr

/-- Why `setStaticPowerLimitation` throws. -/
inductive LimitationError
  /-- "Charging Station capabilities or configuration does not support power limitation" -/
  | notSupported
  /-- "Cannot set the minimum power limit to …A, minimum expected …A" -/
  | belowMinimum (maxAmps minimum : ℚ)
  /-- "The Charging Station has no connector" -/
  | noConnector
  /-- The request to the station has failed with an error without a status. -/
  | request
  deriving DecidableEq, Repr

namespace ChargingStationVendorIntegration

/-- `hasStaticLimitationFullSupport`. -/
def hasStaticLimitationFullSupport (chargingStation : ChargingStation)
    (chargePoint : ChargePoint) : Bool :=
  chargingStation.supportStaticLimitation && !chargePoint.excludeFromPowerLimitation &&
    chargePoint.ocppParamForPowerLimitation ≠ ""

/-- `connector.amperageLimit = amperageLimit`. -/
def setAmperageLimit (amperageLimit : ℚ) (connector : Connector) : Connector :=
  { connector with amperageLimit := some amperageLimit }

/-- The station after a change of its parameter has been accepted; `none` when the limit that
is stored is no finite number. -/
def limitConnectors (chargingStation : ChargingStation) (chargePoint : ChargePoint)
    (maxAmps : ℚ) : Option ChargingStation :=
  (chargePointToConnectorLimitAmps chargePoint maxAmps).map fun limitAmpsPerConnector =>
    { chargingStation with
      connectors := chargingStation.connectors.map (setAmperageLimit limitAmpsPerConnector) }

/-- The status a request is answered with, also by an error that has one. -/
def answeredStatus :
    Except (Option OCPPConfigurationStatus) OCPPConfigurationStatus →
      Except LimitationError OCPPConfigurationStatus
  | .ok status => .ok status
  | .error (some status) => .ok status
  | .error none => .error .request

/-- `setStaticPowerLimitation`; `requestChange` is the answer of
`requestChangeChargingStationOcppParameter` to a key and a value, where an error may have a
status. -/
def setStaticPowerLimitation
    (requestChange : String → Option ℚ →
      Except (Option OCPPConfigurationStatus) OCPPConfigurationStatus)
    (chargingStation : ChargingStation) (chargePoint : ChargePoint)
    (maxAmps ocppParamValueMultiplier : ℚ) :
    Except LimitationError (OCPPConfigurationStatus × Option ChargingStation) :=
  let numberOfPhases := Utils.getNumberOfConnectedPhases chargingStation (some chargePoint) 0
  let minimum :=
    StaticLimitAmps.minLimitPerPhase * numberOfPhases * chargePoint.connectorIDs.length
  if chargePoint.excludeFromPowerLimitation then .ok (.notSupported, some chargingStation)
  else if chargePoint.ocppParamForPowerLimitation = "" then
    .ok (.notSupported, some chargingStation)
  -- Check if feature is fully supported
  else if !hasStaticLimitationFullSupport chargingStation chargePoint then .error .notSupported
  else if maxAmps < minimum then .error (.belowMinimum maxAmps minimum)
  else if chargingStation.connectors.isEmpty then .error .noConnector
  else do
    -- Fixed the max amp per connector
    let ocppLimitAmpValue := convertLimitAmpPerPhase chargingStation chargePoint 0
      (maxAmps * ocppParamValueMultiplier)
    let status ← answeredStatus
      (requestChange chargePoint.ocppParamForPowerLimitation ocppLimitAmpValue)
    if status = .accepted ∨ status = .rebootRequired then
      return (status, limitConnectors chargingStation chargePoint maxAmps)
    else return (status, some chargingStation)

/-- The update of one connector; nothing when the station does not have it. -/
def recomputeConnector (chargePoint : ChargePoint) (amps : ℚ) (chargingStation : ChargingStation)
    (connectorID : ℕ) : ChargingStation :=
  { chargingStation with
    connectors := OCPPUtils.updateConnector connectorID
      (setAmperageLimit
        (convertLimitAmpToAllPhases chargingStation chargePoint connectorID amps))
      chargingStation.connectors }

/-- The update of the connectors of one charge point. -/
def recomputeChargePoint (ocppParamName : String) (amps : ℚ) (chargingStation : ChargingStation)
    (chargePoint : ChargePoint) : ChargingStation :=
  if ocppParamName = chargePoint.ocppParamForPowerLimitation then
    chargePoint.connectorIDs.foldl (recomputeConnector chargePoint amps) chargingStation
  else chargingStation

/-- `checkUpdateOfOCPPParams`, with the number whose text is the value of the parameter:
`parseInt` reads its whole part. -/
def checkUpdateOfOCPPParams (chargingStation : ChargingStation) (ocppParamName : String)
    (ocppParamValue ocppParamValueDivider : ℚ) : ChargingStation :=
  let amps := Rounding.truncate ocppParamValue / ocppParamValueDivider
  chargingStation.chargePoints.foldl (recomputeChargePoint ocppParamName amps) chargingStation

end ChargingStationVendorIntegration

/-- `DefaultChargingStationVendorIntegration`, `EVBOXChargingStationVendorIntegration` and
`KebaChargingStationVendorIntegration`. -/
inductive VendorIntegration
  | default
  | evbox
  | keba
  deriving DecidableEq, Repr

/-- The unit of the parameter: amperes, a tenth of them (EV-BOX) or milliamperes (Keba).  Both
`setStaticPowerLimitation` and `checkUpdateOfOCPPParams` are overridden with it. -/
def VendorIntegration.ocppParamValueMultiplier : VendorIntegration → ℚ
  | default => 1
  | evbox => 10
  | keba => 1000

theorem VendorIntegration.ocppParamValueMultiplier_pos (vendor : VendorIntegration) :
    0 < vendor.ocppParamValueMultiplier := by
  cases vendor <;> norm_num [ocppParamValueMultiplier]

namespace ChargingStationVendorIntegration

/-! ## Limits do not change the layout of a station -/

/-- The stations differ in the limits of their connectors only. -/
structure SameLayout (chargingStation chargingStation' : ChargingStation) : Prop where
  chargePoints : chargingStation'.chargePoints = chargingStation.chargePoints
  connectors : chargingStation'.connectors.map (setAmperageLimit 0) =
    chargingStation.connectors.map (setAmperageLimit 0)

namespace SameLayout

variable {chargingStation between chargingStation' : ChargingStation}

theorem refl (chargingStation : ChargingStation) : SameLayout chargingStation chargingStation :=
  ⟨rfl, rfl⟩

theorem trans (first : SameLayout chargingStation between)
    (second : SameLayout between chargingStation') :
    SameLayout chargingStation chargingStation' :=
  ⟨second.chargePoints.trans first.chargePoints, second.connectors.trans first.connectors⟩

end SameLayout

/-- The numbers of phases do not depend on the limits. -/
theorem getNumberOfConnectedPhases_setAmperageLimit (chargingStation : ChargingStation)
    (chargePoint : Option ChargePoint) (connectorID : ℕ) :
    Utils.getNumberOfConnectedPhases { chargingStation with
        connectors := chargingStation.connectors.map (setAmperageLimit 0) } chargePoint
        connectorID =
      Utils.getNumberOfConnectedPhases chargingStation chargePoint connectorID := by
  have lookup : Utils.getConnectorFromID { chargingStation with
      connectors := chargingStation.connectors.map (setAmperageLimit 0) } connectorID =
      (Utils.getConnectorFromID chargingStation connectorID).map (setAmperageLimit 0) :=
    List.find?_map
  unfold Utils.getNumberOfConnectedPhases
  simp only [lookup, List.findSome?_map]
  cases Utils.getConnectorFromID chargingStation connectorID <;> rfl

theorem SameLayout.getNumberOfConnectedPhases {chargingStation chargingStation' : ChargingStation}
    (same : SameLayout chargingStation chargingStation') (chargePoint : Option ChargePoint)
    (connectorID : ℕ) :
    Utils.getNumberOfConnectedPhases chargingStation' chargePoint connectorID =
      Utils.getNumberOfConnectedPhases chargingStation chargePoint connectorID := by
  rw [← getNumberOfConnectedPhases_setAmperageLimit chargingStation',
    ← getNumberOfConnectedPhases_setAmperageLimit chargingStation, same.connectors]
  unfold Utils.getNumberOfConnectedPhases Utils.getConnectorFromID
  rw [same.chargePoints]

theorem SameLayout.convertLimitAmpToAllPhases
    {chargingStation chargingStation' : ChargingStation}
    (same : SameLayout chargingStation chargingStation') (chargePoint : ChargePoint)
    (connectorID : ℕ) (limitAmp : ℚ) :
    convertLimitAmpToAllPhases chargingStation' chargePoint connectorID limitAmp =
      convertLimitAmpToAllPhases chargingStation chargePoint connectorID limitAmp := by
  unfold ChargingStationVendorIntegration.convertLimitAmpToAllPhases
  rw [same.getNumberOfConnectedPhases]

/-! ## Recomputed limits -/

section Recompute

variable {chargingStation chargingStation' : ChargingStation} {chargePoint : ChargePoint}
variable {amps : ℚ} {connectorID : ℕ}

/-- The update of a connector keeps the layout. -/
theorem sameLayout_recomputeConnector (chargePoint : ChargePoint) (amps : ℚ)
    (chargingStation : ChargingStation) (connectorID : ℕ) :
    SameLayout chargingStation
      (recomputeConnector chargePoint amps chargingStation connectorID) := by
  refine ⟨rfl, ?_⟩
  unfold recomputeConnector
  generalize convertLimitAmpToAllPhases chargingStation chargePoint connectorID amps = limit
  dsimp only
  induction chargingStation.connectors with
  | nil => rfl
  | cons connector rest ih =>
      rw [OCPPUtils.updateConnector]
      split
      · rfl
      · rw [List.map_cons, List.map_cons, ih]

theorem getConnectorFromID_recomputeConnector (chargePoint : ChargePoint) (amps : ℚ)
    (chargingStation : ChargingStation) (updated connectorID : ℕ) :
    Utils.getConnectorFromID (recomputeConnector chargePoint amps chargingStation updated)
        connectorID =
      (Utils.getConnectorFromID chargingStation connectorID).map
        (if connectorID = updated then
          setAmperageLimit (convertLimitAmpToAllPhases chargingStation chargePoint updated amps)
        else id) :=
  OCPPUtils.find?_updateConnector (f := setAmperageLimit _) (fun _ same => same) connectorID
    chargingStation.connectors

/-- The last charge point that has the parameter and the connector. -/
def lastChargePoint? (ocppParamName : String) (connectorID : ℕ)
    (chargePoints : List ChargePoint) : Option ChargePoint :=
  (chargePoints.filter fun chargePoint =>
    ocppParamName = chargePoint.ocppParamForPowerLimitation &&
      connectorID ∈ chargePoint.connectorIDs).getLast?

/-- The change that the charge points of a list make to the limit of a connector. -/
def recomputedBy (chargingStation : ChargingStation) (ocppParamName : String) (amps : ℚ)
    (connectorID : ℕ) (chargePoints : List ChargePoint) : Connector → Connector :=
  match lastChargePoint? ocppParamName connectorID chargePoints with
  | none => id
  | some chargePoint =>
      setAmperageLimit (convertLimitAmpToAllPhases chargingStation chargePoint connectorID amps)

/-- A charge point that does not have the parameter and the connector makes no change. -/
theorem recomputedBy_append_of_not {ocppParamName : String} (chargePoints : List ChargePoint)
    (other : ¬ (ocppParamName = chargePoint.ocppParamForPowerLimitation ∧
      connectorID ∈ chargePoint.connectorIDs)) :
    recomputedBy chargingStation ocppParamName amps connectorID (chargePoints ++ [chargePoint]) =
      recomputedBy chargingStation ocppParamName amps connectorID chargePoints := by
  unfold recomputedBy lastChargePoint?
  rw [List.filter_append, List.filter_cons_of_neg (by simpa using other), List.filter_nil,
    List.append_nil]

/-- The last charge point that has them makes the change. -/
theorem recomputedBy_append (chargePoints : List ChargePoint)
    (mem : connectorID ∈ chargePoint.connectorIDs) :
    recomputedBy chargingStation chargePoint.ocppParamForPowerLimitation amps connectorID
        (chargePoints ++ [chargePoint]) =
      setAmperageLimit
        (convertLimitAmpToAllPhases chargingStation chargePoint connectorID amps) := by
  unfold recomputedBy lastChargePoint?
  rw [List.filter_append, List.filter_cons_of_pos (by simpa using mem), List.filter_nil,
    List.getLast?_concat]

/-- An earlier change of the limit does not matter. -/
theorem setAmperageLimit_comp_recomputedBy (limit : ℚ) (ocppParamName : String)
    (chargePoints : List ChargePoint) :
    setAmperageLimit limit ∘
        recomputedBy chargingStation ocppParamName amps connectorID chargePoints =
      setAmperageLimit limit := by
  unfold recomputedBy
  split <;> rfl

/-- Connector by connector: those of the list have the limit of the charge point afterwards. -/
theorem foldl_recomputeConnector (chargePoint : ChargePoint) (amps : ℚ)
    (chargingStation : ChargingStation) (connectorID : ℕ) (connectorIDs : List ℕ) :
    SameLayout chargingStation
        (connectorIDs.foldl (recomputeConnector chargePoint amps) chargingStation) ∧
      Utils.getConnectorFromID
          (connectorIDs.foldl (recomputeConnector chargePoint amps) chargingStation) connectorID =
        (Utils.getConnectorFromID chargingStation connectorID).map
          (if connectorID ∈ connectorIDs then
            setAmperageLimit
              (convertLimitAmpToAllPhases chargingStation chargePoint connectorID amps)
          else id) := by
  induction connectorIDs using List.reverseRecOn with
  | nil => exact ⟨.refl _, by simp⟩
  | append_singleton connectorIDs updated ih =>
      obtain ⟨same, lookup⟩ := ih
      rw [List.foldl_append, List.foldl_cons, List.foldl_nil]
      refine ⟨same.trans (sameLayout_recomputeConnector _ _ _ _), ?_⟩
      rw [getConnectorFromID_recomputeConnector, same.convertLimitAmpToAllPhases, lookup,
        Option.map_map]
      refine congrArg (Option.map · _) ?_
      by_cases last : connectorID = updated
      · subst last
        simp only [if_true, List.mem_append, List.mem_singleton, or_true]
        split <;> rfl
      · simp only [List.mem_append, List.mem_singleton, last, or_false]
        rfl

/-- **The recomputed limits.**  Every connector has the limit of the last charge point that
has the parameter and the connector. -/
theorem getConnectorFromID_checkUpdate (chargingStation : ChargingStation) (ocppParamName : String)
    (amps : ℚ) (connectorID : ℕ) (chargePoints : List ChargePoint) :
    SameLayout chargingStation
        (chargePoints.foldl (recomputeChargePoint ocppParamName amps) chargingStation) ∧
      Utils.getConnectorFromID
          (chargePoints.foldl (recomputeChargePoint ocppParamName amps) chargingStation)
          connectorID =
        (Utils.getConnectorFromID chargingStation connectorID).map
          (recomputedBy chargingStation ocppParamName amps connectorID chargePoints) := by
  induction chargePoints using List.reverseRecOn with
  | nil => exact ⟨.refl _, by simp [recomputedBy, lastChargePoint?]⟩
  | append_singleton chargePoints chargePoint ih =>
      obtain ⟨same, lookup⟩ := ih
      rw [List.foldl_append, List.foldl_cons, List.foldl_nil]
      rw [recomputeChargePoint]
      by_cases named : ocppParamName = chargePoint.ocppParamForPowerLimitation
      · subst named
        rw [if_pos rfl]
        obtain ⟨turned, relookup⟩ := foldl_recomputeConnector chargePoint amps
          (chargePoints.foldl (recomputeChargePoint chargePoint.ocppParamForPowerLimitation amps)
            chargingStation) connectorID chargePoint.connectorIDs
        refine ⟨same.trans turned, ?_⟩
        rw [relookup, lookup, Option.map_map, same.convertLimitAmpToAllPhases]
        refine congrArg (Option.map · _) ?_
        by_cases mem : connectorID ∈ chargePoint.connectorIDs
        · rw [if_pos mem, setAmperageLimit_comp_recomputedBy, recomputedBy_append _ mem]
        · rw [if_neg mem, recomputedBy_append_of_not _ fun has => mem has.2]
          rfl
      · rw [if_neg named, recomputedBy_append_of_not _ fun has => named has.1]
        exact ⟨same, lookup⟩

/-! ## Accepted limitations -/

/-- The change of the parameter takes effect. -/
def IsAccepted (status : OCPPConfigurationStatus) : Prop :=
  status = .accepted ∨ status = .rebootRequired

/-- The second station is the first one but for the limits of the connectors of the charge
point. -/
structure ChangesLimitsOf (chargePoint : ChargePoint)
    (chargingStation chargingStation' : ChargingStation) : Prop where
  station : { chargingStation' with connectors := chargingStation.connectors } = chargingStation
  connectors : List.Forall₂ (fun connector connector' =>
      { connector' with amperageLimit := connector.amperageLimit } = connector ∧
        (connector.connectorId ∉ chargePoint.connectorIDs → connector' = connector))
    chargingStation.connectors chargingStation'.connectors

/-- To recompute the limits from the parameter leaves those of the charge point as they are. -/
def IsRecomputed (chargePoint : ChargePoint) (ocppParamValue ocppParamValueDivider : ℚ)
    (chargingStation : ChargingStation) : Prop :=
  ∀ connectorID ∈ chargePoint.connectorIDs,
    (Utils.getConnectorFromID (checkUpdateOfOCPPParams chargingStation
        chargePoint.ocppParamForPowerLimitation ocppParamValue ocppParamValueDivider)
        connectorID).map Connector.amperageLimit =
      (Utils.getConnectorFromID chargingStation connectorID).map Connector.amperageLimit

/-- What is stored after an accepted limitation, if it can be stored, is confined to the charge
point and is what is recomputed from the value sent. -/
def ConfinesLimitation (chargingStation : ChargingStation) (chargePoint : ChargePoint)
    (maxAmps multiplier : ℚ) (stored : Option ChargingStation) : Prop :=
  ∃ chargingStation' ∈ stored, ChangesLimitsOf chargePoint chargingStation chargingStation' ∧
    ∃ ocppParamValue ∈ convertLimitAmpPerPhase chargingStation chargePoint 0
        (maxAmps * multiplier),
      IsRecomputed chargePoint ocppParamValue multiplier chargingStation'

/-- An accepted limitation stores the share of the limit. -/
theorem stored_of_setStaticPowerLimitation
    {requestChange : String → Option ℚ →
      Except (Option OCPPConfigurationStatus) OCPPConfigurationStatus}
    {maxAmps multiplier : ℚ} {status : OCPPConfigurationStatus} {stored : Option ChargingStation}
    (h : setStaticPowerLimitation requestChange chargingStation chargePoint maxAmps multiplier =
      .ok (status, stored)) (accepted : IsAccepted status) :
    stored = limitConnectors chargingStation chargePoint maxAmps := by
  have refused : ¬ IsAccepted .notSupported := by simp [IsAccepted]
  unfold setStaticPowerLimitation at h
  dsimp only at h
  split at h
  · cases h
    exact absurd accepted refused
  split at h
  · cases h
    exact absurd accepted refused
  split at h
  · cases h
  split at h
  · cases h
  split at h
  · cases h
  obtain ⟨answered, -, h⟩ := Outcome.bind_eq_ok.mp h
  split at h
  · cases h
    rfl
  · rename_i notAccepted
    cases h
    exact absurd accepted notAccepted

/-- The change is confined to the charge point when the other connectors have the limit
already. -/
theorem changesLimitsOf_iff {limit : ℚ} :
    ChangesLimitsOf chargePoint chargingStation { chargingStation with
        connectors := chargingStation.connectors.map (setAmperageLimit limit) } ↔
      ∀ connector ∈ chargingStation.connectors, connector.connectorId ∉ chargePoint.connectorIDs →
        connector.amperageLimit = some limit := by
  have unchanged (connector : Connector) :
      setAmperageLimit limit connector = connector ↔ connector.amperageLimit = some limit := by
    constructor
    · intro same
      rw [← same]
      rfl
    · intro same
      rw [setAmperageLimit, ← same]
  constructor
  · rintro ⟨-, connectors⟩ connector mem other
    rw [List.forall₂_map_right_iff, List.forall₂_same] at connectors
    exact (unchanged connector).mp ((connectors connector mem).2 other)
  · intro others
    refine ⟨rfl, ?_⟩
    rw [List.forall₂_map_right_iff, List.forall₂_same]
    intro connector mem
    exact ⟨rfl, fun other => (unchanged connector).mpr (others connector mem other)⟩

/-- A connector that is looked up after its limit has been stored. -/
theorem getConnectorFromID_map_setAmperageLimit (limit : ℚ) :
    Utils.getConnectorFromID { chargingStation with
        connectors := chargingStation.connectors.map (setAmperageLimit limit) } connectorID =
      (Utils.getConnectorFromID chargingStation connectorID).map (setAmperageLimit limit) :=
  List.find?_map

/-- A charge point of the station has the parameter and its connectors. -/
theorem exists_lastChargePoint? (known : chargePoint ∈ chargingStation.chargePoints)
    (mem : connectorID ∈ chargePoint.connectorIDs) :
    ∃ other, lastChargePoint? chargePoint.ocppParamForPowerLimitation connectorID
      chargingStation.chargePoints = some other := by
  have kept : chargePoint ∈ chargingStation.chargePoints.filter fun other =>
      chargePoint.ocppParamForPowerLimitation = other.ocppParamForPowerLimitation &&
        connectorID ∈ other.connectorIDs :=
    List.mem_filter.mpr ⟨known, by simpa using mem⟩
  exact Option.isSome_iff_exists.mp (List.getLast?_isSome.mpr (List.ne_nil_of_mem kept))

/-- The limits stored are recomputed when every connector of the charge point that the station
has gets them from the last charge point with its parameter. -/
theorem isRecomputed_iff (known : chargePoint ∈ chargingStation.chargePoints)
    {limit value divider : ℚ} :
    IsRecomputed chargePoint value divider { chargingStation with
        connectors := chargingStation.connectors.map (setAmperageLimit limit) } ↔
      ∀ connectorID ∈ chargePoint.connectorIDs,
        (Utils.getConnectorFromID chargingStation connectorID).isSome →
          ∀ other ∈ lastChargePoint? chargePoint.ocppParamForPowerLimitation connectorID
              chargingStation.chargePoints,
            convertLimitAmpToAllPhases chargingStation other connectorID
              (Rounding.truncate value / divider) = limit := by
  have same : SameLayout chargingStation { chargingStation with
      connectors := chargingStation.connectors.map (setAmperageLimit limit) } := by
    refine ⟨rfl, ?_⟩
    rw [List.map_map]
    rfl
  refine forall₂_congr fun connectorID mem => ?_
  obtain ⟨other, last⟩ := exists_lastChargePoint? known mem
  unfold checkUpdateOfOCPPParams
  rw [(getConnectorFromID_checkUpdate ..).2, getConnectorFromID_map_setAmperageLimit, recomputedBy,
    last]
  simp only [Option.mem_some_iff, forall_eq', same.convertLimitAmpToAllPhases]
  cases Utils.getConnectorFromID chargingStation connectorID with
  | none => simp
  | some connector => simp [setAmperageLimit]

/-! ## When the two agree -/

/-- The amperes per connector and phase, in the unit of the vendor. -/
def ampsPerPhase (chargingStation : ChargingStation) (chargePoint : ChargePoint)
    (maxAmps multiplier : ℚ) : ℚ :=
  maxAmps * multiplier /
    (limitShares chargePoint *
      Utils.getNumberOfConnectedPhases chargingStation (some chargePoint) 0)

/-- The phases an amount per phase is multiplied by to give the limit of a connector. -/
def limitPhases (chargingStation : ChargingStation) (chargePoint : ChargePoint)
    (connectorID : ℕ) : ℕ :=
  (if connectorID = 0 then limitShares chargePoint else 1) *
    Utils.getNumberOfConnectedPhases chargingStation (some chargePoint) connectorID

theorem connectorToChargePointLimitAmps_eq (chargePoint : ChargePoint) (limitAmp : ℚ) :
    connectorToChargePointLimitAmps chargePoint limitAmp = limitAmp * limitShares chargePoint := by
  unfold connectorToChargePointLimitAmps limitShares
  split
  · exact (mul_one limitAmp).symm.trans (by rw [Nat.cast_one])
  · rfl

theorem convertLimitAmpToAllPhases_eq (chargingStation : ChargingStation)
    (chargePoint : ChargePoint) (connectorID : ℕ) (limitAmp : ℚ) :
    convertLimitAmpToAllPhases chargingStation chargePoint connectorID limitAmp =
      limitAmp * limitPhases chargingStation chargePoint connectorID := by
  unfold convertLimitAmpToAllPhases limitPhases
  dsimp only
  by_cases whole : connectorID = 0
  · rw [if_pos whole, if_pos whole, connectorToChargePointLimitAmps_eq, Nat.cast_mul, mul_assoc]
  · rw [if_neg whole, if_neg whole, one_mul]

theorem convertLimitAmpPerPhase_eq (chargingStation : ChargingStation)
    (chargePoint : ChargePoint) (maxAmps multiplier : ℚ) :
    convertLimitAmpPerPhase chargingStation chargePoint 0 (maxAmps * multiplier) =
      if limitShares chargePoint = 0 then none
      else some (ampsPerPhase chargingStation chargePoint maxAmps multiplier) := by
  unfold convertLimitAmpPerPhase ampsPerPhase
  rw [if_pos rfl, chargePointToConnectorLimitAmps_eq]
  split
  · rfl
  · exact congrArg some (div_div _ _ _)

/-- What an accepted limitation needs of the station: the limit can be divided, the connectors
of other charge points have the share already, and for each connector of the charge point the
whole part of the amperes per phase makes up for the phases they were divided by. -/
structure LimitationFits (chargingStation : ChargingStation) (chargePoint : ChargePoint)
    (maxAmps multiplier : ℚ) : Prop where
  divided : limitShares chargePoint ≠ 0
  others : ∀ connector ∈ chargingStation.connectors,
    connector.connectorId ∉ chargePoint.connectorIDs →
      connector.amperageLimit = some (maxAmps / limitShares chargePoint)
  whole : ∀ connectorID ∈ chargePoint.connectorIDs,
    (Utils.getConnectorFromID chargingStation connectorID).isSome →
      ∀ other ∈ lastChargePoint? chargePoint.ocppParamForPowerLimitation connectorID
          chargingStation.chargePoints,
        Rounding.truncate (ampsPerPhase chargingStation chargePoint maxAmps multiplier) *
            (limitPhases chargingStation other connectorID : ℚ) =
          ampsPerPhase chargingStation chargePoint maxAmps multiplier *
            Utils.getNumberOfConnectedPhases chargingStation (some chargePoint) 0

/-- The share of the limit is the amount per phase, in amperes, times the phases. -/
theorem share_eq (chargingStation : ChargingStation) (chargePoint : ChargePoint)
    (maxAmps : ℚ) {multiplier : ℚ} (hmultiplier : 0 < multiplier) :
    maxAmps / limitShares chargePoint =
      ampsPerPhase chargingStation chargePoint maxAmps multiplier *
        Utils.getNumberOfConnectedPhases chargingStation (some chargePoint) 0 / multiplier := by
  have phases : (Utils.getNumberOfConnectedPhases chargingStation (some chargePoint) 0 : ℚ) ≠ 0 :=
    Nat.cast_ne_zero.mpr (Utils.getNumberOfConnectedPhases_ne_zero _ _ _)
  unfold ampsPerPhase
  field_simp

/-- **When a static limitation is confined to its charge point** and is the one recomputed from
the value that was sent. -/
theorem confinesLimitation_iff {vendor : VendorIntegration}
    {requestChange : String → Option ℚ →
      Except (Option OCPPConfigurationStatus) OCPPConfigurationStatus}
    {maxAmps : ℚ} {status : OCPPConfigurationStatus} {stored : Option ChargingStation}
    (known : chargePoint ∈ chargingStation.chargePoints)
    (h : setStaticPowerLimitation requestChange chargingStation chargePoint maxAmps
      vendor.ocppParamValueMultiplier = .ok (status, stored)) (accepted : IsAccepted status) :
    ConfinesLimitation chargingStation chargePoint maxAmps vendor.ocppParamValueMultiplier
        stored ↔
      LimitationFits chargingStation chargePoint maxAmps vendor.ocppParamValueMultiplier := by
  have positive := vendor.ocppParamValueMultiplier_pos
  rw [stored_of_setStaticPowerLimitation h accepted]
  unfold ConfinesLimitation limitConnectors
  rw [chargePointToConnectorLimitAmps_eq, convertLimitAmpPerPhase_eq]
  generalize vendor.ocppParamValueMultiplier = multiplier at *
  by_cases divided : limitShares chargePoint = 0
  · refine iff_of_false ?_ fun fits => fits.divided divided
    rintro ⟨_, mem, -⟩
    simp [divided] at mem
  · have recomputed (other : ChargePoint) (connectorID : ℕ) :
        convertLimitAmpToAllPhases chargingStation other connectorID
            (Rounding.truncate (ampsPerPhase chargingStation chargePoint maxAmps multiplier) /
              multiplier) =
            maxAmps / limitShares chargePoint ↔
          Rounding.truncate (ampsPerPhase chargingStation chargePoint maxAmps multiplier) *
              (limitPhases chargingStation other connectorID : ℚ) =
            ampsPerPhase chargingStation chargePoint maxAmps multiplier *
              Utils.getNumberOfConnectedPhases chargingStation (some chargePoint) 0 := by
      rw [convertLimitAmpToAllPhases_eq, share_eq chargingStation chargePoint maxAmps positive,
        div_mul_eq_mul_div, div_left_inj' positive.ne']
    simp only [if_neg divided, Option.map_some, Option.mem_some_iff, exists_eq_left',
      changesLimitsOf_iff, isRecomputed_iff known, recomputed]
    exact ⟨fun fits => ⟨divided, fits.1, fits.2⟩, fun fits => ⟨fits.others, fits.whole⟩⟩

end Recompute

/-- A charge point of three phases that can be limited. -/
def limitedChargePoint (chargePointID : ℕ) (connectorIDs : List ℕ)
    (ocppParamForPowerLimitation : String) : ChargePoint :=
  { chargePointID := chargePointID
    numberOfConnectedPhase := 3
    connectorIDs := connectorIDs
    ocppParamForPowerLimitation := ocppParamForPowerLimitation }

/-- A station of one charge point that is limited in milliamperes. -/
def kebaStation : ChargingStation :=
  { id := "CS-55"
    supportStaticLimitation := true
    chargePoints := [limitedChargePoint 1 [1] "MaxAvailableCurrent"]
    connectors := [{ connectorId := 1 }] }

/-- 48 A of three phases are sent as 16000 mA and recomputed as 48 A. -/
theorem confinesLimitation_iff_of_keba :
    ConfinesLimitation kebaStation (limitedChargePoint 1 [1] "MaxAvailableCurrent") 48
      VendorIntegration.keba.ocppParamValueMultiplier
      (limitConnectors kebaStation (limitedChargePoint 1 [1] "MaxAvailableCurrent") 48) := by
  have limited : setStaticPowerLimitation (fun _ _ => .ok .accepted) kebaStation
      (limitedChargePoint 1 [1] "MaxAvailableCurrent") 48
      VendorIntegration.keba.ocppParamValueMultiplier =
      .ok (.accepted,
        limitConnectors kebaStation (limitedChargePoint 1 [1] "MaxAvailableCurrent") 48) :=
    Outcome.toOption_eq_some.mp (by decide +kernel)
  refine (confinesLimitation_iff (by decide +kernel) limited (.inl rfl)).mpr ?_
  have last : lastChargePoint? "MaxAvailableCurrent" 1 kebaStation.chargePoints =
      some (limitedChargePoint 1 [1] "MaxAvailableCurrent") := by
    decide +kernel
  refine ⟨by decide, ?_, ?_⟩
  · intro connector mem other
    obtain rfl := List.mem_singleton.mp mem
    exact absurd List.mem_cons_self other
  · intro connectorID mem _ other hother
    obtain rfl := List.mem_singleton.mp mem
    obtain rfl := Option.some.inj (last.symm.trans hother)
    decide +kernel

/-- A station of two charge points. -/
def twoChargePoints : ChargingStation :=
  { id := "CS-56"
    supportStaticLimitation := true
    chargePoints := [limitedChargePoint 1 [1] "Limit1", limitedChargePoint 2 [2] "Limit2"]
    connectors :=
      [{ connectorId := 1, amperageLimit := some 96 },
        { connectorId := 2, amperageLimit := some 96 }] }

/-- To limit the first charge point changes the connector of the second one. -/
theorem not_confinesLimitation_of_two_charge_points :
    ¬ ∀ (vendor : VendorIntegration) requestChange chargingStation chargePoint maxAmps status
        stored,
      chargePoint ∈ chargingStation.chargePoints →
        setStaticPowerLimitation requestChange chargingStation chargePoint maxAmps
            vendor.ocppParamValueMultiplier = .ok (status, stored) →
          IsAccepted status →
            ConfinesLimitation chargingStation chargePoint maxAmps
              vendor.ocppParamValueMultiplier stored := by
  intro all
  obtain ⟨chargingStation', stored, changed, -⟩ := all .default (fun _ _ => .ok .accepted)
    twoChargePoints (limitedChargePoint 1 [1] "Limit1") 48 .accepted
    (limitConnectors twoChargePoints (limitedChargePoint 1 [1] "Limit1") 48) (by decide +kernel)
    (Outcome.toOption_eq_some.mp (by decide +kernel)) (.inl rfl)
  have limited : limitConnectors twoChargePoints (limitedChargePoint 1 [1] "Limit1") 48 =
      some { twoChargePoints with
        connectors := [{ connectorId := 1, amperageLimit := some 48 },
          { connectorId := 2, amperageLimit := some 48 }] } := by
    decide +kernel
  obtain rfl := Option.some.inj (limited.symm.trans stored)
  have second := (List.forall₂_cons.mp (List.forall₂_cons.mp changed.connectors).2).1.2
    (by decide)
  exact absurd second (by decide +kernel)

end ChargingStationVendorIntegration

end EvServer
