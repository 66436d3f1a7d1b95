import EvServer.ChargingStation
import EvServer.Lib.Outcome

/-!
# Charging profiles on their way to a station and back

The limits of a charging profile are amperes of all phases, for the whole charge point.
`convertToVendorChargingProfile` turns them into what the station is sent, and
`convertFromVendorChargingSchedule` reads a schedule of the station back into amperes of
all phases.  Both are those of `ChargingStationVendorIntegration`.

For a station that is limited in amperes the one undoes the other, as long as the
schedule says so too.  For a station that is limited in watts the way there divides by
the connectors and the way back multiplies by the phases: `restoresLimits_iff`.

A charge point without connectors is divided by all the same.  Nothing makes the result
a finite number again, and the functions have no value there.
-/

namespace EvServer

/-- `ChargingProfileKindType`. -/
inductive ChargingProfileKindType
  | absolute
  | recurring
  | relative
  deriving DecidableEq, Repr

/-- `RecurrencyKindType`. -/
inductive RecurrencyKindType
  | daily
  | weekly
  deriving DecidableEq, Repr

/-- `ChargingProfilePurposeType`. -/
inductive ChargingProfilePurposeType
  | chargePointMaxProfile
  | txDefaultProfile
  | txProfile
  deriving DecidableEq, Repr

/-- `ChargingSchedulePeriod`, with the properties that are added to a schedule that has
been read back. -/
structure ChargingSchedulePeriod where
  /-- In seconds from the start of the schedule. -/
  startPeriod : ℚ
  limit : ℚ
  startPeriodMins : Option ℤ := none
  limitWatts : Option ℚ := none
  deriving DecidableEq, Repr

/-- `ChargingSchedule`. -/
structure ChargingSchedule where
  startSchedule : Timestamp := 0
  /-- In seconds. -/
  duration : Option ℚ := none
  chargingRateUnit : ChargingRateUnitType := .ampere
  chargingSchedulePeriod : List ChargingSchedulePeriod
  /-- Not a number when the schedule has no duration. -/
  durationMins : Option ℤ := none
  deriving DecidableEq, Repr

/-- `Profile`. -/
structure Profile where
  chargingProfilePurpose : ChargingProfilePurposeType := .txProfile
  chargingProfileKind : ChargingProfileKindType := .absolute
  recurrencyKind : Option RecurrencyKindType := none
  chargingSchedule : ChargingSchedule
  deriving DecidableEq, Repr

/-- `ChargingProfile`; connector `0` stands for the charge point. -/
structure ChargingProfile where
  connectorID : ℕ := 0
  profile : Profile
  deriving DecidableEq, Repr

namespace ChargingStationVendorIntegration

/-! ## Limits -/

/-- `chargePointToConnectorLimitAmps`. -/
def chargePointToConnectorLimitAmps (chargePoint : ChargePoint) (limitAmp : ℚ) : Option ℚ :=
  if chargePoint.cannotChargeInParallel || chargePoint.sharePowerToAllConnectors then
    some limitAmp
  else if chargePoint.connectorIDs.length = 0 then none
  else some (limitAmp / chargePoint.connectorIDs.length)

/-- `connectorToChargePointLimitAmps`. -/
def connectorToChargePointLimitAmps (chargePoint : ChargePoint) (limitAmp : ℚ) : ℚ :=
  if chargePoint.cannotChargeInParallel || chargePoint.sharePowerToAllConnectors then limitAmp
  else limitAmp * chargePoint.connectorIDs.length

/-- `convertLimitAmpPerPhase`. -/
def convertLimitAmpPerPhase (chargingStation : ChargingStation) (chargePoint : ChargePoint)
    (connectorID : ℕ) (limitAmpAllPhases : ℚ) : Option ℚ := do
  let limitAmp ←
    if connectorID = 0 then chargePointToConnectorLimitAmps chargePoint limitAmpAllPhases
    else some limitAmpAllPhases
  return limitAmp /
    Utils.getNumberOfConnectedPhases chargingStation (some chargePoint) connectorID

/-- `convertLimitAmpToAllPhases`. -/
def convertLimitAmpToAllPhases (chargingStation : ChargingStation) (chargePoint : ChargePoint)
    (connectorID : ℕ) (limitAmpPerPhase : ℚ) : ℚ :=
  let limitAmp :=
    if connectorID = 0 then connectorToChargePointLimitAmps chargePoint limitAmpPerPhase
    else limitAmpPerPhase
  limitAmp * Utils.getNumberOfConnectedPhases chargingStation (some chargePoint) connectorID

/-! ## Profiles and schedules -/

/-- The limit of a period as the station is sent it. -/
def toVendorLimit (chargingStation : ChargingStation) (chargePoint : ChargePoint)
    (connectorID : ℕ) (limit : ℚ) : Option ℚ :=
  match chargingStation.powerLimitUnit with
  -- Limit Amps per phase
  | .ampere => convertLimitAmpPerPhase chargingStation chargePoint connectorID limit
  -- Limit Watts for all the phases
  | .watt =>
      (chargePointToConnectorLimitAmps chargePoint limit).map
        (Utils.convertAmpToWatt chargingStation (some chargePoint) connectorID)

/-- A period as the station is sent it. -/
def toVendorPeriod (chargingStation : ChargingStation) (chargePoint : ChargePoint)
    (connectorID : ℕ) (schedulePeriod : ChargingSchedulePeriod) : Option ChargingSchedulePeriod :=
  (toVendorLimit chargingStation chargePoint connectorID schedulePeriod.limit).map
    fun limit => { schedulePeriod with limit := limit }

/-- The rate unit of the schedule the station is sent. -/
def toVendorRateUnit (chargingStation : ChargingStation) (chargingRateUnit : ChargingRateUnitType) :
    ChargingRateUnitType :=
  if chargingStation.powerLimitUnit = .watt then .watt else chargingRateUnit

/-- `convertToVendorChargingProfile`. -/
def convertToVendorChargingProfile (chargingStation : ChargingStation)
    (chargePoint : ChargePoint) (chargingProfile : ChargingProfile) : Option ChargingProfile := do
  let chargingSchedule := chargingProfile.profile.chargingSchedule
  let chargingSchedulePeriod ← chargingSchedule.chargingSchedulePeriod.mapM
    (toVendorPeriod chargingStation chargePoint chargingProfile.connectorID)
  return { chargingProfile with
    profile := { chargingProfile.profile with
      chargingSchedule := { chargingSchedule with
        chargingRateUnit := toVendorRateUnit chargingStation chargingSchedule.chargingRateUnit
        chargingSchedulePeriod := chargingSchedulePeriod } } }

/-- The limit of a period as it is read from the station. -/
def fromVendorLimit (chargingStation : ChargingStation) (chargePoint : ChargePoint)
    (connectorID : ℕ) (chargingRateUnit : ChargingRateUnitType) (limit : ℚ) : ℚ :=
  let limitAmps :=
    match chargingRateUnit with
    | .watt => Utils.convertWattToAmp chargingStation (some chargePoint) connectorID limit
    | .ampere => limit
  convertLimitAmpToAllPhases chargingStation chargePoint connectorID limitAmps

/-- `Math.round(secs / 60)`. -/
def roundToMins (secs : ℚ) : ℤ := ⌊secs / 60 + 1 / 2⌋

/-- `convertFromVendorChargingSchedule`, of a schedule the station has answered. -/
def convertFromVendorChargingSchedule (chargingStation : ChargingStation)
    (chargePoint : ChargePoint) (connectorID : ℕ) (chargingSchedule : ChargingSchedule) :
    ChargingSchedule :=
  { chargingSchedule with
    durationMins := chargingSchedule.duration.map roundToMins
    chargingSchedulePeriod := chargingSchedule.chargingSchedulePeriod.map fun schedulePeriod =>
      let limit := fromVendorLimit chargingStation chargePoint connectorID
        chargingSchedule.chargingRateUnit schedulePeriod.limit
      { schedulePeriod with
        startPeriodMins := some (roundToMins schedulePeriod.startPeriod)
        limit := limit
        limitWatts :=
          some (Utils.convertAmpToWatt chargingStation (some chargePoint) connectorID limit) }
    -- Charging Plan are always in Amps
    chargingRateUnit := .ampere }

/-! ## There and back -/

/-- The profile can be sent, and the schedule read back has the limits it was made with. -/
def RestoresLimits (chargingStation : ChargingStation) (chargePoint : ChargePoint)
    (chargingProfile : ChargingProfile) : Prop :=
  ∃ vendorProfile,
    convertToVendorChargingProfile chargingStation chargePoint chargingProfile =
        some vendorProfile ∧
      (convertFromVendorChargingSchedule chargingStation chargePoint vendorProfile.connectorID
          vendorProfile.profile.chargingSchedule).chargingSchedulePeriod.map
          ChargingSchedulePeriod.limit =
        chargingProfile.profile.chargingSchedule.chargingSchedulePeriod.map
          ChargingSchedulePeriod.limit

/-- The number of parts the limit of a charge point is divided into: one when its connectors
share it. -/
def limitShares (chargePoint : ChargePoint) : ℕ :=
  if chargePoint.cannotChargeInParallel || chargePoint.sharePowerToAllConnectors then 1
  else chargePoint.connectorIDs.length

/-- A limit is divided into the shares of the charge point. -/
theorem chargePointToConnectorLimitAmps_eq (chargePoint : ChargePoint) (limitAmp : ℚ) :
    chargePointToConnectorLimitAmps chargePoint limitAmp =
      if limitShares chargePoint = 0 then none
      else some (limitAmp / limitShares chargePoint) := by
  unfold chargePointToConnectorLimitAmps limitShares
  by_cases shared : (chargePoint.cannotChargeInParallel ||
      chargePoint.sharePowerToAllConnectors) = true
  · simp [shared]
  · simp [shared]

/-- The units and the numbers of phases and connectors are such that any limit is restored. -/
def KeepsLimits (chargingStation : ChargingStation) (chargePoint : ChargePoint)
    (connectorID : ℕ) (chargingRateUnit : ChargingRateUnitType) : Prop :=
  match chargingStation.powerLimitUnit, chargingRateUnit with
  | .ampere, .ampere => True
  | .ampere, .watt =>
      Utils.getChargingStationVoltage chargingStation (some chargePoint) connectorID = 1
  | .watt, _ =>
      Utils.getNumberOfConnectedPhases chargingStation (some chargePoint) connectorID =
        limitShares chargePoint

/-- There is a connector wherever the limit is divided by the connectors. -/
def CanDivideLimit (chargingStation : ChargingStation) (chargePoint : ChargePoint) : Prop :=
  chargingStation.powerLimitUnit = .watt → limitShares chargePoint ≠ 0

section OneLimit

variable {chargingStation : ChargingStation} {chargePoint : ChargePoint} {connectorID : ℕ}

/-- A limit that has been multiplied and divided is the same when the factors are. -/
theorem mul_div_eq_self_iff (limit factor : ℚ) {divisor : ℚ} (hdivisor : divisor ≠ 0) :
    limit * factor / divisor = limit ↔ factor = divisor ∨ limit = 0 := by
  rw [div_eq_iff hdivisor, mul_eq_mul_left_iff]

/-- A station in amperes: what is divided by the phases is multiplied by them, and a schedule
in watts is divided by the voltage on its way back only. -/
theorem restores_limit_of_ampere (hconnector : 0 < connectorID)
    (hunit : chargingStation.powerLimitUnit = .ampere) (chargingRateUnit : ChargingRateUnitType)
    (limit : ℚ) :
    (∃ vendorLimit,
        toVendorLimit chargingStation chargePoint connectorID limit = some vendorLimit ∧
          fromVendorLimit chargingStation chargePoint connectorID
            (toVendorRateUnit chargingStation chargingRateUnit) vendorLimit = limit) ↔
      KeepsLimits chargingStation chargePoint connectorID chargingRateUnit ∨ limit = 0 := by
  have voltage := Utils.getChargingStationVoltage_ne_zero chargingStation (some chargePoint)
    connectorID
  have phases : (Utils.getNumberOfConnectedPhases chargingStation (some chargePoint)
      connectorID : ℚ) ≠ 0 :=
    Nat.cast_ne_zero.mpr (Utils.getNumberOfConnectedPhases_ne_zero _ _ _)
  have sent : toVendorLimit chargingStation chargePoint connectorID limit =
      some (limit / Utils.getNumberOfConnectedPhases chargingStation (some chargePoint)
        connectorID) := by
    simp [toVendorLimit, hunit, convertLimitAmpPerPhase, hconnector.ne']
  have unit : toVendorRateUnit chargingStation chargingRateUnit = chargingRateUnit := by
    simp [toVendorRateUnit, hunit]
  rw [sent, unit]
  simp only [Option.some.injEq, exists_eq_left', fromVendorLimit, convertLimitAmpToAllPhases,
    if_neg hconnector.ne', KeepsLimits, hunit]
  cases chargingRateUnit with
  | ampere => simp only [div_mul_cancel₀ limit phases, true_or]
  | watt =>
      have back := mul_div_eq_self_iff limit 1 voltage
      rw [mul_one] at back
      simp only [Utils.convertWattToAmp, div_right_comm limit, div_mul_cancel₀ _ phases, back,
        eq_comm (a := (1 : ℚ))]

/-- A station in watts: the voltage cancels out; what is divided by the shares is multiplied
by the phases. -/
theorem restores_limit_of_watt (hconnector : 0 < connectorID)
    (hunit : chargingStation.powerLimitUnit = .watt) (chargingRateUnit : ChargingRateUnitType)
    (limit : ℚ) :
    (∃ vendorLimit,
        toVendorLimit chargingStation chargePoint connectorID limit = some vendorLimit ∧
          fromVendorLimit chargingStation chargePoint connectorID
            (toVendorRateUnit chargingStation chargingRateUnit) vendorLimit = limit) ↔
      limitShares chargePoint ≠ 0 ∧
        (KeepsLimits chargingStation chargePoint connectorID chargingRateUnit ∨ limit = 0) := by
  have voltage := Utils.getChargingStationVoltage_ne_zero chargingStation (some chargePoint)
    connectorID
  have sent : toVendorLimit chargingStation chargePoint connectorID limit =
      (chargePointToConnectorLimitAmps chargePoint limit).map
        (Utils.convertAmpToWatt chargingStation (some chargePoint) connectorID) := by
    simp [toVendorLimit, hunit]
  have unit : toVendorRateUnit chargingStation chargingRateUnit = .watt := by
    simp [toVendorRateUnit, hunit]
  rw [sent, unit, chargePointToConnectorLimitAmps_eq]
  by_cases parted : limitShares chargePoint = 0
  · simp [parted]
  · have shares : (limitShares chargePoint : ℚ) ≠ 0 := Nat.cast_ne_zero.mpr parted
    have back : limit / limitShares chargePoint *
          Utils.getNumberOfConnectedPhases chargingStation (some chargePoint) connectorID =
        limit * Utils.getNumberOfConnectedPhases chargingStation (some chargePoint) connectorID /
          limitShares chargePoint := div_mul_eq_mul_div _ _ _
    rw [if_neg parted, and_iff_right parted]
    simp only [Option.map_some, Option.some.injEq, exists_eq_left', fromVendorLimit,
      Utils.convertAmpToWatt, Utils.convertWattToAmp, mul_div_cancel_left₀ _ voltage,
      convertLimitAmpToAllPhases, if_neg hconnector.ne', back, mul_div_eq_self_iff _ _ shares,
      KeepsLimits, hunit, Nat.cast_inj]

/-- **One limit**, there and back. -/
theorem restores_limit_iff (hconnector : 0 < connectorID)
    (chargingRateUnit : ChargingRateUnitType) (limit : ℚ) :
    (∃ vendorLimit,
        toVendorLimit chargingStation chargePoint connectorID limit = some vendorLimit ∧
          fromVendorLimit chargingStation chargePoint connectorID
            (toVendorRateUnit chargingStation chargingRateUnit) vendorLimit = limit) ↔
      CanDivideLimit chargingStation chargePoint ∧
        (KeepsLimits chargingStation chargePoint connectorID chargingRateUnit ∨ limit = 0) := by
  unfold CanDivideLimit
  cases hunit : chargingStation.powerLimitUnit with
  | ampere =>
      rw [restores_limit_of_ampere hconnector hunit]
      simp
  | watt =>
      rw [restores_limit_of_watt hconnector hunit]
      simp

end OneLimit

/-- The limits of a schedule that has been read. -/
theorem limits_convertFromVendorChargingSchedule (chargingStation : ChargingStation)
    (chargePoint : ChargePoint) (connectorID : ℕ) (chargingSchedule : ChargingSchedule) :
    (convertFromVendorChargingSchedule chargingStation chargePoint connectorID
        chargingSchedule).chargingSchedulePeriod.map ChargingSchedulePeriod.limit =
      chargingSchedule.chargingSchedulePeriod.map fun schedulePeriod =>
        fromVendorLimit chargingStation chargePoint connectorID chargingSchedule.chargingRateUnit
          schedulePeriod.limit := by
  unfold convertFromVendorChargingSchedule
  rw [List.map_map]
  rfl

/-- The limits are restored period by period. -/
theorem restoresLimits_iff_forall_period {chargingStation : ChargingStation}
    {chargePoint : ChargePoint} {chargingProfile : ChargingProfile} :
    RestoresLimits chargingStation chargePoint chargingProfile ↔
      ∀ schedulePeriod ∈ chargingProfile.profile.chargingSchedule.chargingSchedulePeriod,
        ∃ vendorPeriod,
          toVendorPeriod chargingStation chargePoint chargingProfile.connectorID schedulePeriod =
              some vendorPeriod ∧
            fromVendorLimit chargingStation chargePoint chargingProfile.connectorID
                (toVendorRateUnit chargingStation
                  chargingProfile.profile.chargingSchedule.chargingRateUnit) vendorPeriod.limit =
              schedulePeriod.limit := by
  rw [← Outcome.exists_mapM_eq_some_map_eq_iff]
  unfold RestoresLimits convertToVendorChargingProfile
  constructor
  · rintro ⟨vendorProfile, sent, restored⟩
    obtain ⟨vendorPeriods, mapped, built⟩ := Option.bind_eq_some_iff.mp sent
    obtain rfl := Option.some.inj built
    rw [limits_convertFromVendorChargingSchedule] at restored
    exact ⟨vendorPeriods, mapped, restored⟩
  · rintro ⟨vendorPeriods, mapped, restored⟩
    refine ⟨_, Option.bind_eq_some_iff.mpr ⟨vendorPeriods, mapped, rfl⟩, ?_⟩
    rw [limits_convertFromVendorChargingSchedule]
    exact restored

/-- **When the two conversions undo each other.**  The limits of a profile of a connector are
restored exactly when each of them is zero or the units and the numbers of phases and
connectors allow it. -/
theorem restoresLimits_iff {chargingStation : ChargingStation} {chargePoint : ChargePoint}
    {chargingProfile : ChargingProfile} (hconnector : 0 < chargingProfile.connectorID) :
    RestoresLimits chargingStation chargePoint chargingProfile ↔
      ∀ schedulePeriod ∈ chargingProfile.profile.chargingSchedule.chargingSchedulePeriod,
        CanDivideLimit chargingStation chargePoint ∧
          (KeepsLimits chargingStation chargePoint chargingProfile.connectorID
              chargingProfile.profile.chargingSchedule.chargingRateUnit ∨
            schedulePeriod.limit = 0) := by
  rw [restoresLimits_iff_forall_period]
  refine forall₂_congr fun schedulePeriod _ => ?_
  rw [← restores_limit_iff hconnector]
  simp only [toVendorPeriod, Option.map_eq_some_iff, exists_exists_and_eq_and]

/-- A charge point of three phases with the connectors `connectorIDs`. -/
def threePhases (connectorIDs : List ℕ) : ChargePoint :=
  { chargePointID := 1
    numberOfConnectedPhase := 3
    connectorIDs := connectorIDs }

/-- A profile of connector 1 that allows 48 A from its start on. -/
def profileOf48Amps : ChargingProfile :=
  { connectorID := 1
    profile := { chargingSchedule := { chargingSchedulePeriod := [⟨0, 48, none, none⟩] } } }

/-- A station in amperes. -/
theorem restoresLimits_iff_of_amperes :
    RestoresLimits { id := "CS-51", chargePoints := [threePhases [1, 2]] } (threePhases [1, 2])
      profileOf48Amps :=
  (restoresLimits_iff (by decide)).mpr fun _ _ =>
    ⟨fun watts => absurd watts (by decide), .inl trivial⟩

/-- A station in watts with one connector: 48 A come back as 144 A. -/
theorem not_restoresLimits_of_watts :
    ¬ ∀ chargingStation chargePoint chargingProfile,
      0 < chargingProfile.connectorID →
        RestoresLimits chargingStation chargePoint chargingProfile := by
  intro all
  obtain ⟨vendorProfile, sent, restored⟩ :=
    all { id := "CS-52", chargePoints := [threePhases [1]], powerLimitUnit := .watt }
      (threePhases [1]) profileOf48Amps (by decide)
  have back : (convertToVendorChargingProfile
      { id := "CS-52", chargePoints := [threePhases [1]], powerLimitUnit := .watt }
      (threePhases [1]) profileOf48Amps).map (fun vendorProfile =>
        (convertFromVendorChargingSchedule
          { id := "CS-52", chargePoints := [threePhases [1]], powerLimitUnit := .watt }
          (threePhases [1]) vendorProfile.connectorID
          vendorProfile.profile.chargingSchedule).chargingSchedulePeriod.map
          ChargingSchedulePeriod.limit) = some [144] := by
    decide +kernel
  rw [sent, Option.map_some, restored] at back
  exact absurd back (by decide +kernel)

end ChargingStationVendorIntegration

end EvServer
