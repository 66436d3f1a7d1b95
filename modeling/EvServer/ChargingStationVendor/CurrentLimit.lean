import EvServer.ChargingStationVendor.ChargingProfile
import EvServer.Lib.KeyedList
import EvServer.Ocpp.Transaction

/-!
# The limit a connector is under

`getCurrentConnectorLimit` looks for the charging profile that is in force, in three
lists of profiles one after the other, then for a static limitation, and falls back on
what the connector allows.  `getCurrentConnectorLimitFromProfiles` is the search in one
of the lists.

What it looks for is `limitInForce?`: the last period already started of the first
active profile.  It ends at the first profile that has not started yet, though, and
within an active profile it reads the period ahead of the first one that has not
started, which need not exist.  `showsLimitInForce_iff` says for which lists the two
agree.
-/

namespace EvServer

namespace ChargingStationVendorIntegration

/-- `moment(date).add(secs, 's')`, in whole milliseconds. -/
def addSeconds (date : Timestamp) (secs : ℚ) : Timestamp :=
  date + Rounding.roundHalfUp (secs * 1000)

/-- How the host moves a date to another day and keeps its time of day; it depends on the
time zone. -/
structure LocalCalendar where
  /-- `date.setFullYear(…)` with the year, month and day of `now`. -/
  setDayOf : (date now : Timestamp) → Timestamp
  /-- `date.setDate(now.getDate() - 1)`. -/
  setDayBefore : (date now : Timestamp) → Timestamp

/-- The profile recurs every day. -/
def isDailyRecurring (chargingProfile : ChargingProfile) : Bool :=
  chargingProfile.profile.chargingProfileKind = .recurring &&
    chargingProfile.profile.recurrencyKind = some .daily

/-- The start of the schedule, adjusted to today when it recurs daily; nothing when the
schedule has not started yet. -/
def startOfSchedule? (calendar : LocalCalendar) (now : Timestamp)
    (chargingProfile : ChargingProfile) : Option Timestamp :=
  let startSchedule := chargingProfile.profile.chargingSchedule.startSchedule
  if isDailyRecurring chargingProfile && startSchedule < now then
    let today := calendar.setDayOf startSchedule now
    -- Check if the start of the schedule is yesterday
    some (if now < today then calendar.setDayBefore today now else today)
  else if now < startSchedule then none
  else some startSchedule

/-- What a schedule period allows; `convertToInt` leaves a number as it is. -/
def limitOfPeriod (chargingStation : ChargingStation) (chargePoint : Option ChargePoint)
    (connectorID : ℕ) (schedulePeriod : ChargingSchedulePeriod) : ConnectorLimitation :=
  { limitAmps := some schedulePeriod.limit
    limitWatts :=
      some (Utils.convertAmpToWatt chargingStation chargePoint connectorID schedulePeriod.limit)
    limitSource := .chargingProfile }

/-- The period begins together with the last one of the schedule. -/
def startsWithLast (schedulePeriods : List ChargingSchedulePeriod)
    (schedulePeriod : ChargingSchedulePeriod) : Bool :=
  schedulePeriods.getLast?.any fun last => schedulePeriod.startPeriod = last.startPeriod

/-- The period has started. -/
def hasStarted (now startSchedule : Timestamp) (schedulePeriod : ChargingSchedulePeriod) : Bool :=
  addSeconds startSchedule schedulePeriod.startPeriod ≤ now

/-- The search for the right period of an active schedule. -/
def searchPeriod (now startSchedule : Timestamp) (schedulePeriods : List ChargingSchedulePeriod) :
    Option ChargingSchedulePeriod → List ChargingSchedulePeriod →
      Except String (Option ChargingSchedulePeriod)
  | _, [] => .ok none
  | lastButOneSchedule, schedulePeriod :: rest =>
      -- Handling of only one period
      if schedulePeriods.length = 1 ∧ schedulePeriod.startPeriod = 0 then
        .ok (some schedulePeriod)
      else if now < addSeconds startSchedule schedulePeriod.startPeriod then
        -- Found the schedule: Last but one is the correct one
        match lastButOneSchedule with
        | none => .error "TypeError: Cannot read properties of undefined (reading 'limit')"
        | some lastButOne => .ok (some lastButOne)
      -- Handle the last schedule period
      else if startsWithLast schedulePeriods schedulePeriod then .ok (some schedulePeriod)
      else searchPeriod now startSchedule schedulePeriods (some schedulePeriod) rest

/-- `getCurrentConnectorLimitFromProfiles`. -/
def getCurrentConnectorLimitFromProfiles (calendar : LocalCalendar) (now : Timestamp)
    (chargingStation : ChargingStation) (chargePoint : Option ChargePoint) (connectorID : ℕ) :
    List ChargingProfile → Except String (Option ConnectorLimitation)
  | [] => .ok none
  | chargingProfile :: rest =>
      match startOfSchedule? calendar now chargingProfile with
      | none => .ok none
      | some startSchedule =>
          let chargingSchedule := chargingProfile.profile.chargingSchedule
          let schedulePeriods := chargingSchedule.chargingSchedulePeriod
          -- Check if the Charging Profile is active
          if now < addSeconds startSchedule (chargingSchedule.duration.getD 0) then do
            match ← searchPeriod now startSchedule schedulePeriods none schedulePeriods with
            | some schedulePeriod =>
                return some (limitOfPeriod chargingStation chargePoint connectorID schedulePeriod)
            | none =>
                getCurrentConnectorLimitFromProfiles calendar now chargingStation chargePoint
                  connectorID rest
          else
            getCurrentConnectorLimitFromProfiles calendar now chargingStation chargePoint
              connectorID rest

/-! ## The current limit -/

/-- The static limitation of a connector, when the station has one. -/
def staticLimitation (chargingStation : ChargingStation) (chargePoint : Option ChargePoint)
    (connectorID : ℕ) : Option ConnectorLimitation :=
  if chargingStation.supportStaticLimitation then do
    let connector ← Utils.getConnectorFromID chargingStation connectorID
    let connectorLimitAmps ← connector.amperageLimit
    if 0 < connectorLimitAmps then
      some
        { limitAmps := some connectorLimitAmps
          limitWatts := some (Utils.convertAmpToWatt chargingStation chargePoint connectorID
            connectorLimitAmps)
          limitSource := .staticLimitation }
    else none
  else none

/-- The profiles of a purpose set on a connector. -/
def profilesOf (chargingProfilePurpose : ChargingProfilePurposeType) (connectorID : ℕ)
    (chargingProfiles : List ChargingProfile) : List ChargingProfile :=
  chargingProfiles.filter fun chargingProfile =>
    chargingProfile.connectorID = connectorID &&
      chargingProfile.profile.chargingProfilePurpose = chargingProfilePurpose

/-- The body of `getCurrentConnectorLimit` that is tried; `getChargingProfiles` is what the
storage answers. -/
def tryCurrentConnectorLimit (calendar : LocalCalendar) (now : Timestamp)
    (getChargingProfiles : Except String (List ChargingProfile))
    (chargingStation : ChargingStation) (chargePoint : Option ChargePoint) (connectorID : ℕ) :
    Except String (Option ConnectorLimitation) := do
  if connectorID = 0 then
    throw "Cannot get the current connector limit on Connector ID 0"
  let fromProfiles := getCurrentConnectorLimitFromProfiles calendar now chargingStation
    chargePoint connectorID
  if chargingStation.supportChargingProfiles then
    let chargingProfiles ← getChargingProfiles
    -- Check the TX Charging Profiles from the DB
    if let some result ← fromProfiles (profilesOf .txProfile connectorID chargingProfiles) then
      return some result
    -- Check the TX Default Charging Profiles from the DB
    let ofChargePoint := profilesOf .txDefaultProfile 0 chargingProfiles
    let txDefaultChargingProfiles :=
      if ofChargePoint.isEmpty then profilesOf .txDefaultProfile connectorID chargingProfiles
      else ofChargePoint
    if let some result ← fromProfiles txDefaultChargingProfiles then
      return some result
    -- Check the Max Charging Profiles from the DB
    if let some result ←
        fromProfiles (profilesOf .chargePointMaxProfile connectorID chargingProfiles) then
      return some result
  -- Check next the power limitation
  return staticLimitation chargingStation chargePoint connectorID

/-- `getCurrentConnectorLimit`. -/
def getCurrentConnectorLimit (calendar : LocalCalendar) (now : Timestamp)
    (getChargingProfiles : Except String (List ChargingProfile))
    (chargingStation : ChargingStation) (chargePoint : Option ChargePoint) (connectorID : ℕ) :
    Except String ConnectorLimitation :=
  match Utils.getConnectorFromID chargingStation connectorID with
  | none => .error "TypeError: Cannot read properties of undefined (reading 'amperageLimit')"
  | some connector =>
      -- Should fail safe!
      match tryCurrentConnectorLimit calendar now getChargingProfiles chargingStation chargePoint
          connectorID with
      | .ok (some result) => .ok result
      | _ =>
          .ok
            { limitAmps := connector.amperageLimit
              limitWatts := connector.power
              limitSource := .connector }

/-- Whatever goes wrong with the profiles, a connector has a limit. -/
theorem getCurrentConnectorLimit_ok (calendar : LocalCalendar) (now : Timestamp)
    (getChargingProfiles : Except String (List ChargingProfile))
    {chargingStation : ChargingStation} (chargePoint : Option ChargePoint) {connectorID : ℕ}
    (known : (Utils.getConnectorFromID chargingStation connectorID).isSome) :
    ∃ limitation, getCurrentConnectorLimit calendar now getChargingProfiles chargingStation
      chargePoint connectorID = .ok limitation := by
  obtain ⟨connector, hconnector⟩ := Option.isSome_iff_exists.mp known
  unfold getCurrentConnectorLimit
  rw [hconnector]
  rcases tryCurrentConnectorLimit calendar now getChargingProfiles chargingStation chargePoint
    connectorID with _ | _ | result
  · exact ⟨_, rfl⟩
  · exact ⟨_, rfl⟩
  · exact ⟨result, rfl⟩

theorem addSeconds_mono (date : Timestamp) {secs secs' : ℚ} (le : secs ≤ secs') :
    addSeconds date secs ≤ addSeconds date secs' := by
  have scaled : secs * 1000 ≤ secs' * 1000 := mul_le_mul_of_nonneg_right le (by norm_num)
  have rounded := Rounding.roundHalfUp_mono scaled
  exact Int.add_le_add_left rounded date

/-! ## What is in force -/

/-- The schedule starts in the future. -/
def isFuture (now : Timestamp) (chargingProfile : ChargingProfile) : Bool :=
  now < chargingProfile.profile.chargingSchedule.startSchedule

/-- The schedule has started and has not ended. -/
def isActive (now : Timestamp) (chargingProfile : ChargingProfile) : Bool :=
  let chargingSchedule := chargingProfile.profile.chargingSchedule
  chargingSchedule.startSchedule ≤ now &&
    now < addSeconds chargingSchedule.startSchedule (chargingSchedule.duration.getD 0)

/-- The last period of a schedule that has started. -/
def lastStarted? (now : Timestamp) (chargingSchedule : ChargingSchedule) :
    Option ChargingSchedulePeriod :=
  (chargingSchedule.chargingSchedulePeriod.filter
    (hasStarted now chargingSchedule.startSchedule)).getLast?

/-- The period that is in force: the last one already started of the first active profile. -/
def limitInForce? (now : Timestamp) (chargingProfiles : List ChargingProfile) :
    Option ChargingSchedulePeriod :=
  (chargingProfiles.find? (isActive now)).bind fun chargingProfile =>
    lastStarted? now chargingProfile.profile.chargingSchedule

/-- The period at which the list of periods stops: the first one that begins together with the
last one of the list or, before that, the one ahead of the first that has not started. -/
def stopPeriod? (now : Timestamp) (chargingSchedule : ChargingSchedule) :
    Option ChargingSchedulePeriod :=
  let started := chargingSchedule.chargingSchedulePeriod.takeWhile
    (hasStarted now chargingSchedule.startSchedule)
  (started.find? (startsWithLast chargingSchedule.chargingSchedulePeriod)).or started.getLast?

/-- The profile ends the search: it has not started yet, or it is active with periods. -/
def endsSearch (now : Timestamp) (chargingProfile : ChargingProfile) : Bool :=
  isFuture now chargingProfile ||
    (isActive now chargingProfile &&
      !chargingProfile.profile.chargingSchedule.chargingSchedulePeriod.isEmpty)

/-- A period in force belongs to a profile with periods. -/
theorem endsSearch_of_lastStarted? {now : Timestamp} {chargingProfile : ChargingProfile}
    (active : isActive now chargingProfile) {last : ChargingSchedulePeriod}
    (started : lastStarted? now chargingProfile.profile.chargingSchedule = some last) :
    endsSearch now chargingProfile := by
  have mem := (List.mem_filter.mp (List.mem_of_getLast? started)).1
  have nonempty : chargingProfile.profile.chargingSchedule.chargingSchedulePeriod.isEmpty =
      false := by
    cases h : chargingProfile.profile.chargingSchedule.chargingSchedulePeriod with
    | nil => simp [h] at mem
    | cons _ _ => rfl
  simp [endsSearch, active, nonempty]

/-! ## The search within a schedule -/

theorem searchPeriod_cons (now startSchedule : Timestamp)
    (schedulePeriods rest : List ChargingSchedulePeriod)
    (lastButOneSchedule : Option ChargingSchedulePeriod) (schedulePeriod : ChargingSchedulePeriod) :
    searchPeriod now startSchedule schedulePeriods lastButOneSchedule (schedulePeriod :: rest) =
      if schedulePeriods.length = 1 ∧ schedulePeriod.startPeriod = 0 then
        .ok (some schedulePeriod)
      else if now < addSeconds startSchedule schedulePeriod.startPeriod then
        match lastButOneSchedule with
        | none => .error "TypeError: Cannot read properties of undefined (reading 'limit')"
        | some lastButOne => .ok (some lastButOne)
      else if startsWithLast schedulePeriods schedulePeriod then .ok (some schedulePeriod)
      else searchPeriod now startSchedule schedulePeriods (some schedulePeriod) rest := by
  cases lastButOneSchedule <;> rfl

/-- Reading the limit of a period that need not be there. -/
def readLimit : Option ChargingSchedulePeriod → Except String (Option ChargingSchedulePeriod)
  | none => .error "TypeError: Cannot read properties of undefined (reading 'limit')"
  | some schedulePeriod => .ok (some schedulePeriod)

/-- A period at the start of the schedule starts with it. -/
theorem addSeconds_zero (date : Timestamp) : addSeconds date 0 = date := by
  have half : ⌊(1 / 2 : ℚ)⌋ = 0 := by norm_num
  simp [addSeconds, Rounding.roundHalfUp, -one_div, half]

/-- The search from some place in the list on. -/
theorem searchPeriod_suffix {now startSchedule : Timestamp}
    {schedulePeriods before rest : List ChargingSchedulePeriod}
    {lastButOneSchedule : Option ChargingSchedulePeriod} (begun : startSchedule ≤ now)
    (split : schedulePeriods = before ++ rest) (left : rest ≠ []) :
    searchPeriod now startSchedule schedulePeriods lastButOneSchedule rest =
      let started := rest.takeWhile (hasStarted now startSchedule)
      readLimit ((started.find? (startsWithLast schedulePeriods)).or
        (started.getLast?.or lastButOneSchedule)) := by
  induction rest generalizing before lastButOneSchedule with
  | nil => exact absurd rfl left
  | cons schedulePeriod rest ih =>
      rw [searchPeriod_cons]
      by_cases alone : schedulePeriods.length = 1 ∧ schedulePeriod.startPeriod = 0
      · -- The only period begins with the schedule, which has begun.
        have only : schedulePeriods = [schedulePeriod] := by
          rw [split] at alone
          simp only [List.length_append, List.length_cons] at alone
          have noneBefore : before = [] := List.length_eq_zero_iff.mp (by omega)
          have noneAfter : rest = [] := List.length_eq_zero_iff.mp (by omega)
          rw [split, noneBefore, noneAfter]
          rfl
        have starts : hasStarted now startSchedule schedulePeriod := by
          simpa [hasStarted, alone.2, addSeconds_zero] using begun
        have withLast : startsWithLast schedulePeriods schedulePeriod := by
          simp [startsWithLast, only]
        rw [if_pos alone, List.takeWhile_cons_of_pos starts]
        simp [withLast, readLimit]
      · rw [if_neg alone]
        by_cases starts : hasStarted now startSchedule schedulePeriod
        · have notLater : ¬ now < addSeconds startSchedule schedulePeriod.startPeriod := by
            simpa [hasStarted] using starts
          rw [if_neg notLater, List.takeWhile_cons_of_pos starts]
          by_cases withLast : startsWithLast schedulePeriods schedulePeriod
          · rw [if_pos withLast]
            simp [withLast, readLimit]
          · -- It is not the last one, so the search goes on behind it.
            have notLast : rest ≠ [] := by
              rintro rfl
              exact withLast (by simp [startsWithLast, split])
            have further : schedulePeriods = (before ++ [schedulePeriod]) ++ rest := by
              simp [split]
            rw [if_neg withLast, ih further notLast]
            dsimp only
            rw [List.find?_cons_of_neg withLast, List.getLast?_cons]
            cases (rest.takeWhile (hasStarted now startSchedule)).getLast? <;> rfl
        · have later : now < addSeconds startSchedule schedulePeriod.startPeriod := by
            simpa [hasStarted] using starts
          rw [if_pos later, List.takeWhile_cons_of_neg starts]
          cases lastButOneSchedule <;> rfl

/-- **The search within a schedule** that has begun and has periods finds the one at which the
list stops, and throws when there is none. -/
theorem searchPeriod_eq {now : Timestamp} {chargingSchedule : ChargingSchedule}
    (begun : chargingSchedule.startSchedule ≤ now)
    (periods : chargingSchedule.chargingSchedulePeriod ≠ []) :
    searchPeriod now chargingSchedule.startSchedule chargingSchedule.chargingSchedulePeriod none
        chargingSchedule.chargingSchedulePeriod =
      readLimit (stopPeriod? now chargingSchedule) := by
  rw [searchPeriod_suffix begun (List.nil_append _).symm periods]
  simp only [Option.or_none]
  rfl

/-! ## The search in the profiles -/

section Profiles

variable {calendar : LocalCalendar} {now : Timestamp} {chargingStation : ChargingStation}
variable {chargePoint : Option ChargePoint} {connectorID : ℕ}
variable {chargingProfile : ChargingProfile} {chargingProfiles : List ChargingProfile}

theorem startOfSchedule?_eq (absolute : isDailyRecurring chargingProfile = false) :
    startOfSchedule? calendar now chargingProfile =
      if isFuture now chargingProfile then none
      else some chargingProfile.profile.chargingSchedule.startSchedule := by
  simp [startOfSchedule?, absolute, isFuture]

/-- What the profile that ends the search answers. -/
def answer (now : Timestamp) (chargingStation : ChargingStation)
    (chargePoint : Option ChargePoint) (connectorID : ℕ) (chargingProfile : ChargingProfile) :
    Except String (Option ConnectorLimitation) :=
  if isFuture now chargingProfile then .ok none
  else
    (readLimit (stopPeriod? now chargingProfile.profile.chargingSchedule)).map
      (Option.map (limitOfPeriod chargingStation chargePoint connectorID))

/-- **The search in the profiles** is decided by the first one that has not started yet or is
active with periods. -/
theorem getCurrentConnectorLimitFromProfiles_eq
    (absolute : ∀ chargingProfile ∈ chargingProfiles, isDailyRecurring chargingProfile = false) :
    getCurrentConnectorLimitFromProfiles calendar now chargingStation chargePoint connectorID
        chargingProfiles =
      match chargingProfiles.find? (endsSearch now) with
      | none => .ok none
      | some chargingProfile =>
          answer now chargingStation chargePoint connectorID chargingProfile := by
  induction chargingProfiles with
  | nil => rfl
  | cons chargingProfile rest ih =>
      rw [List.forall_mem_cons] at absolute
      have ih := ih absolute.2
      rw [getCurrentConnectorLimitFromProfiles, startOfSchedule?_eq absolute.1]
      by_cases future : isFuture now chargingProfile
      · have ends : endsSearch now chargingProfile := by simp [endsSearch, future]
        rw [if_pos future, List.find?_cons_of_pos ends]
        simp [answer, future]
      · have begun : chargingProfile.profile.chargingSchedule.startSchedule ≤ now := by
          simpa [isFuture] using future
        rw [if_neg future]
        dsimp only
        by_cases running : now < addSeconds chargingProfile.profile.chargingSchedule.startSchedule
            (chargingProfile.profile.chargingSchedule.duration.getD 0)
        · rw [if_pos running]
          cases hperiods : chargingProfile.profile.chargingSchedule.chargingSchedulePeriod with
          | nil =>
              have goesOn : ¬ endsSearch now chargingProfile := by
                simp [endsSearch, future, hperiods]
              rw [List.find?_cons_of_neg goesOn]
              exact ih
          | cons first others =>
              have ends : endsSearch now chargingProfile := by
                simp [endsSearch, isActive, begun, running, hperiods]
              have searched := searchPeriod_eq begun (hperiods ▸ List.cons_ne_nil first others)
              rw [hperiods] at searched
              have answered : answer now chargingStation chargePoint connectorID chargingProfile =
                  _ := if_neg future
              rw [List.find?_cons_of_pos ends, searched]
              dsimp only
              rw [answered]
              cases stopPeriod? now chargingProfile.profile.chargingSchedule <;> rfl
        · have goesOn : ¬ endsSearch now chargingProfile := by
            simp [endsSearch, future, isActive, running]
          rw [if_neg running, List.find?_cons_of_neg goesOn]
          exact ih

/-- The result is the limit in force. -/
def ShowsLimitInForce (calendar : LocalCalendar) (now : Timestamp)
    (chargingStation : ChargingStation) (chargePoint : Option ChargePoint) (connectorID : ℕ)
    (chargingProfiles : List ChargingProfile) : Prop :=
  getCurrentConnectorLimitFromProfiles calendar now chargingStation chargePoint connectorID
      chargingProfiles =
    .ok ((limitInForce? now chargingProfiles).map
      (limitOfPeriod chargingStation chargePoint connectorID))

/-- The list of profiles is one in which the search finds what is in force: the profile that
ends it has not started and none has a period in force, or it is the first active one and its
periods stop at the last one already started, or at one of the same limit. -/
def StopsInForce (now : Timestamp) (chargingProfiles : List ChargingProfile) : Prop :=
  ∀ chargingProfile ∈ chargingProfiles.find? (endsSearch now),
    if isFuture now chargingProfile then limitInForce? now chargingProfiles = none
    else
      chargingProfiles.find? (isActive now) = some chargingProfile ∧
        ∃ stop ∈ stopPeriod? now chargingProfile.profile.chargingSchedule,
          ∃ last ∈ lastStarted? now chargingProfile.profile.chargingSchedule,
            stop.limit = last.limit

/-- A period in force is found in the profile that ends the search, unless that has not
started. -/
theorem find?_isActive_of_limitInForce? {last : ChargingSchedulePeriod}
    (inForce : limitInForce? now chargingProfiles = some last)
    (ends : chargingProfiles.find? (endsSearch now) = some chargingProfile)
    (begun : ¬ isFuture now chargingProfile) :
    chargingProfiles.find? (isActive now) = some chargingProfile ∧
      lastStarted? now chargingProfile.profile.chargingSchedule = some last := by
  obtain ⟨active, first, started⟩ := Option.bind_eq_some_iff.mp inForce
  have activeEnds := endsSearch_of_lastStarted? (List.find?_some first) started
  have endsActive : isActive now chargingProfile := by
    have := List.find?_some ends
    rw [endsSearch, Bool.or_eq_true, Bool.and_eq_true] at this
    exact (this.resolve_left begun).1
  obtain rfl := KeyedList.find?_unique first ends endsActive activeEnds
  exact ⟨first, started⟩

/-- Two periods give the same limitation when their limits are the same. -/
theorem limitOfPeriod_inj {stop last : ChargingSchedulePeriod} :
    limitOfPeriod chargingStation chargePoint connectorID stop =
        limitOfPeriod chargingStation chargePoint connectorID last ↔
      stop.limit = last.limit := by
  constructor
  · intro same
    simpa [limitOfPeriod] using congrArg ConnectorLimitation.limitAmps same
  · intro same
    rw [limitOfPeriod, limitOfPeriod, same]

/-- **When the limit in force is found.** -/
theorem showsLimitInForce_iff
    (absolute : ∀ chargingProfile ∈ chargingProfiles, isDailyRecurring chargingProfile = false) :
    ShowsLimitInForce calendar now chargingStation chargePoint connectorID chargingProfiles ↔
      StopsInForce now chargingProfiles := by
  unfold ShowsLimitInForce StopsInForce
  rw [getCurrentConnectorLimitFromProfiles_eq absolute]
  cases ends : chargingProfiles.find? (endsSearch now) with
  | none =>
      -- An active profile would have ended the search, unless it has no period.
      have nothing : limitInForce? now chargingProfiles = none := by
        by_contra inForce
        obtain ⟨last, inForce⟩ := Option.ne_none_iff_exists'.mp inForce
        obtain ⟨active, first, started⟩ := Option.bind_eq_some_iff.mp inForce
        exact List.find?_eq_none.mp ends active (List.mem_of_find?_eq_some first)
          (endsSearch_of_lastStarted? (List.find?_some first) started)
      simp [nothing]
  | some chargingProfile =>
      simp only [Option.mem_some_iff, forall_eq', answer]
      by_cases future : isFuture now chargingProfile
      · rw [if_pos future, if_pos future]
        simp [eq_comm]
      · rw [if_neg future, if_neg future]
        constructor
        · intro shown
          obtain ⟨found, read, mapped⟩ := Outcome.map_eq_ok.mp shown
          cases hstop : stopPeriod? now chargingProfile.profile.chargingSchedule with
          | none => simp [hstop, readLimit] at read
          | some stop =>
              rw [hstop] at read
              obtain rfl := Except.ok.inj read
              obtain ⟨last, inForce, same⟩ := Option.map_eq_some_iff.mp mapped.symm
              obtain ⟨first, started⟩ := find?_isActive_of_limitInForce? inForce ends future
              exact ⟨first, stop, rfl, last, started, limitOfPeriod_inj.mp same.symm⟩
        · rintro ⟨first, stop, hstop, last, started, same⟩
          have inForce : limitInForce? now chargingProfiles = some last :=
            Option.bind_eq_some_iff.mpr ⟨chargingProfile, first, started⟩
          rw [hstop, inForce, Option.map_some, ← limitOfPeriod_inj.mpr same]
          rfl

/-- Of periods whose starts increase, those that have started are the first ones, and the
search stops at the last of them. -/
theorem stopPeriod?_eq_lastStarted? {chargingSchedule : ChargingSchedule}
    (increasing : chargingSchedule.chargingSchedulePeriod.Pairwise fun earlier later =>
      earlier.startPeriod < later.startPeriod) :
    stopPeriod? now chargingSchedule = lastStarted? now chargingSchedule := by
  have started : chargingSchedule.chargingSchedulePeriod.takeWhile
        (hasStarted now chargingSchedule.startSchedule) =
      chargingSchedule.chargingSchedulePeriod.filter
        (hasStarted now chargingSchedule.startSchedule) := by
    refine KeyedList.takeWhile_eq_filter (increasing.imp ?_)
    intro earlier later before hlater
    rw [hasStarted, decide_eq_true_eq] at hlater ⊢
    exact (addSeconds_mono _ before.le).trans hlater
  unfold stopPeriod? lastStarted?
  rw [started]
  dsimp only
  cases found : (chargingSchedule.chargingSchedulePeriod.filter
      (hasStarted now chargingSchedule.startSchedule)).find?
      (startsWithLast chargingSchedule.chargingSchedulePeriod) with
  | none => rfl
  | some schedulePeriod =>
      -- It begins together with the last one, so it is the last one.
      have withLast := List.find?_some found
      obtain ⟨mem, begun⟩ := List.mem_filter.mp (List.mem_of_find?_eq_some found)
      obtain ⟨init, last, periods⟩ :=
        (List.eq_nil_or_concat' chargingSchedule.chargingSchedulePeriod).resolve_left
          (List.ne_nil_of_mem mem)
      rw [periods] at increasing mem withLast ⊢
      have same : schedulePeriod = last := by
        rcases List.mem_append.mp mem with ahead | atEnd
        · have before := (List.pairwise_append.mp increasing).2.2 schedulePeriod ahead last
            (List.mem_singleton_self last)
          have equal : schedulePeriod.startPeriod = last.startPeriod := by
            simpa [startsWithLast] using withLast
          exact absurd equal before.ne
        · exact List.mem_singleton.mp atEnd
      rw [List.filter_append, List.filter_cons_of_pos (same ▸ begun)]
      simp [same]

end Profiles

/-- A schedule of an hour from `startSchedule` on. -/
def profileFrom (startSchedule : Timestamp)
    (chargingSchedulePeriod : List ChargingSchedulePeriod) : ChargingProfile :=
  { profile :=
      { chargingSchedule :=
          { startSchedule := startSchedule
            duration := some 3600
            chargingSchedulePeriod := chargingSchedulePeriod } } }

/-- A calendar in which every day is the same. -/
def sameDay : LocalCalendar := ⟨fun date _ => date, fun date _ => date⟩

/-- The second period of the active profile, behind one that has ended. -/
theorem showsLimitInForce_iff_second_period :
    ShowsLimitInForce sameDay 7260000 { id := "CS-53" } none 1
      [profileFrom 0 [⟨0, 32, none, none⟩],
        profileFrom 7200000 [⟨0, 16, none, none⟩, ⟨30, 10, none, none⟩]] := by
  refine (showsLimitInForce_iff (by decide +kernel)).mpr ?_
  have ends : [profileFrom 0 [⟨0, 32, none, none⟩],
      profileFrom 7200000 [⟨0, 16, none, none⟩, ⟨30, 10, none, none⟩]].find?
        (endsSearch 7260000) =
      some (profileFrom 7200000 [⟨0, 16, none, none⟩, ⟨30, 10, none, none⟩]) := by
    decide +kernel
  intro chargingProfile mem
  rw [ends] at mem
  obtain rfl := Option.some.inj mem
  decide +kernel

/-- A profile that starts in an hour hides the one that is active. -/
theorem not_showsLimitInForce_of_future :
    ¬ ∀ calendar now chargingStation chargePoint connectorID chargingProfiles,
      (∀ chargingProfile ∈ chargingProfiles, isDailyRecurring chargingProfile = false) →
        ShowsLimitInForce calendar now chargingStation chargePoint connectorID
          chargingProfiles := by
  intro all
  have shown := all sameDay 60000 { id := "CS-54" } none 1
    [profileFrom 3660000 [⟨0, 32, none, none⟩], profileFrom 0 [⟨0, 16, none, none⟩]]
    (by decide +kernel)
  have hidden : getCurrentConnectorLimitFromProfiles sameDay 60000 { id := "CS-54" } none 1
      [profileFrom 3660000 [⟨0, 32, none, none⟩], profileFrom 0 [⟨0, 16, none, none⟩]] =
      .ok none := rfl
  have inForce : limitInForce? 60000
      [profileFrom 3660000 [⟨0, 32, none, none⟩], profileFrom 0 [⟨0, 16, none, none⟩]] =
      some ⟨0, 16, none, none⟩ := by
    decide +kernel
  rw [ShowsLimitInForce, hidden, inForce] at shown
  cases shown

end ChargingStationVendorIntegration

end EvServer
