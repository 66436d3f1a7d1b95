import EvServer.Assets.AssetGetConsumptionTask
import Mathlib.Data.List.Dedup

/-!
# The Lacroix meter of a site area (`LacroixAssetIntegration`)

The meter measures the whole site area, so that the power of the charging stations is
subtracted from its data points: that of the stored consumptions of the minute, or, for the
last data point while its minute goes on, that of the ongoing transactions.

The readings of the clock in one call are taken to be one instant.
-/

namespace EvServer

namespace LacroixAssetIntegration

open AssetGetConsumptionTask (LastConsumption)

/-! ## Data -/

/-- The properties `instantWatts`, `instantWattsL1`, … -/
inductive WattsProperty
  | instantWatts
  | instantWattsL1
  | instantWattsL2
  | instantWattsL3
  deriving DecidableEq, Repr

/-- A power, in all and by phase. -/
abbrev InstantWatts := WattsProperty → ℚ

/-- `LacroixDataPoint`. -/
structure LacroixDataPoint where
  date : Timestamp
  powerApparentConsumed : InstantWatts

/-- `LacroixPeriods`. -/
inductive LacroixPeriods
  | last
  | fiveMinutes
  | oneHour
  | oneDay
  deriving DecidableEq, Repr

/-- What is read of an `Asset`, once it has a last consumption. -/
structure Asset where
  siteAreaID : String
  /-- `siteArea?.voltage` -/
  voltage : Option ℚ
  lastConsumption : LastConsumption

/-- `AbstractCurrentConsumption`. -/
structure AbstractCurrentConsumption where
  currentInstantWatts : InstantWatts
  currentInstantAmps : Option ℚ := none
  currentTotalConsumptionWh : ℚ
  lastConsumption : LastConsumption

/-- A stored consumption. -/
structure StoredConsumption where
  siteAreaID : Option String
  chargeBoxID : Option String
  endedAt : Timestamp
  watts : InstantWatts

/-- A stored transaction. -/
structure StoredTransaction where
  siteAreaID : Option String
  stopped : Bool
  currentWatts : InstantWatts

/-- The collections that are read. -/
structure Storage where
  consumptions : List StoredConsumption
  transactions : List StoredTransaction

/-- `moment(date).diff(date', 'minutes')`. -/
def diffMinutes (date date' : Timestamp) : ℤ := (date - date').tdiv 60000

/-- The date of `$dateFromParts`, down to the minute. -/
def minuteOf (date : Timestamp) : Timestamp := date - date % 60000

/-- `TransactionStorage.getTransactions`, of those of a site area that have not stopped. -/
def getTransactions (storage : Storage) (siteAreaID : String) : List StoredTransaction :=
  storage.transactions.filter fun transaction =>
    transaction.siteAreaID = some siteAreaID ∧ transaction.stopped = false

/-- A consumption of a charging station of the site area. -/
def isOfStation (siteAreaID : String) (consumption : StoredConsumption) : Bool :=
  consumption.siteAreaID = some siteAreaID ∧ consumption.chargeBoxID ≠ none

/-- A document that `getSiteAreaChargingStationConsumptions` returns. -/
structure MinuteConsumption where
  endedAt : Timestamp
  watts : InstantWatts

/-- `ConsumptionStorage.getSiteAreaChargingStationConsumptions`; an asset always has the
ID of a site area. -/
def getSiteAreaChargingStationConsumptions (storage : Storage) (siteAreaID : String)
    (startDate endDate : Timestamp) : List MinuteConsumption :=
  let found := storage.consumptions.filter fun consumption =>
    isOfStation siteAreaID consumption ∧
      startDate ≤ consumption.endedAt ∧ consumption.endedAt ≤ endDate
  (found.map fun consumption => minuteOf consumption.endedAt).dedup.map fun minute =>
    { endedAt := minute
      watts := ((found.filter fun consumption => minuteOf consumption.endedAt = minute).map
        StoredConsumption.watts).sum }

/-! ## The code -/

/-- The consumption of a data point. -/
def toConsumption (dataPoint : LacroixDataPoint) : AbstractCurrentConsumption :=
  let currentTotalConsumptionWh := dataPoint.powerApparentConsumed .instantWatts * 60
  { currentInstantWatts := dataPoint.powerApparentConsumed
    currentTotalConsumptionWh
    lastConsumption := { timestamp := dataPoint.date, value := currentTotalConsumptionWh } }

/-- The history is taken into account. -/
def subtractHistory (now : Timestamp) (consumptionsDB : List MinuteConsumption)
    (consumption : AbstractCurrentConsumption) : AbstractCurrentConsumption :=
  let timestamp := consumption.lastConsumption.timestamp
  match consumptionsDB.find? fun consumptionDB => consumptionDB.endedAt = timestamp with
  | some consumptionToSubtract =>
      if 1 < diffMinutes now timestamp then
        { consumption with
          currentInstantWatts := consumption.currentInstantWatts - consumptionToSubtract.watts }
      else consumption
  | none => consumption

/-- The ongoing transactions are subtracted one after the other. -/
def subtractTransactions (transactions : List StoredTransaction)
    (consumption : AbstractCurrentConsumption) : AbstractCurrentConsumption :=
  transactions.foldl (fun consumption transaction =>
    { consumption with
      currentInstantWatts := consumption.currentInstantWatts - transaction.currentWatts })
    consumption

/-- The amperage values: the four of them go to one property. -/
def createAmperage (voltage : Option ℚ) (consumption : AbstractCurrentConsumption) :
    AbstractCurrentConsumption :=
  match voltage.filter (· ≠ 0) with
  | some voltage =>
      [.instantWatts, .instantWattsL1, .instantWattsL2, .instantWattsL3].foldl
        (fun consumption property =>
          { consumption with
            currentInstantAmps := some (consumption.currentInstantWatts property / voltage) })
        consumption
  | none => consumption

/-- `consumptions[consumptions.length - 1].lastConsumption`. -/
def lastConsumptionOf (consumptions : List AbstractCurrentConsumption) :
    Except String LastConsumption :=
  match consumptions.getLast? with
  | some consumption => .ok consumption.lastConsumption
  | none => .error "TypeError: Cannot read properties of undefined (reading 'lastConsumption')"

/-- The data points from that of the last consumption on, or all of them. -/
def spliceData (asset : Asset) (data : List LacroixDataPoint) : List LacroixDataPoint :=
  match data.findIdx? fun dataPoint => dataPoint.date = asset.lastConsumption.timestamp with
  | some currentIndex => data.drop currentIndex
  | none => data

/-- The history needs to be taken into account, when the last consumption is that old. -/
def takeHistory (storage : Storage) (now : Timestamp) (asset : Asset)
    (consumptions : List AbstractCurrentConsumption) :
    Except String (List AbstractCurrentConsumption) :=
  if 1 < diffMinutes now asset.lastConsumption.timestamp then do
    let last ← lastConsumptionOf consumptions
    let consumptionsDB := getSiteAreaChargingStationConsumptions storage asset.siteAreaID
      asset.lastConsumption.timestamp last.timestamp
    return consumptions.map (subtractHistory now consumptionsDB)
  else return consumptions

/-- The transactions are those of the current minute. -/
def takeTransactions (storage : Storage) (now : Timestamp) (asset : Asset)
    (consumptions : List AbstractCurrentConsumption) :
    Except String (List AbstractCurrentConsumption) := do
  let last ← lastConsumptionOf consumptions
  if diffMinutes now last.timestamp ≤ 1 then
    return consumptions.dropLast ++ consumptions.getLast?.toList.map
      (subtractTransactions (getTransactions storage asset.siteAreaID))
  else return consumptions

def filterConsumptionRequest (storage : Storage) (now : Timestamp) (asset : Asset)
    (data : List LacroixDataPoint) (manualCall : Bool) :
    Except String (List AbstractCurrentConsumption) := do
  let consumptions ← takeHistory storage now asset ((spliceData asset data).map toConsumption)
  let consumptions ← takeTransactions storage now asset consumptions
  let consumptions := consumptions.map (createAmperage asset.voltage)
  if manualCall then return consumptions.getLast?.toList
  else return consumptions

/-- `retrieveConsumptions`, where `getPowerData` is the web service. -/
def retrieveConsumptions (storage : Storage) (now startOfDay : Timestamp)
    (refreshIntervalMins : ℤ) (siteAreaID : String) (voltage : Option ℚ)
    (lastConsumption : Option LastConsumption)
    (getPowerData : LacroixPeriods → Except String (List LacroixDataPoint))
    (manualCall : Bool) : Except String (List AbstractCurrentConsumption) :=
  let early := lastConsumption.any fun lastConsumption =>
    refreshIntervalMins ≠ 0 ∧ now < lastConsumption.timestamp + refreshIntervalMins * 60000
  if !manualCall && early then .ok []
  else
    let lastConsumption := lastConsumption.getD { timestamp := startOfDay, value := 0 }
    let timeSinceLastConsumption := diffMinutes now lastConsumption.timestamp
    let period : LacroixPeriods :=
      if 5 < timeSinceLastConsumption ∧ timeSinceLastConsumption ≤ 60 then .oneHour
      else if 60 < timeSinceLastConsumption then .oneDay
      else .fiveMinutes
    let consumptions := do
      let data ← getPowerData (if manualCall then .last else period)
      filterConsumptionRequest storage now { siteAreaID, voltage, lastConsumption } data manualCall
    consumptions.mapError fun _ => "Error while retrieving the asset consumption"

/-! ## What is subtracted -/

section

variable (storage : Storage) (now : Timestamp) (asset : Asset)

/-- The power of the consumptions of the charging stations with a property. -/
def stationWatts (holds : StoredConsumption → Bool) : InstantWatts :=
  ((storage.consumptions.filter fun consumption =>
    isOfStation asset.siteAreaID consumption ∧ holds consumption).map StoredConsumption.watts).sum

/-- The power of the ongoing transactions of the site area. -/
def transactionWatts : InstantWatts :=
  ((getTransactions storage asset.siteAreaID).map StoredTransaction.currentWatts).sum

/-- The consumption is looked up for a data point, when `final` is the last one. -/
def isLookedUp (final dataPoint : LacroixDataPoint) (consumption : StoredConsumption) : Bool :=
  1 < diffMinutes now asset.lastConsumption.timestamp ∧
    asset.lastConsumption.timestamp ≤ consumption.endedAt ∧
    consumption.endedAt ≤ final.date ∧ minuteOf consumption.endedAt = dataPoint.date

/-- What is subtracted from a data point. -/
def subtracted (final : LacroixDataPoint) (isLast : Bool) (dataPoint : LacroixDataPoint) :
    InstantWatts :=
  if 1 < diffMinutes now dataPoint.date then
    stationWatts storage asset (isLookedUp now asset final dataPoint)
  else if isLast then transactionWatts storage asset
  else 0

/-- What is returned for a data point. -/
def readingOf (final : LacroixDataPoint) (isLast : Bool) (dataPoint : LacroixDataPoint) :
    AbstractCurrentConsumption :=
  createAmperage asset.voltage
    { toConsumption dataPoint with
      currentInstantWatts := dataPoint.powerApparentConsumed -
        subtracted storage now asset final isLast dataPoint }

variable {storage now asset}

theorem subtractTransactions_eq (transactions : List StoredTransaction)
    (consumption : AbstractCurrentConsumption) :
    subtractTransactions transactions consumption =
      { consumption with
        currentInstantWatts := consumption.currentInstantWatts -
          (transactions.map StoredTransaction.currentWatts).sum } := by
  induction transactions generalizing consumption with
  | nil => simp [subtractTransactions]
  | cons transaction transactions ih =>
      rw [subtractTransactions, List.foldl_cons]
      refine (ih _).trans ?_
      rw [List.map_cons, List.sum_cons, sub_sub]

theorem find?_getSiteAreaChargingStationConsumptions (siteAreaID : String)
    (startDate endDate timestamp : Timestamp) :
    ((getSiteAreaChargingStationConsumptions storage siteAreaID startDate endDate).find?
        fun consumptionDB => consumptionDB.endedAt = timestamp) =
      let found := storage.consumptions.filter fun consumption =>
        isOfStation siteAreaID consumption ∧
          startDate ≤ consumption.endedAt ∧ consumption.endedAt ≤ endDate
      if timestamp ∈ found.map fun consumption => minuteOf consumption.endedAt then
        some ⟨timestamp, ((found.filter fun consumption =>
          minuteOf consumption.endedAt = timestamp).map StoredConsumption.watts).sum⟩
      else none := by
  unfold getSiteAreaChargingStationConsumptions
  extract_lets found
  rw [List.find?_map]
  split
  · rename_i mem
    have there : ((found.map fun consumption => minuteOf consumption.endedAt).dedup.find?
        fun minute => decide (minute = timestamp)) = some timestamp := by
      have some_there := List.find?_isSome (p := fun minute => decide (minute = timestamp)).mpr
        ⟨timestamp, List.mem_dedup.mpr mem, by simp⟩
      obtain ⟨minute, hminute⟩ := Option.isSome_iff_exists.mp some_there
      have same : minute = timestamp := by simpa using List.find?_some hminute
      rw [hminute, same]
    exact congrArg _ there
  · rename_i absent
    rw [Option.map_eq_none_iff, List.find?_eq_none]
    intro minute mem same
    have here : minute = timestamp := by simpa using same
    exact absent (here ▸ List.mem_dedup.mp mem)

/-- What the history takes from a data point. -/
def historyWatts (storage : Storage) (now : Timestamp) (asset : Asset)
    (final dataPoint : LacroixDataPoint) : InstantWatts :=
  if 1 < diffMinutes now dataPoint.date then
    stationWatts storage asset (isLookedUp now asset final dataPoint)
  else 0

theorem stationWatts_isLookedUp_of_recent {final dataPoint : LacroixDataPoint}
    (h : ¬ 1 < diffMinutes now asset.lastConsumption.timestamp) :
    stationWatts storage asset (isLookedUp now asset final dataPoint) = 0 := by
  have nothing : (storage.consumptions.filter fun consumption =>
      isOfStation asset.siteAreaID consumption ∧
        isLookedUp now asset final dataPoint consumption) = [] := by
    rw [List.filter_eq_nil_iff]
    intro consumption _ looked
    simp only [isLookedUp, decide_eq_true_eq] at looked
    exact h looked.2.1
  rw [stationWatts, nothing]
  rfl

theorem subtractHistory_eq (consumptionsDB : List MinuteConsumption)
    (consumption : AbstractCurrentConsumption) :
    subtractHistory now consumptionsDB consumption =
      { consumption with
        currentInstantWatts := consumption.currentInstantWatts -
          if 1 < diffMinutes now consumption.lastConsumption.timestamp then
            (consumptionsDB.find? fun consumptionDB =>
              consumptionDB.endedAt = consumption.lastConsumption.timestamp).elim 0
                MinuteConsumption.watts
          else 0 } := by
  unfold subtractHistory
  extract_lets timestamp
  cases consumptionsDB.find? fun consumptionDB => decide (consumptionDB.endedAt = timestamp) with
  | none => simp
  | some consumptionToSubtract =>
      by_cases old : 1 < diffMinutes now timestamp
      · rw [if_pos old, Option.elim_some]
        exact if_pos old
      · rw [if_neg old, sub_zero]
        exact if_neg old

/-- The document of a minute has the power of what is found of it. -/
theorem watts_getSiteAreaChargingStationConsumptions (startDate endDate timestamp : Timestamp) :
    ((getSiteAreaChargingStationConsumptions storage asset.siteAreaID startDate endDate).find?
        fun consumptionDB => consumptionDB.endedAt = timestamp).elim 0 MinuteConsumption.watts =
      stationWatts storage asset fun consumption =>
        startDate ≤ consumption.endedAt ∧ consumption.endedAt ≤ endDate ∧
          minuteOf consumption.endedAt = timestamp := by
  rw [find?_getSiteAreaChargingStationConsumptions]
  extract_lets found
  have same : (found.filter fun consumption => minuteOf consumption.endedAt = timestamp) =
      storage.consumptions.filter fun consumption => isOfStation asset.siteAreaID consumption ∧
        decide (startDate ≤ consumption.endedAt ∧ consumption.endedAt ≤ endDate ∧
          minuteOf consumption.endedAt = timestamp) := by
    rw [List.filter_filter]
    refine List.filter_congr fun consumption _ => ?_
    rw [Bool.eq_iff_iff]
    simp only [Bool.and_eq_true, decide_eq_true_eq]
    tauto
  rw [stationWatts, ← same]
  split
  · rfl
  · rename_i absent
    have nothing : (found.filter fun consumption =>
        minuteOf consumption.endedAt = timestamp) = [] := by
      rw [List.filter_eq_nil_iff]
      intro consumption mem here
      exact absent (List.mem_map.mpr ⟨consumption, mem, by simpa using here⟩)
    rw [nothing]
    rfl

theorem subtractHistory_toConsumption (final dataPoint : LacroixDataPoint)
    (h : 1 < diffMinutes now asset.lastConsumption.timestamp) :
    subtractHistory now (getSiteAreaChargingStationConsumptions storage asset.siteAreaID
        asset.lastConsumption.timestamp final.date) (toConsumption dataPoint) =
      { toConsumption dataPoint with
        currentInstantWatts := dataPoint.powerApparentConsumed -
          historyWatts storage now asset final dataPoint } := by
  have looked : isLookedUp now asset final dataPoint = fun consumption : StoredConsumption =>
      asset.lastConsumption.timestamp ≤ consumption.endedAt ∧
        consumption.endedAt ≤ final.date ∧ minuteOf consumption.endedAt = dataPoint.date := by
    funext consumption
    simp only [isLookedUp, h, true_and]
  rw [subtractHistory_eq, watts_getSiteAreaChargingStationConsumptions, historyWatts, looked]
  rfl

theorem lastConsumptionOf_append_singleton (consumptions : List AbstractCurrentConsumption)
    (consumption : AbstractCurrentConsumption) :
    lastConsumptionOf (consumptions ++ [consumption]) = .ok consumption.lastConsumption := by
  rw [lastConsumptionOf, List.getLast?_concat]

/-- A data point without what the history has of it. -/
def afterHistory (storage : Storage) (now : Timestamp) (asset : Asset)
    (final dataPoint : LacroixDataPoint) : AbstractCurrentConsumption :=
  { toConsumption dataPoint with
    currentInstantWatts := dataPoint.powerApparentConsumed -
      historyWatts storage now asset final dataPoint }

theorem takeHistory_map (init : List LacroixDataPoint) (final : LacroixDataPoint) :
    takeHistory storage now asset ((init ++ [final]).map toConsumption) =
      .ok ((init ++ [final]).map (afterHistory storage now asset final)) := by
  unfold takeHistory
  split
  · rename_i h
    rw [List.map_append, List.map_singleton, lastConsumptionOf_append_singleton,
      ← List.map_singleton, ← List.map_append]
    refine congrArg Except.ok ?_
    rw [List.map_map]
    exact List.map_congr_left fun dataPoint _ => subtractHistory_toConsumption final dataPoint h
  · rename_i h
    refine congrArg Except.ok (List.map_congr_left fun dataPoint _ => ?_)
    have nothing : historyWatts storage now asset final dataPoint = 0 := by
      rw [historyWatts, stationWatts_isLookedUp_of_recent h, ite_self]
    rw [afterHistory, nothing, sub_zero]
    rfl

/-- The last data point loses the transactions while its minute goes on. -/
theorem exists_takeTransactions_map (init : List LacroixDataPoint) (final : LacroixDataPoint) :
    ∃ last, takeTransactions storage now asset
        ((init ++ [final]).map (afterHistory storage now asset final)) =
          .ok (init.map (afterHistory storage now asset final) ++ [last]) ∧
      createAmperage asset.voltage last = readingOf storage now asset final true final := by
  rw [takeTransactions, List.map_append, List.map_singleton, lastConsumptionOf_append_singleton]
  change ∃ last, (if diffMinutes now final.date ≤ 1 then _ else _) = _ ∧ _
  by_cases current : diffMinutes now final.date ≤ 1
  · refine ⟨subtractTransactions (getTransactions storage asset.siteAreaID)
      (afterHistory storage now asset final final), ?_, ?_⟩
    · rw [if_pos current, List.dropLast_concat, List.getLast?_concat]
      rfl
    · have unspoilt : historyWatts storage now asset final final = 0 :=
        if_neg (not_lt.mpr current)
      have ongoing : subtracted storage now asset final true final =
          transactionWatts storage asset := if_neg (not_lt.mpr current)
      rw [subtractTransactions_eq, afterHistory, unspoilt, sub_zero, readingOf, ongoing]
      rfl
  · refine ⟨afterHistory storage now asset final final, if_neg current, ?_⟩
    have old : 1 < diffMinutes now final.date := not_le.mp current
    have stored : subtracted storage now asset final true final =
        historyWatts storage now asset final final := by
      rw [subtracted, historyWatts, if_pos old, if_pos old]
    rw [readingOf, stored]
    rfl

/-- What is returned for data points of which `final` is the last one. -/
theorem filterConsumptionRequest_of_spliceData {data init : List LacroixDataPoint}
    {final : LacroixDataPoint} (manualCall : Bool)
    (h : spliceData asset data = init ++ [final]) :
    filterConsumptionRequest storage now asset data manualCall =
      .ok ((if manualCall then [] else init.map (readingOf storage now asset final false)) ++
        [readingOf storage now asset final true final]) := by
  obtain ⟨last, taken, amperage⟩ :=
    @exists_takeTransactions_map storage now asset init final
  have readings : (init.map (afterHistory storage now asset final) ++ [last]).map
      (createAmperage asset.voltage) = init.map (readingOf storage now asset final false) ++
        [readingOf storage now asset final true final] := by
    rw [List.map_append, List.map_map, List.map_singleton, amperage]
    rfl
  rw [filterConsumptionRequest, h, takeHistory_map]
  change (takeTransactions storage now asset _ >>= fun consumptions => _) = _
  rw [taken]
  change (if manualCall then _ else _) = _
  rw [readings]
  cases manualCall with
  | true => rw [if_pos rfl, if_pos rfl, List.getLast?_concat]; rfl
  | false => rfl

end

/-! ## The power of the charging stations -/

section

variable (storage : Storage) (now : Timestamp) (asset : Asset)

/-- The power of the charging stations in the minute of a data point. -/
def stationPower (dataPoint : LacroixDataPoint) : InstantWatts :=
  if 1 < diffMinutes now dataPoint.date then
    stationWatts storage asset fun consumption =>
      minuteOf consumption.endedAt = minuteOf dataPoint.date
  else transactionWatts storage asset

/-- The power of the charging stations that is not looked up for a data point. -/
def leftOut (final : LacroixDataPoint) (isLast : Bool) (dataPoint : LacroixDataPoint) :
    InstantWatts :=
  if 1 < diffMinutes now dataPoint.date then
    stationWatts storage asset fun consumption =>
      minuteOf consumption.endedAt = minuteOf dataPoint.date ∧
        ¬ isLookedUp now asset final dataPoint consumption
  else if isLast then 0
  else transactionWatts storage asset

variable {storage now asset}

theorem stationWatts_split (holds holds' : StoredConsumption → Bool) :
    stationWatts storage asset holds =
      stationWatts storage asset (fun consumption => holds consumption ∧ holds' consumption) +
        stationWatts storage asset fun consumption =>
          holds consumption ∧ ¬ holds' consumption := by
  unfold stationWatts
  rw [← List.sum_append, ← List.map_append]
  refine (List.Perm.map _ ?_).sum_eq
  refine (List.filter_append_perm holds' _).symm.trans ?_
  rw [List.filter_filter, List.filter_filter]
  refine List.Perm.of_eq (congrArg₂ _ ?_ ?_) <;>
    refine List.filter_congr fun consumption _ => ?_ <;>
    rw [Bool.eq_iff_iff] <;>
    simp only [Bool.and_eq_true, Bool.not_eq_true', decide_eq_true_eq, Bool.not_eq_true] <;>
    tauto

theorem minuteOf_minuteOf (date : ℤ) : minuteOf (minuteOf date) = minuteOf date := by
  change (date - date % 60000 - (date - date % 60000) % 60000 : ℤ) = date - date % 60000
  omega

/-- What is looked up for a data point is of its minute. -/
theorem minuteOf_of_isLookedUp {final dataPoint : LacroixDataPoint}
    {consumption : StoredConsumption} (h : isLookedUp now asset final dataPoint consumption) :
    minuteOf consumption.endedAt = minuteOf dataPoint.date := by
  simp only [isLookedUp, decide_eq_true_eq] at h
  rw [← h.2.2.2, minuteOf_minuteOf]

theorem subtracted_eq (final : LacroixDataPoint) (isLast : Bool) (dataPoint : LacroixDataPoint) :
    subtracted storage now asset final isLast dataPoint =
      stationPower storage now asset dataPoint -
        leftOut storage now asset final isLast dataPoint := by
  rw [eq_sub_iff_add_eq, subtracted, stationPower, leftOut]
  split
  · rw [stationWatts_split (fun consumption => decide (minuteOf consumption.endedAt =
      minuteOf dataPoint.date)) (isLookedUp now asset final dataPoint)]
    have looked : isLookedUp now asset final dataPoint = fun consumption =>
        decide (decide (minuteOf consumption.endedAt = minuteOf dataPoint.date) = true ∧
          isLookedUp now asset final dataPoint consumption = true) := by
      funext consumption
      rw [Bool.eq_iff_iff]
      simp only [decide_eq_true_eq]
      exact ⟨fun h => ⟨minuteOf_of_isLookedUp h, h⟩, And.right⟩
    nth_rewrite 1 [looked]
    simp only [decide_eq_true_eq]
  · cases isLast with
    | true => exact add_zero _
    | false => exact zero_add _

/-! ## What is returned -/

variable (storage now asset) in
/-- The reading is the power of a data point without that of the charging stations. -/
structure IsMetered (dataPoint : LacroixDataPoint) (consumption : AbstractCurrentConsumption) :
    Prop where
  timestamp : consumption.lastConsumption.timestamp = dataPoint.date
  watts : consumption.currentInstantWatts .instantWatts =
    dataPoint.powerApparentConsumed .instantWatts -
      stationPower storage now asset dataPoint .instantWatts
  amps : ∀ voltage, asset.voltage = some voltage → voltage ≠ 0 →
    consumption.currentInstantAmps =
      some (consumption.currentInstantWatts .instantWatts / voltage)
  energy : consumption.currentTotalConsumptionWh =
    consumption.currentInstantWatts .instantWatts / 60

variable (storage now asset) in
/-- The data points are read, and none of them is one that is stored. -/
def ReadsMeter (stored : Timestamp → Prop) (data : List LacroixDataPoint) (manualCall : Bool) :
    Prop :=
  ∃ consumptions, filterConsumptionRequest storage now asset data manualCall = .ok consumptions ∧
    ∃ points, points <:+ data ∧
      List.Forall₂ (IsMetered storage now asset) points consumptions ∧
      ∀ dataPoint ∈ points, ¬ stored dataPoint.date

variable (storage now asset) in
/-- Nothing of the power of the charging stations is left out, what is left is 3600 times the
metered power, and that of the third phase is all of it. -/
structure PassesThrough (final : LacroixDataPoint) (isLast : Bool)
    (dataPoint : LacroixDataPoint) : Prop where
  looked_up : leftOut storage now asset final isLast dataPoint .instantWatts = 0
  energy : stationPower storage now asset dataPoint .instantWatts =
    -3599 * dataPoint.powerApparentConsumed .instantWatts
  phase : ∀ voltage, asset.voltage = some voltage → voltage ≠ 0 →
    dataPoint.powerApparentConsumed .instantWattsL3 -
        (stationPower storage now asset dataPoint .instantWattsL3 -
          leftOut storage now asset final isLast dataPoint .instantWattsL3) =
      dataPoint.powerApparentConsumed .instantWatts -
        stationPower storage now asset dataPoint .instantWatts

theorem createAmperage_of_voltage {voltage : ℚ} (h : asset.voltage = some voltage)
    (ne : voltage ≠ 0) (consumption : AbstractCurrentConsumption) :
    createAmperage asset.voltage consumption =
      { consumption with
        currentInstantAmps := some (consumption.currentInstantWatts .instantWattsL3 / voltage) } := by
  have truthy : asset.voltage.filter (· ≠ 0) = some voltage := by
    rw [h]
    simp [Option.filter, ne]
  rw [createAmperage, truthy]
  rfl

/-- The amperage is all that a voltage changes. -/
theorem createAmperage_eq (voltage : Option ℚ) (consumption : AbstractCurrentConsumption) :
    ∃ amps, createAmperage voltage consumption =
      { consumption with currentInstantAmps := amps } := by
  unfold createAmperage
  split
  · exact ⟨_, rfl⟩
  · exact ⟨_, rfl⟩

theorem isMetered_readingOf_iff {final dataPoint : LacroixDataPoint} {isLast : Bool} :
    IsMetered storage now asset dataPoint (readingOf storage now asset final isLast dataPoint) ↔
      PassesThrough storage now asset final isLast dataPoint := by
  set consumption : AbstractCurrentConsumption := { toConsumption dataPoint with
    currentInstantWatts := dataPoint.powerApparentConsumed -
      subtracted storage now asset final isLast dataPoint } with hconsumption
  have watts (property : WattsProperty) : consumption.currentInstantWatts property =
      dataPoint.powerApparentConsumed property -
        (stationPower storage now asset dataPoint property -
          leftOut storage now asset final isLast dataPoint property) := by
    rw [hconsumption, subtracted_eq]
    rfl
  have reading : readingOf storage now asset final isLast dataPoint =
      createAmperage asset.voltage consumption := rfl
  obtain ⟨amps, hamps⟩ := createAmperage_eq asset.voltage consumption
  constructor
  · rintro ⟨-, hwatts, hcurrent, henergy⟩
    rw [reading] at hwatts hcurrent henergy
    have whole : consumption.currentInstantWatts .instantWatts =
        dataPoint.powerApparentConsumed .instantWatts -
          stationPower storage now asset dataPoint .instantWatts := by
      rw [hamps] at hwatts
      exact hwatts
    have sixty : dataPoint.powerApparentConsumed .instantWatts * 60 =
        consumption.currentInstantWatts .instantWatts / 60 := by
      rw [hamps] at henergy
      exact henergy
    refine ⟨?_, by linarith, ?_⟩
    · rw [watts] at whole
      linarith
    · intro voltage hvoltage ne
      have third := hcurrent voltage hvoltage ne
      rw [createAmperage_of_voltage hvoltage ne, Option.some_inj, div_left_inj' ne] at third
      rw [← watts, ← whole]
      exact third
  · rintro ⟨hleft, henergy, hphase⟩
    have whole : consumption.currentInstantWatts .instantWatts =
        dataPoint.powerApparentConsumed .instantWatts -
          stationPower storage now asset dataPoint .instantWatts := by
      rw [watts, hleft, sub_zero]
    rw [reading]
    refine ⟨by rw [hamps]; rfl, by rw [hamps]; exact whole, ?_, ?_⟩
    · intro voltage hvoltage ne
      have third : consumption.currentInstantWatts .instantWattsL3 =
          consumption.currentInstantWatts .instantWatts := by
        rw [watts, whole]
        exact hphase voltage hvoltage ne
      rw [createAmperage_of_voltage hvoltage ne, third]
    · rw [hamps]
      change dataPoint.powerApparentConsumed .instantWatts * 60 =
        consumption.currentInstantWatts .instantWatts / 60
      linarith

variable (asset) in
theorem spliceData_suffix (data : List LacroixDataPoint) : spliceData asset data <:+ data := by
  unfold spliceData
  split
  · exact List.drop_suffix _ _
  · exact List.suffix_refl _

/-- Without data points there is no last one. -/
theorem filterConsumptionRequest_of_spliceData_eq_nil {data : List LacroixDataPoint}
    (manualCall : Bool) (h : spliceData asset data = []) :
    filterConsumptionRequest storage now asset data manualCall =
      .error "TypeError: Cannot read properties of undefined (reading 'lastConsumption')" := by
  rw [filterConsumptionRequest, h]
  unfold takeHistory
  split <;> rfl

theorem forall₂_append_singleton_iff {α β : Type} {r : α → β → Prop} {init : List α}
    {init' : List β} {x : α} {y : β} :
    List.Forall₂ r (init ++ [x]) (init' ++ [y]) ↔ List.Forall₂ r init init' ∧ r x y := by
  rw [← List.forall₂_reverse_iff, List.reverse_append, List.reverse_append,
    List.reverse_singleton, List.reverse_singleton, List.singleton_append, List.singleton_append,
    List.forall₂_cons, List.forall₂_reverse_iff, and_comm]

/-- The meter is read when it has an answer whose data points are not stored and pass through. -/
theorem readsMeter_iff (storage : Storage) (now : Timestamp) (asset : Asset)
    (stored : Timestamp → Prop) (data : List LacroixDataPoint) (manualCall : Bool) :
    ReadsMeter storage now asset stored data manualCall ↔
      ∃ init final, spliceData asset data = init ++ [final] ∧
        (manualCall = false → ∀ dataPoint ∈ init, ¬ stored dataPoint.date ∧
          PassesThrough storage now asset final false dataPoint) ∧
        ¬ stored final.date ∧ PassesThrough storage now asset final true final := by
  rcases List.eq_nil_or_concat' (spliceData asset data) with hsplice | ⟨init, final, hsplice⟩
  · have failed : filterConsumptionRequest storage now asset data manualCall = _ :=
      filterConsumptionRequest_of_spliceData_eq_nil manualCall hsplice
    constructor
    · rintro ⟨consumptions, hok, -⟩
      rw [failed] at hok
      cases hok
    · rintro ⟨init, final, hdata, -⟩
      rw [hsplice] at hdata
      simp at hdata
  · have hok : filterConsumptionRequest storage now asset data manualCall = _ :=
      filterConsumptionRequest_of_spliceData manualCall hsplice
    -- The data points that are returned.
    set returned := (if manualCall then [] else init) ++ [final] with hreturned
    have suffix : returned <:+ data := by
      refine List.IsSuffix.trans ?_ (spliceData_suffix asset data)
      rw [hsplice, hreturned]
      cases manualCall with
      | true => exact List.suffix_append init [final]
      | false => exact List.suffix_refl _
    have metered : List.Forall₂ (IsMetered storage now asset) returned
        ((if manualCall then [] else init.map (readingOf storage now asset final false)) ++
          [readingOf storage now asset final true final]) ↔
        (manualCall = false → ∀ dataPoint ∈ init,
          PassesThrough storage now asset final false dataPoint) ∧
        PassesThrough storage now asset final true final := by
      rw [hreturned, forall₂_append_singleton_iff, isMetered_readingOf_iff]
      cases manualCall with
      | true => simp
      | false => simp [List.forall₂_map_right_iff, List.forall₂_same, isMetered_readingOf_iff]
    constructor
    · rintro ⟨consumptions, hread, points, hpoints, hmetered, fresh⟩
      obtain rfl := Except.ok.inj (hok.symm.trans hread)
      have same : points = returned := by
        have length : points.length = returned.length := by
          rw [hmetered.length_eq, hreturned]
          cases manualCall <;> simp
        exact (List.suffix_of_suffix_length_le hpoints suffix length.le).eq_of_length length
      subst same
      obtain ⟨passes, passes_final⟩ := metered.mp hmetered
      refine ⟨init, final, hsplice, fun auto dataPoint mem => ⟨?_, passes auto dataPoint mem⟩,
        fresh final (by simp [hreturned]), passes_final⟩
      exact fresh dataPoint (by simp [hreturned, auto, mem])
    · rintro ⟨init', final', hsplice', hinit, hfinal, passes_final⟩
      obtain ⟨rfl, same⟩ := List.append_inj' (hsplice.symm.trans hsplice') rfl
      obtain rfl : final = final' := by simpa using same
      refine ⟨_, hok, returned, suffix,
        metered.mpr ⟨fun auto dataPoint mem => (hinit auto dataPoint mem).2, passes_final⟩, ?_⟩
      intro dataPoint mem
      rw [hreturned, List.mem_append, List.mem_singleton] at mem
      rcases mem with mem | rfl
      · cases manualCall with
        | true => exact absurd mem (by simp)
        | false => exact (hinit rfl dataPoint mem).1
      · exact hfinal

/-- A power of 600 W, with 200 W on each phase. -/
private def threePhases : InstantWatts
  | .instantWatts => 600
  | _ => 200

/-- A minute at 600 W, with 200 W on each phase, is read as 36 kWh and less than 1 A. -/
theorem not_readsMeter_threePhases : ¬ ∀ (storage : Storage) (now : Timestamp) (asset : Asset)
    (stored : Timestamp → Prop) (data : List LacroixDataPoint) (manualCall : Bool),
    ReadsMeter storage now asset stored data manualCall := by
  intro reads
  let final : LacroixDataPoint := ⟨60000, threePhases⟩
  let asset : Asset := ⟨"SA1", some 230, ⟨0, 0⟩⟩
  have hok : filterConsumptionRequest ⟨[], []⟩ 120000 asset [final] false =
      .ok [readingOf ⟨[], []⟩ 120000 asset final true final] :=
    filterConsumptionRequest_of_spliceData false (show spliceData asset [final] = [] ++ _ from rfl)
  obtain ⟨consumptions, hread, points, -, metered, -⟩ :=
    reads ⟨[], []⟩ 120000 asset (fun _ => False) [final] false
  obtain rfl := Except.ok.inj (hok.symm.trans hread)
  obtain ⟨_, _, reading, -, -⟩ := List.forall₂_cons_right_iff.mp metered
  have energy := reading.energy
  revert energy
  decide +kernel

end

end LacroixAssetIntegration

end EvServer
