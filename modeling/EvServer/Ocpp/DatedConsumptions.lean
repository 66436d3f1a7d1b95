import EvServer.Ocpp.MeterRegister

/-!
# The dates of the consumptions of a request

Only a reading of the energy register gives a consumption its start.  A timestamp at
which other values were sampled is given a consumption all the same; it has no start,
and the sort of `createConsumptionsFromMeterValues` throws as soon as there is another
consumption beside it.  The start is the date of the last consumption the transaction
holds when the reading comes, or the start of the transaction.

`returnsDated_iff` says for which meter values the consumptions come back at all, each
with a start and an end, and in order: an answered limitation for every reading that
counts, and for every timestamp a reading of its own that is not dated before what it
starts at.
-/

namespace EvServer

open Register (Mark Sample)

namespace OCPPUtils

/-! ## One consumption -/

/-- The limitations of the connector and of the site area were found. -/
def AnswersLimitations (context : MeteringContext) (meterValue : OCPPNormalizedMeterValue) : Prop :=
  (∀ getCurrentConnectorLimit ∈ context.chargingStationVendor,
      (getCurrentConnectorLimit meterValue).isOk) ∧
    (context.siteAreaLimitation meterValue).isOk

theorem addConnectorLimitation_isOk_iff {context : MeteringContext}
    {chargingStation : ChargingStation} {connectorID : ℕ} {meterValue : OCPPNormalizedMeterValue}
    {consumption : Consumption} :
    (∃ limited, addConnectorLimitationToConsumption context chargingStation connectorID meterValue
        consumption = .ok limited) ↔
      ∀ getCurrentConnectorLimit ∈ context.chargingStationVendor,
        (getCurrentConnectorLimit meterValue).isOk := by
  unfold addConnectorLimitationToConsumption
  cases context.chargingStationVendor with
  | none => exact iff_of_true ⟨_, rfl⟩ fun _ mem => absurd mem (Option.not_mem_none _)
  | some getCurrentConnectorLimit =>
      simp only [Option.mem_some_iff, forall_eq', Outcome.isOk_iff]
      constructor
      · rintro ⟨limited, h⟩
        obtain ⟨limitation, found, -⟩ := Outcome.bind_eq_ok.mp h
        exact ⟨limitation, found⟩
      · rintro ⟨limitation, found⟩
        exact ⟨_, Outcome.bind_eq_ok.mpr ⟨limitation, found, rfl⟩⟩

theorem addSiteLimitation_isOk_iff {context : MeteringContext}
    {meterValue : OCPPNormalizedMeterValue} {consumption : Consumption} :
    (∃ limited, addSiteLimitationToConsumption context meterValue consumption = .ok limited) ↔
      (context.siteAreaLimitation meterValue).isOk := by
  rw [Outcome.isOk_iff]
  constructor
  · rintro ⟨limited, h⟩
    obtain ⟨limitation, found, -⟩ := Outcome.bind_eq_ok.mp h
    exact ⟨limitation, found⟩
  · rintro ⟨limitation, found⟩
    exact ⟨_, Outcome.bind_eq_ok.mpr ⟨limitation, found, rfl⟩⟩

/-- **A meter value throws** only as a reading of the energy register, and only when one of
its limitations is not found. -/
theorem createConsumption_isOk_iff {context : MeteringContext} {chargingStation : ChargingStation}
    {transaction : Transaction} {meterValue : OCPPNormalizedMeterValue} :
    (∃ result, createConsumptionFromMeterValue context chargingStation transaction
        transaction.lastConsumption meterValue = .ok result) ↔
      (isEnergyReading meterValue → AnswersLimitations context meterValue) := by
  have other {measurand : OCPPMeasurand} {contexts : List OCPPReadingContext}
      {result : Except String (Transaction × Consumption)}
      {created : Transaction × Consumption} (hother : measurand ≠ .energyActiveImportRegister)
      (hmeasures : measures measurand contexts meterValue) (hresult : result = .ok created) :
      (∃ result', result = .ok result') ↔
        (isEnergyReading meterValue → AnswersLimitations context meterValue) :=
    iff_of_true ⟨created, hresult⟩ fun reading =>
      absurd reading (not_isEnergyReading_of_measures hother hmeasures)
  unfold createConsumptionFromMeterValue
  split
  · rename_i soc
    exact other (by decide) soc rfl
  rename_i notSoc
  split
  · rename_i power
    exact other (by decide) power rfl
  split
  · rename_i voltage
    exact other (by decide) voltage rfl
  split
  · rename_i current
    exact other (by decide) current rfl
  split
  · rename_i energy
    have hreading : isEnergyReading meterValue := by
      unfold isEnergyReading
      rw [energy]
      cases hattributes : meterValue.attributes with
      | none => simp [isSocMeterValue, measures, hattributes] at notSoc
      | some _ => rfl
    simp only [hreading, forall_const]
    constructor
    · rintro ⟨result, h⟩
      obtain ⟨limited, hconnector, h⟩ := Outcome.bind_eq_ok.mp h
      obtain ⟨limited', hsite, -⟩ := Outcome.bind_eq_ok.mp h
      exact ⟨addConnectorLimitation_isOk_iff.mp ⟨_, hconnector⟩,
        addSiteLimitation_isOk_iff.mp ⟨_, hsite⟩⟩
    · rintro ⟨connectorAnswers, siteAnswers⟩
      obtain ⟨limited, hconnector⟩ := addConnectorLimitation_isOk_iff.mpr connectorAnswers
      obtain ⟨limited', hsite⟩ := addSiteLimitation_isOk_iff.mpr siteAnswers
      exact ⟨_, Outcome.bind_eq_ok.mpr
        ⟨limited, hconnector, Outcome.bind_eq_ok.mpr ⟨limited', hsite, rfl⟩⟩⟩
  · rename_i notEnergy
    refine iff_of_true ⟨_, rfl⟩ fun reading => ?_
    simp [isEnergyReading, notEnergy] at reading

/-! ## The meter values that count -/

/-- The meter values that are taken into account, each with the mark of the energy register
it meets. -/
def counted (mark : Mark Timestamp ℚ) :
    List OCPPNormalizedMeterValue → List (Mark Timestamp ℚ × OCPPNormalizedMeterValue)
  | [] => []
  | meterValue :: rest =>
      if isValidMeterValue meterValue ∧ mark.Admits (sample meterValue) then
        (mark, meterValue) :: counted (mark.next (sample meterValue)) rest
      else counted mark rest

variable {mark : Mark Timestamp ℚ} {meterValue : OCPPNormalizedMeterValue}
variable {rest meterValues : List OCPPNormalizedMeterValue}

theorem counted_cons_of_counts (valid : isValidMeterValue meterValue)
    (admits : mark.Admits (sample meterValue)) :
    counted mark (meterValue :: rest) =
      (mark, meterValue) :: counted (mark.next (sample meterValue)) rest :=
  if_pos ⟨valid, admits⟩

theorem counted_cons_of_not_counts
    (ignored : ¬ (isValidMeterValue meterValue ∧ mark.Admits (sample meterValue))) :
    counted mark (meterValue :: rest) = counted mark rest :=
  if_neg ignored

/-- What counts is not dated before the mark it meets. -/
theorem admits_of_mem_counted {counts : Mark Timestamp ℚ × OCPPNormalizedMeterValue}
    (mem : counts ∈ counted mark meterValues) : counts.1.Admits (sample counts.2) := by
  induction meterValues generalizing mark with
  | nil => exact absurd mem List.not_mem_nil
  | cons meterValue rest ih =>
      by_cases h : isValidMeterValue meterValue ∧ mark.Admits (sample meterValue)
      · rw [counted_cons_of_counts h.1 h.2] at mem
        rcases List.mem_cons.mp mem with rfl | later
        · exact h.2
        · exact ih later
      · rw [counted_cons_of_not_counts h] at mem
        exact ih mem

/-! ## The loop over the meter values -/

/-- The test of the loop, on the mark. -/
theorem isCounted_iff (transaction : Transaction) (meterValue : OCPPNormalizedMeterValue) :
    (isValidMeterValue meterValue && !isInThePast transaction meterValue) = true ↔
      isValidMeterValue meterValue ∧ transaction.register.Admits (sample meterValue) := by
  rw [Bool.and_eq_true, Bool.not_eq_true', isInThePast_eq_false_iff]

/-- **The loop gets to its end** exactly when the limitations of all readings of the energy
register that count are found. -/
theorem createConsumptionsStep_foldlM_isOk_iff (context : MeteringContext)
    (chargingStation : ChargingStation) (meterValues : List OCPPNormalizedMeterValue)
    (state : Transaction × List Consumption) :
    (∃ result, meterValues.foldlM (createConsumptionsStep context chargingStation) state =
        .ok result) ↔
      ∀ counts ∈ counted state.1.register meterValues,
        isEnergyReading counts.2 → AnswersLimitations context counts.2 := by
  induction meterValues generalizing state with
  | nil => exact iff_of_true ⟨_, rfl⟩ fun _ mem => absurd mem List.not_mem_nil
  | cons meterValue rest ih =>
      obtain ⟨transaction, consumptions⟩ := state
      have step := isCounted_iff transaction meterValue
      by_cases h : isValidMeterValue meterValue ∧ transaction.register.Admits (sample meterValue)
      · have turn : createConsumptionsStep context chargingStation (transaction, consumptions)
            meterValue = (createConsumptionFromMeterValue context chargingStation transaction
              transaction.lastConsumption meterValue >>= fun created =>
                pure (created.1, addOrUpdateConsumption created.2 consumptions)) :=
          if_pos (step.mpr h)
        rw [counted_cons_of_counts h.1 h.2, List.forall_mem_cons, ← createConsumption_isOk_iff]
        simp only [Outcome.foldlM_cons_eq_ok, turn]
        constructor
        · rintro ⟨result, between, hturn, hrest⟩
          obtain ⟨created, hcreated, same⟩ := Outcome.bind_eq_ok.mp hturn
          rw [Outcome.pure_eq_ok_iff] at same
          subst same
          have reads := createConsumption_spec hcreated
          refine ⟨⟨created, hcreated⟩, ?_⟩
          rw [← reads.register]
          exact (ih _).mp ⟨result, hrest⟩
        · rintro ⟨⟨created, hcreated⟩, others⟩
          have reads := createConsumption_spec hcreated
          rw [← reads.register] at others
          obtain ⟨result, hrest⟩ := (ih (created.1,
            addOrUpdateConsumption created.2 consumptions)).mpr others
          exact ⟨result, _, Outcome.bind_eq_ok.mpr ⟨created, hcreated, rfl⟩, hrest⟩
      · have turn : createConsumptionsStep context chargingStation (transaction, consumptions)
            meterValue = .ok (transaction, consumptions) := if_neg fun counts => h (step.mp counts)
        rw [counted_cons_of_not_counts h, ← ih (transaction, consumptions)]
        simp only [List.foldlM_cons, turn, Outcome.ok_bind]

/-- The dates of consumptions: the end, and the start if there is one. -/
def dates (consumptions : List Consumption) : List (Timestamp × Option Timestamp) :=
  consumptions.map fun consumption => (consumption.endedAt, consumption.startedAt)

/-- The start a meter value gives the consumption of its timestamp. -/
def startFrom (origin : Timestamp) (counts : Mark Timestamp ℚ × OCPPNormalizedMeterValue) :
    Option Timestamp :=
  if isEnergyReading counts.2 then some (counts.1.time.getD origin) else none

/-- A meter value that counts dates the consumption of its timestamp. -/
theorem ReadsRegister.dates_addOrUpdate {transaction transaction' : Transaction}
    {consumption : Consumption}
    (h : ReadsRegister transaction meterValue transaction' consumption)
    (consumptions : List Consumption) :
    dates (addOrUpdateConsumption consumption consumptions) =
      KeyedList.keepLast (fun counts => counts.2.timestamp) (startFrom transaction.timestamp)
        (dates consumptions) (transaction.register, meterValue) := by
  have start : startFrom transaction.timestamp (transaction.register, meterValue) =
      consumption.startedAt := h.startedAt.symm
  have ended : (transaction.register, meterValue).2.timestamp = consumption.endedAt :=
    h.endedAt.symm
  unfold dates KeyedList.keepLast
  beta_reduce
  rw [ended]
  refine map_addOrUpdateConsumption ?_ ?_ consumptions
  · rw [start]
    exact (Option.or_none).symm
  · intro existing
    rw [start]
    rfl

/-- The dates at the end of the loop are those the meter values that count gave last. -/
theorem ReadsAll.dates_eq {transaction transaction' : Transaction}
    {consumptions consumptions' : List Consumption}
    (h : ReadsAll transaction consumptions meterValues transaction' consumptions') :
    dates consumptions' =
      (counted transaction.register meterValues).foldl
        (KeyedList.keepLast (fun counts => counts.2.timestamp) (startFrom transaction.timestamp))
        (dates consumptions) := by
  induction h with
  | nil => rfl
  | invalid hvalid _ ih =>
      rw [ih, counted_cons_of_not_counts fun counts => by simp [hvalid] at counts]
  | past hvalid hpast _ ih => rw [ih, counted_cons_of_not_counts fun counts => hpast counts.2]
  | read hvalid hadmits hread _ ih =>
      rw [ih, counted_cons_of_counts hvalid hadmits, List.foldl_cons, hread.register,
        hread.timestamp, hread.dates_addOrUpdate]

/-- The starts that meter values give, read off the readings among them. -/
theorem filterMap_startFrom (origin : Timestamp)
    (values : List (Mark Timestamp ℚ × OCPPNormalizedMeterValue)) :
    values.filterMap (startFrom origin) =
      (values.filter fun counts => isEnergyReading counts.2).map
        fun counts => counts.1.time.getD origin := by
  induction values with
  | nil => rfl
  | cons counts rest ih =>
      by_cases reading : isEnergyReading counts.2
      · have start : startFrom origin counts = some (counts.1.time.getD origin) := if_pos reading
        have kept := List.filter_cons_of_pos (l := rest)
          (p := fun counts => isEnergyReading counts.2) reading
        rw [List.filterMap_cons_some start, kept, List.map_cons, ih]
      · have start : startFrom origin counts = none := if_neg reading
        have left := List.filter_cons_of_neg (l := rest)
          (p := fun counts => isEnergyReading counts.2) reading
        rw [List.filterMap_cons_none start, left, ih]

/-! ## The consumptions of a request -/

/-- The consumption has a start, no later than its end. -/
def IsDated (consumption : Consumption) : Prop :=
  ∃ startedAt ∈ consumption.startedAt, startedAt ≤ consumption.endedAt

/-- The consumptions of the meter values are returned, dated and in the order of their
starts. -/
def ReturnsDated (context : MeteringContext) (chargingStation : ChargingStation)
    (transaction : Transaction) (meterValues : List OCPPNormalizedMeterValue) : Prop :=
  ∃ transaction' consumptions,
    createConsumptionsFromMeterValues context chargingStation transaction meterValues =
        .ok (transaction', consumptions) ∧
      (∀ consumption ∈ consumptions, IsDated consumption) ∧
      consumptions.Pairwise fun earlier later =>
        ∀ startedAt ∈ earlier.startedAt, ∀ startedAt' ∈ later.startedAt, startedAt ≤ startedAt'

/-- The last reading of the energy register that counts at a timestamp. -/
def lastReading? (transaction : Transaction) (meterValues : List OCPPNormalizedMeterValue)
    (timestamp : Timestamp) : Option (Mark Timestamp ℚ × OCPPNormalizedMeterValue) :=
  ((counted transaction.register meterValues).filter fun counts =>
    isEnergyReading counts.2 && counts.2.timestamp = timestamp).getLast?

/-- What the meter values of a request must be for their consumptions to be dated. -/
structure Datable (context : MeteringContext) (transaction : Transaction)
    (meterValues : List OCPPNormalizedMeterValue) : Prop where
  /-- The limitations of every reading that counts are found. -/
  answered : ∀ counts ∈ counted transaction.register meterValues,
    isEnergyReading counts.2 → AnswersLimitations context counts.2
  /-- Beside every meter value that counts stands a reading of its timestamp; the last one,
  when it starts with the transaction, is not dated before it. -/
  dated : ∀ counts ∈ counted transaction.register meterValues,
    ∃ reading ∈ lastReading? transaction meterValues counts.2.timestamp,
      reading.1.time = none → transaction.timestamp ≤ reading.2.timestamp

/-- **The consumptions of the loop** are dated when beside every meter value that counts
stands a reading that is not dated before its start. -/
theorem forall_isDated_iff {transaction transaction' : Transaction}
    {consumptions : List Consumption}
    (h : ReadsAll transaction [] meterValues transaction' consumptions) :
    (∀ consumption ∈ consumptions, IsDated consumption) ↔
      ∀ counts ∈ counted transaction.register meterValues,
        ∃ reading ∈ lastReading? transaction meterValues counts.2.timestamp,
          reading.1.time = none → transaction.timestamp ≤ reading.2.timestamp := by
  have onDates : (∀ consumption ∈ consumptions, IsDated consumption) ↔
      ∀ entry ∈ dates consumptions, ∃ startedAt ∈ entry.2, startedAt ≤ entry.1 := by
    unfold dates
    rw [List.forall_mem_map]
    rfl
  rw [onDates, h.dates_eq]
  refine (KeyedList.forall_mem_foldl_keepLast
    (P := fun ended started => ∃ startedAt ∈ started, startedAt ≤ ended) _).trans ?_
  refine forall₂_congr fun counts _ => ?_
  have starts : (((counted transaction.register meterValues).filter fun other =>
      other.2.timestamp = counts.2.timestamp).filterMap
        (startFrom transaction.timestamp)).getLast? =
      (lastReading? transaction meterValues counts.2.timestamp).map
        fun reading => reading.1.time.getD transaction.timestamp := by
    rw [filterMap_startFrom, List.filter_filter, List.getLast?_map]
    rfl
  rw [starts]
  simp only [Option.mem_map, exists_exists_and_eq_and]
  refine exists_congr fun reading => and_congr_right fun last => ?_
  -- The last reading is one of this timestamp, and not dated before the mark it meets.
  obtain ⟨mem, hreading⟩ := List.mem_filter.mp (List.mem_of_getLast? last)
  have time : reading.2.timestamp = counts.2.timestamp := by
    rw [Bool.and_eq_true, decide_eq_true_eq] at hreading
    exact hreading.2
  have admits := admits_of_mem_counted mem
  rw [Mark.Admits, sample_time] at admits
  rw [← time]
  cases marked : reading.1.time with
  | none => simp
  | some date => simpa using admits date marked

/-- Completing the consumptions and sorting them does not touch their dates. -/
theorem forall_isDated_sorted_iff {chargingStation : ChargingStation} {connectorID : ℕ}
    {unsorted consumptions : List Consumption}
    (sorted : sortConsumptions (unsorted.map
      (assertConsistencyInConsumption chargingStation connectorID)) = .ok consumptions) :
    (∀ consumption ∈ consumptions, IsDated consumption) ↔
      ∀ consumption ∈ unsorted, IsDated consumption := by
  simp only [(perm_of_sortConsumptions sorted).mem_iff, List.forall_mem_map]
  rfl

/-- Consumptions with a start can be sorted. -/
theorem sortConsumptions_of_isDated {consumptions : List Consumption}
    (dated : ∀ consumption ∈ consumptions, IsDated consumption) :
    ∃ sorted, sortConsumptions consumptions = .ok sorted ∧
      sorted.Pairwise fun earlier later =>
        ∀ startedAt ∈ earlier.startedAt, ∀ startedAt' ∈ later.startedAt,
          startedAt ≤ startedAt' := by
  unfold sortConsumptions
  split
  · rename_i atMostOne
    refine ⟨_, rfl, ?_⟩
    rcases consumptions with _ | ⟨only, _ | ⟨second, others⟩⟩
    · exact List.Pairwise.nil
    · exact List.pairwise_singleton _ _
    · exact absurd atMostOne (by simp)
  · have started : consumptions.all (fun consumption => consumption.startedAt.isSome) := by
      refine List.all_eq_true.mpr fun consumption mem => ?_
      obtain ⟨startedAt, start, -⟩ := dated consumption mem
      exact Option.isSome_of_mem start
    rw [if_pos started]
    refine ⟨_, rfl, (List.pairwise_insertionSort _ consumptions).imp ?_⟩
    intro earlier later le startedAt start startedAt' start'
    rw [Option.mem_def] at start start'
    simpa [start, start'] using le

/-- **When the consumptions are dated.**  They are returned, each with a start no later than
its end and sorted by it, exactly when the limitations of all readings that count are found
and every timestamp that counts has a reading that is not dated before its start. -/
theorem returnsDated_iff (context : MeteringContext) (chargingStation : ChargingStation)
    (transaction : Transaction) (meterValues : List OCPPNormalizedMeterValue) :
    ReturnsDated context chargingStation transaction meterValues ↔
      Datable context transaction meterValues := by
  have loop := createConsumptionsStep_foldlM_isOk_iff context chargingStation meterValues
    (transaction, [])
  constructor
  · rintro ⟨transaction', consumptions, returned, dated, -⟩
    obtain ⟨unsorted, reads, sorted⟩ := createConsumptions_ok returned
    obtain ⟨result, looped, -⟩ := Outcome.bind_eq_ok.mp returned
    have dated := (forall_isDated_sorted_iff sorted).mp dated
    exact ⟨loop.mp ⟨result, looped⟩, (forall_isDated_iff reads).mp dated⟩
  · rintro ⟨answered, readings⟩
    obtain ⟨⟨transaction', unsorted⟩, looped⟩ := loop.mpr answered
    have dated := (forall_isDated_iff (readsAll_of_foldlM looped)).mpr readings
    have completed : ∀ consumption ∈ unsorted.map (assertConsistencyInConsumption chargingStation
        transaction'.connectorId), IsDated consumption := List.forall_mem_map.mpr dated
    obtain ⟨consumptions, sorted, ordered⟩ := sortConsumptions_of_isDated completed
    have returned : createConsumptionsFromMeterValues context chargingStation transaction
        meterValues = .ok (transaction', consumptions) :=
      Outcome.bind_eq_ok.mpr ⟨_, looped, Outcome.bind_eq_ok.mpr ⟨consumptions, sorted, rfl⟩⟩
    exact ⟨transaction', consumptions, returned, (forall_isDated_sorted_iff sorted).mpr dated,
      ordered⟩

/-- A state of charge in percent. -/
def socValue (timestamp : Timestamp) (percent : ℚ) : OCPPNormalizedMeterValue :=
  { timestamp := timestamp
    value := .raw percent
    attributes := some
      { context := some .samplePeriodic
        format := some .raw
        measurand := some .stateOfCharge } }

/-- A reading of the energy register, and a minute later the state of charge alone. -/
theorem not_returnsDated_of_soc_alone :
    ¬ ∀ context chargingStation transaction meterValues,
      ReturnsDated context chargingStation transaction meterValues := by
  intro all
  obtain ⟨transaction', consumptions, returned, -⟩ := all {} { id := "CS-1" } freshSession
    [energyValue .samplePeriodic 60000 1500, socValue 120000 40]
  have throws : (createConsumptionsFromMeterValues {} { id := "CS-1" } freshSession
      [energyValue .samplePeriodic 60000 1500, socValue 120000 40]).isOk = false := by
    decide +kernel
  rw [returned] at throws
  cases throws

end OCPPUtils

end EvServer
