import EvServer.Lib.Periods
import EvServer.Ocpp.SessionTotal

/-!
# The periods of the consumptions of a request

A consumption with a reading of the energy register takes the time from the date of the
register to that of the reading.  A reading that is not below the register moves its date, so
that the next consumption starts where this one ends.  A lower one does not, and the
consumptions then overlap: `follow_createConsumptions` is about values in order of time whose
readings never fall (`Register.Steady`).
-/

namespace EvServer

open Register (Mark Sample)

/-- The period of a consumption that has a start. -/
def Consumption.period (consumption : Consumption) : Option (Timestamp × Timestamp) :=
  consumption.startedAt.map fun startedAt => (startedAt, consumption.endedAt)

namespace OCPPUtils

/-- The periods of the consumptions that have a start. -/
def periods (consumptions : List Consumption) : List (Timestamp × Timestamp) :=
  consumptions.filterMap Consumption.period

theorem periods_append (consumptions consumptions' : List Consumption) :
    periods (consumptions ++ consumptions') = periods consumptions ++ periods consumptions' :=
  List.filterMap_append

theorem periods_singleton (consumption : Consumption) :
    periods [consumption] = consumption.period.toList := by
  unfold periods
  cases h : consumption.period <;> simp [h]

/-- A consumption that ends with the others or after them is added, or goes to the last one. -/
theorem addOrUpdateConsumption_eq {consumption : Consumption} {consumptions : List Consumption}
    (sorted : consumptions.Pairwise fun c c' => c.endedAt < c'.endedAt)
    (last : ∀ c ∈ consumptions, c.endedAt ≤ consumption.endedAt) :
    (addOrUpdateConsumption consumption consumptions = consumptions ++ [consumption] ∧
        ∀ c ∈ consumptions, c.endedAt < consumption.endedAt) ∨
      ∃ init existing, consumptions = init ++ [existing] ∧
        existing.endedAt = consumption.endedAt ∧
        addOrUpdateConsumption consumption consumptions =
          init ++ [mergeConsumption existing consumption] := by
  induction consumptions with
  | nil => exact .inl ⟨rfl, by simp⟩
  | cons existing rest ih =>
      rw [List.pairwise_cons] at sorted
      rw [List.forall_mem_cons] at last
      rw [addOrUpdateConsumption]
      split
      · rename_i same
        -- Nothing comes after a consumption that ends at this time.
        have none_there : rest = [] := by
          refine List.eq_nil_iff_forall_not_mem.mpr fun later mem => ?_
          exact absurd (last.2 later mem) (not_le.mpr (same ▸ sorted.1 later mem))
        rw [none_there]
        exact .inr ⟨[], existing, rfl, same, rfl⟩
      · rename_i other
        rcases ih sorted.2 last.2 with ⟨added, before⟩ | ⟨init, found, hrest, same, merged⟩
        · refine .inl ⟨congrArg _ added, List.forall_mem_cons.mpr ⟨?_, before⟩⟩
          exact lt_of_le_of_ne last.1 other
        · exact .inr ⟨existing :: init, found, congrArg _ hrest, same, congrArg _ merged⟩

theorem sorted_addOrUpdate {consumption : Consumption} {consumptions : List Consumption}
    (sorted : consumptions.Pairwise fun c c' => c.endedAt < c'.endedAt)
    (last : ∀ c ∈ consumptions, c.endedAt ≤ consumption.endedAt) :
    (addOrUpdateConsumption consumption consumptions).Pairwise
      fun c c' => c.endedAt < c'.endedAt := by
  rcases addOrUpdateConsumption_eq sorted last with ⟨added, apart⟩ |
      ⟨init, existing, rfl, same, merged⟩
  · rw [added, List.pairwise_append]
    exact ⟨sorted, List.pairwise_singleton _ _,
      fun c mem c' mem' => List.mem_singleton.mp mem' ▸ apart c mem⟩
  · rw [merged, List.pairwise_append]
    rw [List.pairwise_append] at sorted
    refine ⟨sorted.1, List.pairwise_singleton _ _, fun c mem c' mem' => ?_⟩
    obtain rfl := List.mem_singleton.mp mem'
    exact (sorted.2.2 c mem existing List.mem_cons_self).trans_eq same

/-! ## The loop over the meter values -/

/-- The invariant of the loop: the consumptions follow one another up to the date of the
register, and end one after the other, none of them after a value that is still to come. -/
structure FollowUp (start date : Timestamp) (consumptions : List Consumption)
    (coming : List (Sample Timestamp ℚ)) : Prop where
  follows : Periods.Follow start (periods consumptions) date
  sorted : consumptions.Pairwise fun c c' => c.endedAt < c'.endedAt
  last : ∀ c ∈ consumptions, ∀ sample ∈ coming, c.endedAt ≤ sample.time

variable {transaction transaction' : Transaction} {consumptions consumptions' : List Consumption}
variable {meterValue : OCPPNormalizedMeterValue} {meterValues : List OCPPNormalizedMeterValue}
variable {consumption : Consumption} {start date : Timestamp}
variable {coming : List (Sample Timestamp ℚ)}

/-- The period of a new consumption, alone and merged: it starts at the date of the register
if it has a reading, and is the old one if it has none. -/
theorem ReadsRegister.period_eq
    (h : ReadsRegister transaction meterValue transaction' consumption)
    (hdate : transaction.register.time = some date) :
    (isEnergyReading meterValue → consumption.period = some (date, meterValue.timestamp) ∧
        ∀ existing, (mergeConsumption existing consumption).period =
          some (date, meterValue.timestamp)) ∧
      (¬ isEnergyReading meterValue → consumption.period = none ∧
        ∀ existing, existing.endedAt = meterValue.timestamp →
          (mergeConsumption existing consumption).period = existing.period) := by
  have started := h.startedAt
  rw [hdate, Option.getD_some] at started
  constructor
  · intro isReading
    rw [if_pos isReading] at started
    refine ⟨?_, fun existing => ?_⟩
    · rw [Consumption.period, started, h.endedAt]
      rfl
    · simp only [Consumption.period, mergeConsumption, started, h.endedAt]
      rfl
  · intro isReading
    rw [if_neg isReading] at started
    refine ⟨?_, fun existing same => ?_⟩
    · rw [Consumption.period, started]
      rfl
    · simp only [Consumption.period, mergeConsumption, started, h.endedAt, same]
      rfl

/-- **One value** that is taken keeps the invariant. -/
theorem FollowUp.read (followUp : FollowUp start date consumptions (sample meterValue :: coming))
    (h : ReadsRegister transaction meterValue transaction' consumption)
    (hdate : transaction.register.time = some date)
    (admits : transaction.register.Admits (sample meterValue))
    (moves : (sample meterValue).isReading →
      (transaction.register.next (sample meterValue)).time = some (sample meterValue).time)
    (inOrder : ∀ later ∈ coming, (sample meterValue).time ≤ later.time) :
    ∃ date', transaction'.register.time = some date' ∧
      FollowUp start date' (addOrUpdateConsumption consumption consumptions) coming := by
  obtain ⟨follows, sorted, last⟩ := followUp
  rw [sample_time] at moves inOrder
  have ended := h.endedAt
  have before : ∀ c ∈ consumptions, c.endedAt ≤ consumption.endedAt := by
    intro c mem
    rw [ended, ← sample_time]
    exact last c mem _ List.mem_cons_self
  have last' : ∀ c ∈ addOrUpdateConsumption consumption consumptions, ∀ later ∈ coming,
      c.endedAt ≤ later.time := by
    refine forall_mem_addOrUpdate ?_ ?_ fun _ _ => ?_
    · exact fun c mem later hlater => last c mem later (List.mem_cons_of_mem _ hlater)
    · exact fun later hlater => ended.trans_le (inOrder later hlater)
    · exact fun later hlater => ended.trans_le (inOrder later hlater)
  have sorted' := sorted_addOrUpdate sorted before
  have periods_eq := h.period_eq hdate
  have reached : date ≤ meterValue.timestamp := by
    rw [← sample_time]
    exact admits date hdate
  by_cases isReading : isEnergyReading meterValue
  · obtain ⟨alone, merges⟩ := periods_eq.1 isReading
    refine ⟨meterValue.timestamp, ?_, ?_, sorted', last'⟩
    · rw [h.register]
      exact moves (by rwa [sample_isReading])
    · rcases addOrUpdateConsumption_eq sorted before with ⟨added, -⟩ |
          ⟨init, existing, rfl, -, merged⟩
      · rw [added, periods_append, periods_singleton, alone]
        exact follows.snoc le_rfl reached
      · rw [merged, periods_append, periods_singleton, merges existing]
        rw [periods_append] at follows
        obtain ⟨between, first, second⟩ := follows.of_append
        exact (first.mono le_rfl second.le).snoc le_rfl reached
  · obtain ⟨alone, merges⟩ := periods_eq.2 isReading
    refine ⟨date, ?_, ?_, sorted', last'⟩
    · rw [h.register, sample, if_neg isReading]
      exact hdate
    · rcases addOrUpdateConsumption_eq sorted before with ⟨added, -⟩ |
          ⟨init, existing, rfl, same, merged⟩
      · rw [added, periods_append, periods_singleton, alone, Option.toList_none, List.append_nil]
        exact follows
      · rw [merged, periods_append, periods_singleton,
          merges existing (same.trans ended), ← periods_singleton, ← periods_append]
        exact follows

/-- **All values of a request.** -/
theorem ReadsAll.followUp
    (h : ReadsAll transaction consumptions meterValues transaction' consumptions')
    (hdate : transaction.register.time = some date)
    (followUp : FollowUp start date consumptions (takenSamples transaction meterValues))
    (steady : Register.Steady transaction.register (samples meterValues)) :
    ∃ date', transaction'.register.time = some date' ∧
      Periods.Follow start (periods consumptions') date' := by
  induction h generalizing date with
  | nil => exact ⟨date, hdate, followUp.follows⟩
  | invalid hvalid _ ih =>
      rw [samples, List.filter_cons_of_neg (by simp [hvalid])] at steady
      rw [takenSamples, samples, List.filter_cons_of_neg (by simp [hvalid])] at followUp
      exact ih hdate followUp steady
  | past hvalid hpast _ ih =>
      rw [samples, List.filter_cons_of_pos hvalid, List.map_cons] at steady
      rw [takenSamples, samples, List.filter_cons_of_pos hvalid, List.map_cons,
        Register.taken_cons_of_not_admits hpast] at followUp
      exact ih hdate followUp (steady.of_not_admits hpast)
  | read hvalid hadmits hread _ ih =>
      rw [samples, List.filter_cons_of_pos hvalid, List.map_cons] at steady
      rw [takenSamples, samples, List.filter_cons_of_pos hvalid, List.map_cons,
        Register.taken_cons_of_admits hadmits] at followUp
      obtain ⟨moves, inOrder, steady'⟩ := steady.of_admits hadmits
      obtain ⟨date', hdate', followUp'⟩ := followUp.read hread hdate hadmits moves inOrder
      rw [← hread.register] at steady' followUp'
      exact ih hdate' followUp' steady'

/-! ## The consumptions of a request -/

/-- Consumptions that follow one another are sorted. -/
theorem sortConsumptions_of_follow {sorted : List Consumption}
    (follows : Periods.Follow start (periods consumptions) date)
    (h : sortConsumptions consumptions = .ok sorted) : sorted = consumptions := by
  unfold sortConsumptions at h
  split at h
  · cases h
    rfl
  · split at h
    · rename_i started
      cases h
      refine List.Pairwise.insertionSort_eq ?_
      have starts := List.pairwise_filterMap.mp follows.pairwise_start
      refine starts.imp_of_mem fun {c c'} mem mem' starts => ?_
      obtain ⟨startedAt, hstarted⟩ := Option.isSome_iff_exists.mp (List.all_eq_true.mp started c mem)
      obtain ⟨startedAt', hstarted'⟩ :=
        Option.isSome_iff_exists.mp (List.all_eq_true.mp started c' mem')
      have le := starts (startedAt, c.endedAt) (by rw [Consumption.period, hstarted]; rfl)
        (startedAt', c'.endedAt) (by rw [Consumption.period, hstarted']; rfl)
      rw [hstarted, hstarted']
      exact le
    · cases h

/-- A consumption that is to be priced has a start. -/
def IsPricedWithStart (consumption : Consumption) : Prop :=
  consumption.toPrice = some true → consumption.startedAt.isSome

theorem isPricedWithStart_create {context : MeteringContext} {chargingStation : ChargingStation}
    {lastConsumption : Option LastConsumption} {created : Transaction × Consumption}
    (h : createConsumptionFromMeterValue context chargingStation transaction lastConsumption
      meterValue = .ok created) :
    IsPricedWithStart created.2 ∧
      ∀ existing, IsPricedWithStart existing →
        IsPricedWithStart (mergeConsumption existing created.2) := by
  have unpriced {consumption : Consumption} (notPriced : consumption.toPrice = none)
      (notStarted : consumption.startedAt = none) : IsPricedWithStart consumption ∧
        ∀ existing, IsPricedWithStart existing →
          IsPricedWithStart (mergeConsumption existing consumption) := by
    refine ⟨?_, fun existing old => ?_⟩
    · rw [IsPricedWithStart, notPriced]
      exact nofun
    · simp only [IsPricedWithStart, mergeConsumption, notPriced, notStarted, Option.none_or]
      exact old
  rcases createConsumption_cases h with ⟨-, -, -, -, -, rfl⟩ | ⟨-, limited, _, hconnector, rfl⟩
  · exact unpriced rfl rfl
  · obtain ⟨_, rfl⟩ := addConnectorLimitation_ok hconnector
    simp only [applyEnergyReading]
    split
    · exact ⟨fun _ => rfl, fun _ _ _ => rfl⟩
    · exact ⟨fun _ => rfl, fun _ _ _ => rfl⟩

theorem isPricedWithStart_loop {context : MeteringContext} {chargingStation : ChargingStation}
    {looped : Transaction × List Consumption}
    (h : meterValues.foldlM (createConsumptionsStep context chargingStation) (transaction, []) =
      .ok looped) : ∀ c ∈ looped.2, IsPricedWithStart c := by
  refine foldlM_createConsumptions_invariant
    (I := fun _ consumptions => ∀ c ∈ consumptions, IsPricedWithStart c) ?_
    (List.forall_mem_nil _) h
  intro before consumptions meterValue created old hcreated
  obtain ⟨alone, merged⟩ := isPricedWithStart_create hcreated
  exact forall_mem_addOrUpdate old alone merged

/-- **The consumptions of a request** whose values come in order and do not fall follow one
another, from the date of the register before it to the date after it. -/
theorem follow_createConsumptions {context : MeteringContext} {chargingStation : ChargingStation}
    (h : createConsumptionsFromMeterValues context chargingStation transaction meterValues =
      .ok (transaction', consumptions))
    (hdate : transaction.register.time = some date)
    (steady : Register.Steady transaction.register (samples meterValues)) :
    (∃ date', transaction'.register.time = some date' ∧
        Periods.Follow date (periods consumptions) date') ∧
      ∀ c ∈ consumptions, IsPricedWithStart c := by
  obtain ⟨⟨looped, unsorted⟩, hloop, hsort⟩ := Outcome.bind_eq_ok.mp h
  obtain ⟨sorted, hsort, h⟩ := Outcome.bind_eq_ok.mp hsort
  cases h
  obtain ⟨date', hdate', follows⟩ := (readsAll_of_foldlM hloop).followUp hdate
    ⟨.nil le_rfl, .nil, by simp⟩ steady
  have completed : periods (unsorted.map (assertConsistencyInConsumption chargingStation
      transaction'.connectorId)) = periods unsorted := by
    unfold periods
    rw [List.filterMap_map]
    rfl
  rw [← completed] at follows
  rw [sortConsumptions_of_follow follows hsort]
  refine ⟨⟨date', hdate', follows⟩, ?_⟩
  intro c mem
  obtain ⟨before, hbefore, rfl⟩ := List.mem_map.mp mem
  exact isPricedWithStart_loop hloop before hbefore

end OCPPUtils

end EvServer
