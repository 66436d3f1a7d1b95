import EvServer.Lib.RegisterSheet
import EvServer.Lib.Runs
import EvServer.Ocpp.Frames

/-!
# The running total of a session

A session is a transaction that receives `MeterValues` requests.  Its total is meant
to be the highest reading of the energy register above `meterStart`
(`TotalsRegister`).  While a request is turned into consumptions it is; but then the
total is copied from the consumption that the sort puts last, and this consumption
may have no total (no reading came at its only timestamp) or an old one (a reading
raised the register at a timestamp met before another one).

`KeepsTotal` is the condition on a request under which neither happens, and
`run_totalsRegister` the invariant of every run of such requests.
-/

namespace EvServer

open Register (Mark Sample)

namespace OCPPUtils

/-- The sheet the consumptions of a request keep; amounts count from `meterStart`. -/
def filed (meterStart : ℚ) (consumptions : List Consumption) : Register.Sheet Timestamp ℚ :=
  consumptions.map fun consumption =>
    (consumption.endedAt, consumption.cumulatedConsumptionWh.map fun cumulated =>
      (consumption.startedAt.getD 0, cumulated + meterStart))

/-- The transaction counts what the register shows above `meterStart`. -/
def CountsRegister (transaction : Transaction) : Prop :=
  transaction.currentTotalConsumptionWh = transaction.register.value - transaction.meterStart

/-- A consumption that has a start has a total. -/
def HasTotal (consumption : Consumption) : Prop :=
  consumption.startedAt.isSome → consumption.cumulatedConsumptionWh.isSome

/-! ## The sheet of the loop -/

theorem ReadsRegister.countsRegister {transaction transaction' : Transaction}
    {meterValue : OCPPNormalizedMeterValue} {consumption : Consumption}
    (h : ReadsRegister transaction meterValue transaction' consumption)
    (counts : CountsRegister transaction) : CountsRegister transaction' := by
  unfold CountsRegister at *
  rw [h.total, counts, h.register, h.meterStart, ← Mark.value_add_rise]
  ring

/-- A meter value is filed as its sample is. -/
theorem ReadsRegister.filed_addOrUpdate {transaction transaction' : Transaction}
    {meterValue : OCPPNormalizedMeterValue} {consumption : Consumption}
    (h : ReadsRegister transaction meterValue transaction' consumption)
    (counts : CountsRegister transaction) (consumptions : List Consumption) :
    filed transaction.meterStart (addOrUpdateConsumption consumption consumptions) =
      Register.file transaction.timestamp transaction.register (sample meterValue)
        (filed transaction.meterStart consumptions) := by
  have shown : transaction'.currentTotalConsumptionWh + transaction.meterStart =
      (transaction.register.next (sample meterValue)).value := by
    rw [h.countsRegister counts, h.register, h.meterStart]
    ring
  unfold filed Register.file
  rw [sample_time, ← h.endedAt, sample_isReading]
  refine map_addOrUpdateConsumption ?_ ?_ consumptions
  · rw [h.cumulatedConsumptionWh, h.startedAt]
    by_cases hreading : isEnergyReading meterValue <;> simp [hreading, shown]
  · intro existing
    simp only [mergeConsumption, h.cumulatedConsumptionWh, h.startedAt]
    by_cases hreading : isEnergyReading meterValue <;> simp [hreading, shown]

theorem ReadsRegister.hasTotal {transaction transaction' : Transaction}
    {meterValue : OCPPNormalizedMeterValue} {consumption : Consumption}
    (h : ReadsRegister transaction meterValue transaction' consumption) :
    HasTotal consumption := by
  unfold HasTotal
  rw [h.cumulatedConsumptionWh, h.startedAt]
  by_cases hreading : isEnergyReading meterValue <;> simp [hreading]

theorem ReadsRegister.hasTotal_merge {transaction transaction' : Transaction}
    {meterValue : OCPPNormalizedMeterValue} {consumption existing : Consumption}
    (h : ReadsRegister transaction meterValue transaction' consumption)
    (hexisting : HasTotal existing) : HasTotal (mergeConsumption existing consumption) := by
  unfold HasTotal at *
  simp only [mergeConsumption, h.cumulatedConsumptionWh, h.startedAt]
  by_cases hreading : isEnergyReading meterValue
  · simp [hreading]
  · simpa [hreading] using hexisting

/-- What holds of a new consumption, alone and merged, holds of all. -/
theorem forall_mem_addOrUpdate {P : Consumption → Prop} {consumption : Consumption}
    {consumptions : List Consumption} (old : ∀ c ∈ consumptions, P c) (new : P consumption)
    (merged : ∀ existing, P existing → P (mergeConsumption existing consumption)) :
    ∀ c ∈ addOrUpdateConsumption consumption consumptions, P c := by
  induction consumptions with
  | nil => simpa [addOrUpdateConsumption] using new
  | cons existing rest ih =>
      rw [List.forall_mem_cons] at old
      unfold addOrUpdateConsumption
      split
      · exact List.forall_mem_cons.mpr ⟨merged existing old.1, old.2⟩
      · exact List.forall_mem_cons.mpr ⟨old.1, ih old.2⟩

namespace ReadsAll

variable {transaction transaction' : Transaction} {consumptions consumptions' : List Consumption}
variable {meterValues : List OCPPNormalizedMeterValue}

theorem meterStart_eq
    (h : ReadsAll transaction consumptions meterValues transaction' consumptions') :
    transaction'.meterStart = transaction.meterStart := by
  induction h with
  | nil => rfl
  | invalid _ _ ih => exact ih
  | past _ _ _ ih => exact ih
  | read _ _ hread _ ih => exact ih.trans hread.meterStart

/-- The transaction counts the register after every meter value. -/
theorem countsRegister
    (h : ReadsAll transaction consumptions meterValues transaction' consumptions')
    (counts : CountsRegister transaction) : CountsRegister transaction' := by
  induction h with
  | nil => exact counts
  | invalid _ _ ih => exact ih counts
  | past _ _ _ ih => exact ih counts
  | read _ _ hread _ ih => exact ih (hread.countsRegister counts)

/-- The consumptions end with the sheet that the samples lead to. -/
theorem filed_eq (h : ReadsAll transaction consumptions meterValues transaction' consumptions')
    (counts : CountsRegister transaction) :
    filed transaction.meterStart consumptions' =
      Register.fileAll transaction.timestamp transaction.register (samples meterValues)
        (filed transaction.meterStart consumptions) := by
  induction h with
  | nil => rfl
  | invalid hvalid _ ih =>
      rw [ih counts, samples, samples, List.filter_cons_of_neg (by simp [hvalid])]
  | past hvalid hpast _ ih =>
      rw [ih counts, samples, samples, List.filter_cons_of_pos hvalid, List.map_cons,
        Register.fileAll, if_neg hpast]
  | read hvalid hadmits hread _ ih =>
      rw [samples, List.filter_cons_of_pos hvalid, List.map_cons, Register.fileAll,
        if_pos hadmits, ← hread.filed_addOrUpdate counts, ← hread.register, ← hread.timestamp,
        ← hread.meterStart]
      exact ih (hread.countsRegister counts)

/-- A consumption of the loop that has a start has a total. -/
theorem hasTotal (h : ReadsAll transaction consumptions meterValues transaction' consumptions')
    (old : ∀ c ∈ consumptions, HasTotal c) : ∀ c ∈ consumptions', HasTotal c := by
  induction h with
  | nil => exact old
  | invalid _ _ ih => exact ih old
  | past _ _ _ ih => exact ih old
  | read _ _ hread _ ih =>
      exact ih (forall_mem_addOrUpdate old hread.hasTotal fun _ => hread.hasTotal_merge)

end ReadsAll

/-! ## The consumption the sort puts last -/

/-- The samples a request takes into account. -/
def takenSamples (transaction : Transaction) (meterValues : List OCPPNormalizedMeterValue) :
    List (Sample Timestamp ℚ) :=
  Register.taken transaction.register (samples meterValues)

/-- **The condition on a request** under which the total is kept: unless nothing has
been counted yet, values of a single timestamp come with a reading of the energy
register; and a reading that raises the register is of the timestamp met last in the
request, or of a new one. -/
structure KeepsTotal (transaction : Transaction) (meterValues : List OCPPNormalizedMeterValue) :
    Prop where
  reads : takenSamples transaction meterValues = [] ∨
    transaction.currentTotalConsumptionWh = 0 ∨
    (∃ sample ∈ takenSamples transaction meterValues, sample.isReading) ∨
    ∃ sample ∈ takenSamples transaction meterValues,
      ∃ sample' ∈ takenSamples transaction meterValues, sample.time ≠ sample'.time
  raises : Register.RaisesAtNewest transaction.register [] (samples meterValues)

section Last

variable {transaction transaction' : Transaction} {meterValues : List OCPPNormalizedMeterValue}
variable {date : Timestamp}

/-- At the end of the loop every consumption with a total is at the total of the
transaction, or followed by one that is and starts no earlier. -/
theorem covered_filed {unsorted : List Consumption}
    (h : ReadsAll transaction [] meterValues transaction' unsorted)
    (counts : CountsRegister transaction) (hdate : transaction.register.time = some date)
    (keeps : KeepsTotal transaction meterValues) :
    Register.Covered transaction'.register.value (filed transaction.meterStart unsorted) ∧
      ((filed transaction.meterStart unsorted).map Prod.fst).Nodup := by
  rw [h.filed_eq counts, h.register_eq]
  have starts : Register.StartsBy date ([] : Register.Sheet Timestamp ℚ) := by
    simp [Register.StartsBy]
  exact Register.covered_fileAll hdate starts List.nodup_nil trivial keeps.raises

/-- A line at the highest amount carries the total of the transaction. -/
theorem cumulated_eq_total {cumulated : ℚ} (counts : CountsRegister transaction')
    (hmeterStart : transaction'.meterStart = transaction.meterStart)
    (h : cumulated + transaction.meterStart = transaction'.register.value) :
    cumulated = transaction'.currentTotalConsumptionWh := by
  rw [counts, ← h, hmeterStart]
  ring

/-- A request with a single consumption: it has the total of the transaction, or
nothing has been counted. -/
theorem total_of_single {consumption : Consumption}
    (h : ReadsAll transaction [] meterValues transaction' [consumption])
    (counts : CountsRegister transaction) (hdate : transaction.register.time = some date)
    (keeps : KeepsTotal transaction meterValues) :
    consumption.cumulatedConsumptionWh.getD 0 = transaction'.currentTotalConsumptionWh := by
  have hfiled := h.filed_eq counts
  have covered := (covered_filed h counts hdate keeps).1
  cases hcumulated : consumption.cumulatedConsumptionWh with
  | some cumulated =>
      simp only [filed, List.map_cons, List.map_nil, hcumulated, Option.map_some,
        Register.Covered] at covered
      rcases covered.1 with shown | ⟨line, mem, -⟩
      · exact cumulated_eq_total (h.countsRegister counts) h.meterStart_eq shown
      · exact absurd mem List.not_mem_nil
  | none =>
      -- The only line is empty, so no reading was taken and the total is the old one.
      simp only [filed, List.map_cons, List.map_nil, hcumulated, Option.map_none] at hfiled
      have empty : ∀ sample ∈ takenSamples transaction meterValues,
          sample.time = consumption.endedAt ∧ ¬ sample.isReading := by
        intro sample mem
        obtain ⟨content, hcontent, filled⟩ := Register.lookup_of_taken
          transaction.timestamp [] mem
        rw [← hfiled] at hcontent
        by_cases same : sample.time = consumption.endedAt
        · rw [same, List.lookup_cons_self] at hcontent
          cases hcontent
          exact ⟨same, fun isReading => absurd (filled isReading) (by simp)⟩
        · rw [List.lookup_cons, beq_false_of_ne same] at hcontent
          cases hcontent
      have stays : transaction'.register = transaction.register := by
        rw [h.register_eq]
        exact Register.final_eq_of_no_reading fun sample mem => (empty sample mem).2
      rcases keeps.reads with nothing | zero | ⟨sample, mem, isReading⟩ |
          ⟨sample, mem, sample', mem', apart⟩
      · rw [Register.fileAll_of_taken_eq_nil nothing] at hfiled
        cases hfiled
      · rw [h.countsRegister counts, stays, h.meterStart_eq, ← counts, zero]
        rfl
      · exact absurd isReading (empty sample mem).2
      · exact absurd ((empty sample mem).1.trans (empty sample' mem').1.symm) apart

/-- A request with several consumptions: the one the sort puts last has the total of the
transaction. -/
theorem total_of_last_sorted {unsorted : List Consumption} {last : Consumption}
    (h : ReadsAll transaction [] meterValues transaction' unsorted)
    (counts : CountsRegister transaction) (hdate : transaction.register.time = some date)
    (keeps : KeepsTotal transaction meterValues)
    (started : ∀ c ∈ unsorted, c.startedAt.isSome)
    (hlast : (unsorted.insertionSort fun a b => a.startedAt.getD 0 ≤ b.startedAt.getD 0).getLast? =
      some last) :
    last.cumulatedConsumptionWh = some transaction'.currentTotalConsumptionWh := by
  obtain ⟨covered, nodup⟩ := covered_filed h counts hdate keeps
  have hasTotal := h.hasTotal (by simp)
  let line (c : Consumption) : Timestamp × Option (Timestamp × ℚ) :=
    (c.endedAt, c.cumulatedConsumptionWh.map fun cumulated =>
      (c.startedAt.getD 0, cumulated + transaction.meterStart))
  have startOf_line : ∀ c ∈ unsorted, Register.startOf 0 (line c) = c.startedAt.getD 0 := by
    intro c mem
    obtain ⟨cumulated, hcumulated⟩ := Option.isSome_iff_exists.mp (hasTotal c mem (started c mem))
    simp [Register.startOf, line, hcumulated]
  have hsorted := List.map_insertionSort (fun a b => a.startedAt.getD 0 ≤ b.startedAt.getD 0)
    (fun a b => Register.startOf 0 a ≤ Register.startOf 0 b) line unsorted
    (fun a ha b hb => by rw [startOf_line a ha, startOf_line b hb])
  have filled : ∀ other ∈ filed transaction.meterStart unsorted, other.2.isSome := by
    intro other mem
    obtain ⟨c, hc, rfl⟩ := List.mem_map.mp mem
    simpa using hasTotal c hc (started c hc)
  have hlastLine : ((filed transaction.meterStart unsorted).insertionSort fun a b =>
      Register.startOf 0 a ≤ Register.startOf 0 b).getLast? = some (line last) := by
    rw [filed, ← hsorted, List.getLast?_map, hlast]
    rfl
  obtain ⟨start, hline⟩ := Register.amount_of_last_sorted 0 nodup covered filled hlastLine
  obtain ⟨cumulated, hcumulated, hcontent⟩ := Option.map_eq_some_iff.mp hline
  rw [hcumulated, cumulated_eq_total (h.countsRegister counts) h.meterStart_eq
    (Prod.mk.inj hcontent).2]

/-- **The last consumption has the total.**  The consumptions a request returns end
with one that carries the total of the transaction, if there is any. -/
theorem total_of_getLast? {context : MeteringContext} {chargingStation : ChargingStation}
    {consumptions : List Consumption} {last : Consumption}
    (h : createConsumptionsFromMeterValues context chargingStation transaction meterValues =
      .ok (transaction', consumptions))
    (counts : CountsRegister transaction) (hdate : transaction.register.time = some date)
    (keeps : KeepsTotal transaction meterValues) (hlast : consumptions.getLast? = some last) :
    last.cumulatedConsumptionWh.getD 0 = transaction'.currentTotalConsumptionWh := by
  obtain ⟨unsorted, hreads, hsort⟩ := createConsumptions_ok h
  unfold sortConsumptions at hsort
  split at hsort
  · -- At most one consumption: nothing is sorted.
    rename_i short
    cases hsort
    match unsorted, short, hreads, hlast with
    | [], _, _, hlast => cases hlast
    | [consumption], _, hreads, hlast =>
        obtain rfl : assertConsistencyInConsumption chargingStation transaction'.connectorId
            consumption = last := by simpa using hlast
        change consumption.cumulatedConsumptionWh.getD 0 = _
        exact total_of_single hreads counts hdate keeps
    | _ :: _ :: _, short, _, _ => simp at short
  · split at hsort
    · rename_i started
      cases hsort
      have started' : ∀ c ∈ unsorted, c.startedAt.isSome := by
        simpa [assertConsistencyInConsumption] using started
      have hmap := List.map_insertionSort (fun a b => a.startedAt.getD 0 ≤ b.startedAt.getD 0)
        (fun a b => a.startedAt.getD 0 ≤ b.startedAt.getD 0)
        (assertConsistencyInConsumption chargingStation transaction'.connectorId) unsorted
        (fun _ _ _ _ => Iff.rfl)
      rw [← hmap, List.getLast?_map] at hlast
      obtain ⟨before, hbefore, rfl⟩ := Option.map_eq_some_iff.mp hlast
      have htotal := total_of_last_sorted hreads counts hdate keeps started' hbefore
      change before.cumulatedConsumptionWh.getD 0 = _
      rw [htotal]
      rfl
    · cases hsort

end Last

end OCPPUtils

/-! ## The request -/

namespace OCPPService

open OCPPUtils

/-- The parts of a transaction that make up its register are the same. -/
structure SameRegister (transaction transaction' : Transaction) : Prop where
  lastConsumption : transaction'.lastConsumption = transaction.lastConsumption
  meterStart : transaction'.meterStart = transaction.meterStart

namespace SameRegister

theorem refl (transaction : Transaction) : SameRegister transaction transaction := ⟨rfl, rfl⟩

theorem trans {a b c : Transaction} (first : SameRegister a b) (second : SameRegister b c) :
    SameRegister a c :=
  ⟨second.lastConsumption.trans first.lastConsumption,
    second.meterStart.trans first.meterStart⟩

theorem register_eq {a b : Transaction} (h : SameRegister a b) : b.register = a.register := by
  rw [Transaction.register, Transaction.register, h.lastConsumption, h.meterStart]

end SameRegister

/-- The total is the same as well. -/
structure SameTotal (transaction transaction' : Transaction) : Prop
    extends SameRegister transaction transaction' where
  total : transaction'.currentTotalConsumptionWh = transaction.currentTotalConsumptionWh

namespace SameTotal

theorem refl (transaction : Transaction) : SameTotal transaction transaction :=
  ⟨.refl transaction, rfl⟩

theorem trans {a b c : Transaction} (first : SameTotal a b) (second : SameTotal b c) :
    SameTotal a c :=
  ⟨first.toSameRegister.trans second.toSameRegister, second.total.trans first.total⟩

/-- Transactions that are the same without some other properties. -/
theorem of_eq {transaction transaction' : Transaction} (without : Transaction → Transaction)
    (keeps : ∀ transaction, SameTotal transaction (without transaction))
    (same : without transaction' = without transaction) : SameTotal transaction transaction' := by
  have before := keeps transaction
  have after := keeps transaction'
  rw [same] at after
  exact ⟨⟨after.lastConsumption.symm.trans before.lastConsumption,
    after.meterStart.symm.trans before.meterStart⟩, after.total.symm.trans before.total⟩

end SameTotal

/-- Updating a transaction with all meter values does not touch the register or the
total. -/
theorem updateTransactionWithMeterValues_ok {chargingStation : ChargingStation}
    {transaction transaction' : Transaction} {meterValues : List OCPPNormalizedMeterValue}
    (h : updateTransactionWithMeterValues chargingStation transaction meterValues =
      .ok transaction') : SameTotal transaction transaction' :=
  .of_eq Transaction.unmeasured (fun _ => ⟨⟨rfl, rfl⟩, rfl⟩)
    (unmeasured_updateTransactionWithMeterValues h)

/-- Pricing a consumption does not touch the register or the total. -/
theorem sameTotal_processTransactionPricing {pricingImpl : Option PricingIntegration}
    {transaction : Transaction} {consumption : Consumption} {action : TransactionAction}
    {priced : Transaction × Consumption}
    (h : OCPPUtils.processTransactionPricing pricingImpl transaction consumption action =
      .ok priced) : SameTotal transaction priced.1 :=
  .of_eq Transaction.unpriced (fun _ => ⟨⟨rfl, rfl⟩, rfl⟩)
    (unpriced_processTransactionPricing h)

/-- A consumption leaves the register and gives the transaction its total. -/
theorem applyConsumption_ok {context : MeterValuesContext} {chargingStation : ChargingStation}
    {consumption : Consumption} {state state' : Transaction × List Consumption}
    (h : applyConsumption context chargingStation state consumption = .ok state') :
    SameRegister state.1 state'.1 ∧
      state'.1.currentTotalConsumptionWh = consumption.cumulatedConsumptionWh.getD 0 := by
  unfold applyConsumption at h
  split at h
  · obtain ⟨⟨priced, _⟩, hpriced, h⟩ := Outcome.bind_eq_ok.mp h
    cases h
    have same := sameTotal_processTransactionPricing hpriced
    exact ⟨⟨same.lastConsumption, same.meterStart⟩, same.total⟩
  · cases h
    exact ⟨⟨rfl, rfl⟩, rfl⟩

/-- The loop over the consumptions leaves the register and takes the total of the last
consumption. -/
theorem applyConsumption_foldlM_ok {context : MeterValuesContext}
    {chargingStation : ChargingStation} {consumptions : List Consumption}
    {state state' : Transaction × List Consumption}
    (h : consumptions.foldlM (applyConsumption context chargingStation) state = .ok state') :
    SameRegister state.1 state'.1 ∧
      state'.1.currentTotalConsumptionWh =
        (consumptions.getLast?.map fun c => c.cumulatedConsumptionWh.getD 0).getD
          state.1.currentTotalConsumptionWh := by
  induction consumptions generalizing state with
  | nil =>
      cases h
      exact ⟨.refl _, rfl⟩
  | cons consumption rest ih =>
      obtain ⟨between, hfirst, hrest⟩ := Outcome.foldlM_cons_eq_ok.mp h
      obtain ⟨same, total⟩ := applyConsumption_ok hfirst
      obtain ⟨same', total'⟩ := ih hrest
      refine ⟨same.trans same', total'.trans ?_⟩
      cases rest with
      | nil => exact total
      | cons _ _ => rw [List.getLast?_cons_cons, List.getLast?_eq_some_getLast (by simp)]; rfl

theorem SameTotal.keepsTotal {transaction transaction' : Transaction}
    {meterValues : List OCPPNormalizedMeterValue} (same : SameTotal transaction transaction')
    (keeps : KeepsTotal transaction meterValues) : KeepsTotal transaction' meterValues := by
  have hregister := same.register_eq
  refine ⟨?_, ?_⟩
  · simpa only [takenSamples, hregister, same.total] using keeps.reads
  · simpa only [hregister] using keeps.raises

theorem SameTotal.countsRegister {transaction transaction' : Transaction}
    (same : SameTotal transaction transaction') (counts : CountsRegister transaction) :
    CountsRegister transaction' := by
  rw [CountsRegister, same.total, same.register_eq, same.meterStart, counts]

/-- The car gives the last consumption its state of charge, nothing else. -/
theorem processTransactionCar_ok {context : MeterValuesContext}
    {consumptions consumptions' : List Consumption}
    (h : processTransactionCar context consumptions = .ok consumptions') :
    consumptions'.getLast?.map (fun c => c.cumulatedConsumptionWh.getD 0) =
      consumptions.getLast?.map fun c => c.cumulatedConsumptionWh.getD 0 := by
  obtain ⟨soc, -, h⟩ := Outcome.bind_eq_ok.mp h
  split at h
  · rw [Outcome.pure_eq_ok_iff.mp h]
  · rw [← Outcome.pure_eq_ok_iff.mp h, KeyedList.getLast?_modifyLast, Option.map_map]
    rfl

/-- **One request.**  The register is read as the samples say, and a request that keeps
the total leaves a transaction that counts the register. -/
theorem handleMeterValues_ok {context : MeterValuesContext} {chargingStation : ChargingStation}
    {transaction transaction' : Transaction} {meterValues : List OCPPNormalizedMeterValue}
    {saved : List Consumption} {date : Timestamp}
    (h : handleMeterValues context chargingStation transaction meterValues =
      .ok (transaction', saved))
    (counts : CountsRegister transaction) (hdate : transaction.register.time = some date)
    (keeps : KeepsTotal transaction meterValues) :
    transaction'.register = Register.final transaction.register (samples meterValues) ∧
      transaction'.meterStart = transaction.meterStart ∧ CountsRegister transaction' := by
  obtain ⟨updated, created, consumptions, charged, hupdated, hcreated, hcar, h⟩ :=
    handleMeterValues_steps h
  obtain ⟨same, total⟩ := applyConsumption_foldlM_ok h
  have hsame := updateTransactionWithMeterValues_ok hupdated
  obtain ⟨unsorted, hreads, -⟩ := createConsumptions_ok hcreated
  have hcounts := hreads.countsRegister (hsame.countsRegister counts)
  -- Whether there is a last consumption or not, the total stays what it was.
  have stays : transaction'.currentTotalConsumptionWh = created.currentTotalConsumptionWh := by
    rw [total, processTransactionCar_ok hcar]
    cases hlast : consumptions.getLast? with
    | none => rfl
    | some last =>
        exact total_of_getLast? hcreated (hsame.countsRegister counts)
          (hsame.register_eq ▸ hdate) (hsame.keepsTotal keeps) hlast
  refine ⟨?_, ?_, ?_⟩
  · rw [same.register_eq, hreads.register_eq, hsame.register_eq]
  · rw [same.meterStart, hreads.meterStart_eq, hsame.meterStart]
  · rw [CountsRegister, stays, same.register_eq, same.meterStart, hcounts]

end OCPPService

/-! ## Runs of requests -/

/-- A session: its transaction as it is stored, and the readings of the energy register
that its requests have taken into account. -/
structure Session where
  transaction : Transaction
  readings : List ℚ := []

/-- A `MeterValues` request and what the other components answer to it. -/
structure MeterValuesRequest where
  context : MeterValuesContext := {}
  chargingStation : ChargingStation
  meterValues : List OCPPNormalizedMeterValue

namespace Session

open OCPPUtils

/-- The session that a start request creates. -/
def start (id : ℕ) (startTransaction : OCPPStartTransactionRequest) : Session :=
  { transaction := OCPPService.createTransaction id startTransaction }

/-- A request either saves the transaction or, when it throws, leaves the stored one. -/
def handle (session : Session) (request : MeterValuesRequest) : Session :=
  match OCPPService.handleMeterValues request.context request.chargingStation
      session.transaction request.meterValues with
  | .ok (transaction, _) =>
      { transaction := transaction
        readings := session.readings ++
          (takenSamples session.transaction request.meterValues).filterMap Sample.amount }
  | .error _ => session

/-- The step relation of a session. -/
def Step (session : Session) (request : MeterValuesRequest) (session' : Session) : Prop :=
  session' = session.handle request

/-- The request keeps the total of the session. -/
def KeepsTotal (session : Session) (request : MeterValuesRequest) : Prop :=
  OCPPUtils.KeepsTotal session.transaction request.meterValues

/-- The highest reading taken into account, or `meterStart`. -/
def highest (session : Session) : ℚ := session.readings.foldl max session.transaction.meterStart

/-- The invariant: the register stands at the highest reading, and the transaction
counts it. -/
structure TotalsRegister (session : Session) : Prop where
  dated : session.transaction.register.time.isSome
  highest : session.transaction.register.value = session.highest
  counts : CountsRegister session.transaction

theorem totalsRegister_start (id : ℕ) (startTransaction : OCPPStartTransactionRequest) :
    TotalsRegister (start id startTransaction) where
  dated := rfl
  highest := rfl
  counts := (sub_self _).symm

variable {session session' : Session} {request : MeterValuesRequest}

/-- A request that keeps the total keeps the invariant and does not lower the total. -/
theorem TotalsRegister.step (inv : TotalsRegister session) (keeps : KeepsTotal session request)
    (step : Step session request session') :
    TotalsRegister session' ∧
      session.transaction.currentTotalConsumptionWh ≤
        session'.transaction.currentTotalConsumptionWh := by
  unfold Step handle at step
  split at step
  · rename_i transaction saved hhandled
    subst step
    obtain ⟨date, hdate⟩ := Option.isSome_iff_exists.mp inv.dated
    obtain ⟨hregister, hmeterStart, counts⟩ :=
      OCPPService.handleMeterValues_ok hhandled inv.counts hdate keeps
    have hvalue := Register.value_final session.transaction.register (samples request.meterValues)
    refine ⟨⟨?_, ?_, counts⟩, ?_⟩
    · obtain ⟨date', hdate', -⟩ := Register.time_final hdate (samples request.meterValues)
      rw [hregister, hdate']
      rfl
    · change transaction.register.value = List.foldl max transaction.meterStart
        (session.readings ++ (takenSamples session.transaction request.meterValues).filterMap
          Sample.amount)
      rw [hregister, hvalue, inv.highest, hmeterStart, List.foldl_append]
      rfl
    · rw [inv.counts, counts, hregister, hmeterStart, hvalue]
      exact sub_le_sub_right (Register.le_foldl_max _ _) _
  · subst step
    exact ⟨inv, le_rfl⟩

/-- **The total of a session.**  In every run whose requests keep the total, it is the
highest reading taken into account above `meterStart`, which is also what
`lastConsumption` says; it is not negative, and no further such request lowers it. -/
theorem total_eq_highest_of_run {id : ℕ} {startTransaction : OCPPStartTransactionRequest}
    {requests : List MeterValuesRequest}
    (run : Transition.Run (Transition.guarded KeepsTotal Step) (start id startTransaction)
      requests session) :
    session.transaction.currentTotalConsumptionWh =
        session.highest - session.transaction.meterStart ∧
      session.transaction.lastConsumption.map
          (fun last => last.value - session.transaction.meterStart) =
        some session.transaction.currentTotalConsumptionWh ∧
      0 ≤ session.transaction.currentTotalConsumptionWh ∧
      ∀ request session', KeepsTotal session request → Step session request session' →
        session.transaction.currentTotalConsumptionWh ≤
          session'.transaction.currentTotalConsumptionWh := by
  have inv : TotalsRegister session :=
    run.invariant (totalsRegister_start id startTransaction)
      fun _ _ _ inv step => (inv.step step.1 step.2).1
  have total : session.transaction.currentTotalConsumptionWh =
      session.highest - session.transaction.meterStart := by
    rw [inv.counts, inv.highest]
  refine ⟨total, ?_, ?_, fun _ _ keeps step => (inv.step keeps step).2⟩
  · have dated := inv.dated
    rw [inv.counts]
    unfold Transaction.register at dated ⊢
    cases hlast : session.transaction.lastConsumption with
    | none => simp [hlast] at dated
    | some last => rfl
  · rw [total, sub_nonneg]
    exact Register.le_foldl_max _ _

/-- A station with one AC connector. -/
def exampleStation : ChargingStation :=
  { id := "CS-1"
    connectors := [{ connectorId := 1, currentType := some .AC, voltage := 230 }] }

/-- A start at 1000 Wh. -/
def exampleStart : OCPPStartTransactionRequest :=
  { chargeBoxID := "CS-1", connectorId := 1, idTag := "TAG-1", meterStart := 1000, timestamp := 0 }

/-- A request with a reading of 2000 Wh after a minute. -/
def energyRequest : MeterValuesRequest :=
  { chargingStation := exampleStation
    meterValues := [energyValue .samplePeriodic 60000 2000] }

/-- A request with the power after two minutes and nothing else. -/
def powerRequest : MeterValuesRequest :=
  { chargingStation := exampleStation
    meterValues :=
      [{ timestamp := 120000
         value := .raw 7400
         attributes := some
          { context := some .samplePeriodic
            format := some .raw
            measurand := some .powerActiveImport
            unit := some .otherUnit } }] }

/-- The session after one reading. -/
theorem total_eq_highest_of_run_one_reading :
    let session := (start 1 exampleStart).handle energyRequest
    session.transaction.currentTotalConsumptionWh =
        session.highest - session.transaction.meterStart ∧
      session.transaction.lastConsumption.map
          (fun last => last.value - session.transaction.meterStart) =
        some session.transaction.currentTotalConsumptionWh ∧
      0 ≤ session.transaction.currentTotalConsumptionWh ∧
      ∀ request session', KeepsTotal session request → Step session request session' →
        session.transaction.currentTotalConsumptionWh ≤
          session'.transaction.currentTotalConsumptionWh := by
  have keeps : KeepsTotal (start 1 exampleStart) energyRequest :=
    ⟨by decide +kernel, by decide +kernel⟩
  exact total_eq_highest_of_run (.single ⟨keeps, rfl⟩)

/-- A request without a reading of the energy register resets the total, while the
highest reading stays 1000 Wh above `meterStart`. -/
theorem total_reset_by_power_request :
    ∃ session, Transition.Run Step (start 1 exampleStart) [energyRequest, powerRequest] session ∧
      session.transaction.currentTotalConsumptionWh = 0 ∧
      session.highest - session.transaction.meterStart = 1000 ∧
      session.transaction.lastConsumption = some ⟨2000, 60000⟩ :=
  ⟨((start 1 exampleStart).handle energyRequest).handle powerRequest,
    .snoc (.single rfl) rfl, by decide +kernel, by decide +kernel, by decide +kernel⟩

end Session

end EvServer
