import EvServer.Ocpp.ExistingTransactions
import EvServer.Ocpp.MeterValuesHandler
import EvServer.Ocpp.SessionTotal
import EvServer.Ocpp.StopRetry

/-!
# The energy that is stored for a transaction

The consumptions of a transaction are stored under their end, one for each.  A request
whose consumptions end where none with energy is stored adds what its readings raise the
register by, so that what is stored stays the total of the transaction (`Balanced`).  A
consumption that takes the place of one with energy loses that energy: this is what a
request that is delivered twice does, or a stop at the instant of the last reading.
-/

namespace EvServer

namespace Store

/-- The energy of the stored consumptions of a transaction. -/
def storedWh (store : Store) (transactionId : ℕ) : ℚ :=
  ((store.consumptions.docs.filter fun consumption => consumption.transactionId = transactionId).map
    fun consumption => consumption.consumptionWh.getD 0).sum

/-- The energy of the consumption that is stored under a key. -/
def whAt (store : Store) (key : ℕ × Timestamp) : ℚ :=
  ((store.consumptions.find key).map fun consumption => consumption.consumptionWh.getD 0).getD 0

end Store

/-- What is stored of a consumption, as far as its energy is concerned. -/
def Consumption.energy (consumption : Consumption) : (ℕ × Timestamp) × ℚ :=
  (consumption.key, consumption.consumptionWh.getD 0)

namespace OCPPUtils

/-! ## The consumptions of a request -/

theorem transactionId_createConsumption {context : MeteringContext}
    {chargingStation : ChargingStation} {transaction : Transaction}
    {lastConsumption : Option LastConsumption} {meterValue : OCPPNormalizedMeterValue}
    {created : Transaction × Consumption}
    (h : createConsumptionFromMeterValue context chargingStation transaction lastConsumption
      meterValue = .ok created) : created.2.transactionId = transaction.id := by
  rcases createConsumption_cases h with ⟨-, -, -, -, -, rfl⟩ | ⟨-, limited, _, hconnector, rfl⟩
  · rfl
  · obtain ⟨_, rfl⟩ := addConnectorLimitation_ok hconnector
    simp only [applyEnergyReading]
    split <;> rfl

/-- The keys of the consumptions of a request: each has an end of its own, which is the time of
a sample taken. -/
structure EndsApart (transaction : Transaction) (meterValues : List OCPPNormalizedMeterValue)
    (keys : List (ℕ × Timestamp)) : Prop where
  sameTransaction : ∀ key ∈ keys, key.1 = transaction.id
  nodup : keys.Nodup
  taken : ∀ key ∈ keys, ∃ sample ∈ takenSamples transaction meterValues, sample.time = key.2

theorem transactionId_loop {context : MeteringContext} {chargingStation : ChargingStation}
    {transaction : Transaction} {meterValues : List OCPPNormalizedMeterValue}
    {looped : Transaction × List Consumption}
    (h : meterValues.foldlM (createConsumptionsStep context chargingStation) (transaction, []) =
      .ok looped) :
    ∀ consumption ∈ looped.2, consumption.transactionId = transaction.id := by
  refine (foldlM_createConsumptions_invariant (I := fun looped consumptions =>
    looped.id = transaction.id ∧
      ∀ consumption ∈ consumptions, consumption.transactionId = transaction.id)
    ?_ ⟨rfl, List.forall_mem_nil _⟩ h).2
  rintro before consumptions meterValue created ⟨sameID, old⟩ hcreated
  have new := (transactionId_createConsumption hcreated).trans sameID
  refine ⟨(sameSession_createConsumptionFromMeterValue hcreated).id.trans sameID, ?_⟩
  exact forall_mem_addOrUpdate old new fun _ _ => new

/-- The ends of the consumptions. -/
theorem endsApart_of_create {context : MeteringContext} {chargingStation : ChargingStation}
    {transaction transaction' : Transaction} {meterValues : List OCPPNormalizedMeterValue}
    {consumptions : List Consumption}
    (h : createConsumptionsFromMeterValues context chargingStation transaction meterValues =
      .ok (transaction', consumptions)) :
    EndsApart transaction meterValues (consumptions.map Consumption.key) := by
  obtain ⟨⟨looped, unsorted⟩, hloop, hsort⟩ := Outcome.bind_eq_ok.mp h
  obtain ⟨sorted, hsort, h⟩ := Outcome.bind_eq_ok.mp hsort
  cases h
  have perm := perm_of_sortConsumptions hsort
  have book := (readsAll_of_foldlM hloop).booked_eq
  have ends : unsorted.map Consumption.endedAt =
      (Register.bookAll transaction.register (samples meterValues) []).map Prod.fst := by
    rw [show Register.bookAll transaction.register (samples meterValues) [] = booked unsorted from
      book.symm]
    simp [booked]
  have keys : (consumptions.map Consumption.key).Perm (unsorted.map Consumption.key) := by
    have perm := perm.map Consumption.key
    rw [List.map_map] at perm
    exact perm
  have from_loop : ∀ key ∈ consumptions.map Consumption.key,
      ∃ before ∈ unsorted, before.key = key :=
    fun key mem => List.mem_map.mp (keys.mem_iff.mp mem)
  refine ⟨?_, ?_, ?_⟩
  · intro key mem
    obtain ⟨before, hbefore, rfl⟩ := from_loop key mem
    exact transactionId_loop hloop before hbefore
  · rw [keys.nodup_iff]
    refine List.Nodup.of_map Prod.snd ?_
    rw [List.map_map]
    change (unsorted.map Consumption.endedAt).Nodup
    rw [ends]
    exact Register.nodup_keys_bookAll List.nodup_nil
  · intro key mem
    obtain ⟨before, hbefore, rfl⟩ := from_loop key mem
    have booked : before.endedAt ∈
        (Register.bookAll transaction.register (samples meterValues) []).map Prod.fst :=
      ends ▸ List.mem_map_of_mem hbefore
    rcases Register.mem_keys_bookAll booked with none_there | taken
    · cases none_there
    · exact taken

end OCPPUtils

namespace OCPPService

open OCPPUtils

/-! ## The consumptions as they are stored -/

theorem energy_processTransactionPricing {pricingImpl : Option PricingIntegration}
    {transaction : Transaction} {consumption : Consumption} {action : TransactionAction}
    {priced : Transaction × Consumption}
    (h : OCPPUtils.processTransactionPricing pricingImpl transaction consumption action =
      .ok priced) : priced.2.energy = consumption.energy := by
  change priced.2.unpriced.energy = consumption.unpriced.energy
  rw [unpriced_consumption_processTransactionPricing h]

theorem energy_buildConsumptionMDB {consumption consumptionMDB : Consumption}
    (h : ConsumptionStorage.buildConsumptionMDB consumption = .ok consumptionMDB) :
    consumptionMDB.energy = consumption.energy := by
  unfold ConsumptionStorage.buildConsumptionMDB at h
  split at h
  · cases h
  · cases h
    rfl

theorem energy_processTransactionCar {context : MeterValuesContext}
    {consumptions consumptions' : List Consumption}
    (h : processTransactionCar context consumptions = .ok consumptions') :
    consumptions'.map Consumption.energy = consumptions.map Consumption.energy := by
  obtain ⟨soc, -, h⟩ := Outcome.bind_eq_ok.mp h
  split at h
  · rw [Outcome.pure_eq_ok_iff.mp h]
  · rw [← Outcome.pure_eq_ok_iff.mp h]
    rcases List.eq_nil_or_concat consumptions with rfl | ⟨init, last, rfl⟩
    · rfl
    · rw [List.concat_eq_append, List.modifyLast_concat, List.map_append, List.map_append]
      rfl

theorem energy_priceMeterValuesConsumption {context : MeterValuesContext}
    {chargingStation : ChargingStation} {transaction : Transaction} {consumption : Consumption}
    {priced : Transaction × Consumption}
    (h : priceMeterValuesConsumption context chargingStation transaction consumption =
      .ok priced) : priced.2.energy = consumption.energy := by
  unfold priceMeterValuesConsumption at h
  dsimp only at h
  split at h
  · exact energy_processTransactionPricing h
  · cases h
    rfl

theorem energy_applyConsumption {context : MeterValuesContext} {chargingStation : ChargingStation}
    {consumptions : List Consumption} {state state' : Transaction × List Consumption}
    (h : consumptions.foldlM (applyConsumption context chargingStation) state = .ok state') :
    state'.2.map Consumption.energy =
      state.2.map Consumption.energy ++ consumptions.map Consumption.energy := by
  induction consumptions generalizing state with
  | nil =>
      cases h
      simp
  | cons consumption rest ih =>
      obtain ⟨between, hfirst, hrest⟩ := Outcome.foldlM_cons_eq_ok.mp h
      rw [applyConsumption_eq] at hfirst
      obtain ⟨priced, hpriced, rfl⟩ := Outcome.map_eq_ok.mp hfirst
      rw [ih hrest, List.map_append, List.map_singleton,
        energy_priceMeterValuesConsumption hpriced, List.append_assoc]
      rfl

/-- The loop stores the consumptions of the request. -/
theorem energy_saveConsumptions {priced stored : List Consumption}
    (built : List.Forall₂ (fun consumption consumptionMDB =>
      ConsumptionStorage.buildConsumptionMDB consumption = .ok consumptionMDB) priced stored) :
    stored.map Consumption.energy = priced.map Consumption.energy := by
  induction built with
  | nil => rfl
  | cons first _ ih => rw [List.map_cons, List.map_cons, energy_buildConsumptionMDB first, ih]

end OCPPService

namespace Store

/-! ## What is stored -/

/-- The energy of a consumption, if it is of the transaction. -/
def whOf (transactionId : ℕ) (consumption : Consumption) : ℚ :=
  if consumption.transactionId = transactionId then consumption.consumptionWh.getD 0 else 0

theorem storedWh_eq_sum_whOf (store : Store) (transactionId : ℕ) :
    store.storedWh transactionId = (store.consumptions.docs.map (whOf transactionId)).sum := by
  unfold storedWh whOf
  induction store.consumptions.docs with
  | nil => rfl
  | cons consumption rest ih =>
      by_cases same : consumption.transactionId = transactionId <;> simp [same, ← ih]

variable {store : Store} {transactionId : ℕ}

/-- **What is stored after a request.**  Consumptions of a transaction, each with an end of its
own, are added up; those they replace are lost. -/
theorem storedWh_saveAll {stored : List Consumption}
    (sameTransaction : ∀ key ∈ stored.map Consumption.key, key.1 = transactionId)
    (nodup : (stored.map Consumption.key).Nodup) (chargingStations : Collection ChargingStation.id)
    (transactions : Collection Transaction.id) (id : ℕ) :
    storedWh ⟨chargingStations, transactions, store.consumptions.saveAll stored⟩ id =
      store.storedWh id +
        if id = transactionId then
          (stored.map fun consumption => consumption.consumptionWh.getD 0).sum -
            (stored.map fun consumption => store.whAt consumption.key).sum
        else 0 := by
  rw [storedWh_eq_sum_whOf, storedWh_eq_sum_whOf, Collection.sum_map_saveAll _ nodup]
  have sameTransaction : ∀ consumption ∈ stored, consumption.transactionId = transactionId :=
    fun consumption mem => sameTransaction _ (List.mem_map_of_mem mem)
  have replaced_of {consumption found : Consumption} (mem : consumption ∈ stored)
      (hfound : store.consumptions.find consumption.key = some found) :
      found.transactionId = transactionId :=
    (congrArg Prod.fst (Collection.key_of_find hfound)).trans (sameTransaction consumption mem)
  split
  · rename_i same
    subst same
    have added : stored.map (whOf id) =
        stored.map fun consumption => consumption.consumptionWh.getD 0 :=
      List.map_congr_left fun consumption mem => if_pos (sameTransaction consumption mem)
    have replaced : (stored.map fun doc =>
        ((store.consumptions.find doc.key).map (whOf id)).getD 0) =
          stored.map fun consumption => store.whAt consumption.key := by
      refine List.map_congr_left fun consumption mem => ?_
      unfold whAt
      cases hfound : store.consumptions.find consumption.key with
      | none => rfl
      | some found => exact if_pos (replaced_of mem hfound)
    rw [added, replaced, add_sub_assoc]
  · rename_i other
    have added : (stored.map (whOf id)).sum = 0 := by
      refine List.sum_eq_zero fun amount mem => ?_
      obtain ⟨consumption, hmem, rfl⟩ := List.mem_map.mp mem
      exact if_neg fun same => other (same.symm.trans (sameTransaction consumption hmem))
    have replaced : (stored.map fun doc =>
        ((store.consumptions.find doc.key).map (whOf id)).getD 0).sum = 0 := by
      refine List.sum_eq_zero fun amount mem => ?_
      obtain ⟨consumption, hmem, rfl⟩ := List.mem_map.mp mem
      cases hfound : store.consumptions.find consumption.key with
      | none => rfl
      | some found => exact if_neg fun same => other (same.symm.trans (replaced_of hmem hfound))
    rw [added, replaced]
    ring

end Store

/-! ## The invariant -/

/-- A running transaction counts its register, and what is stored for it is what it counts. -/
structure Counted (store : Store) (transaction : Transaction) : Prop where
  dated : transaction.register.time.isSome
  counts : OCPPUtils.CountsRegister transaction
  stored : store.storedWh transaction.id = transaction.currentTotalConsumptionWh

/-- The invariant: running transactions are counted, and a consumption is of a transaction. -/
structure Balanced (store : Store) : Prop where
  running : ∀ id, ∀ transaction ∈ store.transactions.find id, transaction.stop = none →
    Counted store transaction
  known : ∀ consumption ∈ store.consumptions.docs,
    (store.transactions.find consumption.transactionId).isSome

section Steps

variable {store between : Store}

/-- Of a transaction that is not stored nothing is stored. -/
theorem Balanced.storedWh_eq_zero (balanced : Balanced store) {id : ℕ}
    (unknown : store.transactions.find id = none) : store.storedWh id = 0 := by
  have nothing : (store.consumptions.docs.filter fun consumption =>
      consumption.transactionId = id) = [] := by
    refine List.filter_eq_nil_iff.mpr fun consumption mem same => ?_
    have known := balanced.known consumption mem
    rw [of_decide_eq_true same, unknown] at known
    cases known
  rw [Store.storedWh, nothing]
  rfl

/-- What the stations are is of no importance. -/
theorem Balanced.setChargingStations (balanced : Balanced store)
    (chargingStations : Collection ChargingStation.id) :
    Balanced { store with chargingStations := chargingStations } where
  running id transaction found running :=
    have counted := balanced.running id transaction found running
    ⟨counted.dated, counted.counts, counted.stored⟩
  known := balanced.known

/-- A transaction is saved, perhaps after consumptions of it. -/
theorem Balanced.save (balanced : Balanced store) (saved : Transaction) {store' : Store}
    (transactions : store'.transactions = store.transactions.save saved)
    (counted : saved.stop = none → Counted store' saved)
    (others : ∀ id, id ≠ saved.id → store'.storedWh id = store.storedWh id)
    (known : ∀ consumption ∈ store'.consumptions.docs,
      consumption ∈ store.consumptions.docs ∨ consumption.transactionId = saved.id) :
    Balanced store' := by
  have found_self : store'.transactions.find saved.id = some saved := by
    rw [transactions]
    exact @Collection.find_save_self _ _ Transaction.id _ _ _
  have found_other {id : ℕ} (other : id ≠ saved.id) :
      store'.transactions.find id = store.transactions.find id := by
    rw [transactions]
    exact Collection.find_save_of_ne other
  constructor
  · intro id transaction found running
    rcases eq_or_ne id saved.id with rfl | other
    · rw [found_self] at found
      cases found
      exact counted running
    · rw [found_other other] at found
      have before := balanced.running id transaction found running
      refine ⟨before.dated, before.counts, ?_⟩
      have sameID : transaction.id = id := Collection.key_of_find found
      rw [others _ (sameID ▸ other)]
      exact before.stored
  · intro consumption mem
    rcases eq_or_ne consumption.transactionId saved.id with same | other
    · rw [same, found_self]
      rfl
    · rw [found_other other]
      exact balanced.known consumption ((known consumption mem).resolve_right other)

/-- A transaction is deleted with its consumptions. -/
theorem Balanced.withoutTransaction (balanced : Balanced store) (transactionID : ℕ) :
    Balanced (OCPPService.withoutTransaction store transactionID) := by
  have kept {id : ℕ} (other : id ≠ transactionID) :
      (OCPPService.withoutTransaction store transactionID).storedWh id = store.storedWh id := by
    unfold Store.storedWh OCPPService.withoutTransaction Collection.deleteMany
    dsimp only
    rw [List.filter_filter]
    refine congrArg List.sum (congrArg _ (List.filter_congr fun consumption _ => ?_))
    by_cases same : consumption.transactionId = id <;> simp [same, Consumption.key, other]
  constructor
  · intro id transaction found running
    change (store.transactions.delete transactionID).find id = some transaction at found
    rw [Collection.find_delete] at found
    split at found
    · cases found
    · rename_i other
      have before := balanced.running id transaction found running
      refine ⟨before.dated, before.counts, ?_⟩
      have sameID : transaction.id = id := Collection.key_of_find found
      rw [kept (sameID ▸ other)]
      exact before.stored
  · intro consumption mem
    obtain ⟨mem, notOf⟩ := Collection.mem_deleteMany.mp mem
    have other : consumption.transactionId ≠ transactionID := by
      intro same
      exact notOf (decide_eq_true same)
    change ((store.transactions.delete transactionID).find _).isSome
    rw [Collection.find_delete, if_neg other]
    exact balanced.known consumption mem

end Steps

namespace OCPPService

open OCPPUtils

/-! ## A start -/

/-- A transaction that is created stands at the meter of its start. -/
theorem checkStartTransaction_fresh {context : StartContext} {headers : OCPPHeader}
    {startTransaction : OCPPStartTransactionRequest} {store : Store}
    {created : ChargingStation × Transaction}
    (h : checkStartTransaction context headers startTransaction store = .ok created) :
    created.2.lastConsumption = some ⟨created.2.meterStart, created.2.timestamp⟩ ∧
      created.2.currentTotalConsumptionWh = 0 := by
  unfold checkStartTransaction at h
  split at h
  · cases h
  · obtain ⟨validated, -, h⟩ := Outcome.bind_eq_ok.mp h
    obtain ⟨id, -, h⟩ := Outcome.bind_eq_ok.mp h
    obtain ⟨user, -, h⟩ := Outcome.bind_eq_ok.mp h
    cases user <;> cases h <;> exact ⟨rfl, rfl⟩

theorem sameTotal_processTransactionBilling {billingImpl : Option BillingIntegration}
    {transaction : Transaction} {action : TransactionAction} {billed : Transaction × Bool}
    (h : processTransactionBilling billingImpl transaction action = .ok billed) :
    SameTotal transaction billed.1 :=
  .of_eq Transaction.unbilled (fun _ => ⟨⟨rfl, rfl⟩, rfl⟩) (unbilled_processTransactionBilling h)

/-- A transaction that is started counts its register, at which nothing has been metered. -/
theorem counts_startTransactionWith {context : StartContext} {chargingStation : ChargingStation}
    {newTransaction started : Transaction}
    (last : newTransaction.lastConsumption =
      some ⟨newTransaction.meterStart, newTransaction.timestamp⟩)
    (zero : newTransaction.currentTotalConsumptionWh = 0)
    (h : startTransactionWith context chargingStation newTransaction = .ok started) :
    started.register.time.isSome ∧ CountsRegister started ∧
      started.currentTotalConsumptionWh = 0 := by
  obtain ⟨_, _, _, _, _, _, hfirst, hpriced, hbilled⟩ := startTransactionWith_steps h
  have same := (sameTotal_processTransactionPricing hpriced).trans
    (sameTotal_processTransactionBilling hbilled)
  unfold createFirstConsumption at hfirst
  dsimp only at hfirst
  rw [← last] at hfirst
  have reads := createConsumption_spec hfirst
  have register : Transaction.register newTransaction =
      ⟨some newTransaction.timestamp, newTransaction.meterStart⟩ := by
    rw [Transaction.register, last]
  have amount : sample ⟨newTransaction.timestamp, .raw newTransaction.meterStart,
      some Constants.ocppEnergyActiveImportRegisterAttribute⟩ =
        .reading newTransaction.timestamp (some newTransaction.meterStart) := rfl
  have counts : CountsRegister newTransaction := by
    rw [CountsRegister, register, zero, sub_self]
  refine ⟨?_, same.countsRegister (reads.countsRegister counts), ?_⟩
  · rw [same.register_eq, reads.register]
    change (Register.Mark.next newTransaction.register _).time.isSome
    rw [register, amount, Register.Mark.next, if_pos le_rfl]
    rfl
  · rw [same.total, reads.total]
    change newTransaction.currentTotalConsumptionWh + newTransaction.register.rise _ = 0
    rw [register, amount, zero, Register.Mark.rise, if_neg (lt_irrefl _), add_zero]

/-- How a running transaction is stored makes no difference to its register. -/
theorem sameTotal_transactionMDB {transaction : Transaction} (running : transaction.stop = none) :
    SameTotal transaction (TransactionStorage.transactionMDB transaction) := by
  rw [TransactionStorage.transactionMDB, running]
  exact ⟨⟨rfl, rfl⟩, rfl⟩

end OCPPService

open OCPPService

/-- A transaction is saved that was not known and counts its register. -/
theorem Balanced.saveNew {store : Store} (balanced : Balanced store) {started : Transaction}
    (unknown : store.transactions.find started.id = none)
    (zero : started.currentTotalConsumptionWh = 0) (running : started.stop = none)
    (counts : started.register.time.isSome ∧ OCPPUtils.CountsRegister started) :
    Balanced { store with
      transactions := store.transactions.save (TransactionStorage.transactionMDB started) } := by
  refine balanced.save (TransactionStorage.transactionMDB started) rfl ?_ (fun _ _ => rfl)
    fun _ mem => .inl mem
  intro _
  have same := sameTotal_transactionMDB running
  refine ⟨same.register_eq ▸ counts.1, same.countsRegister counts.2, ?_⟩
  rw [TransactionStorage.id_transactionMDB, same.total, zero]
  exact balanced.storedWh_eq_zero unknown

/-- **A start keeps the balance**, accepted or not. -/
theorem Balanced.start {store : Store} (balanced : Balanced store) (context : StartContext)
    (fuel : ℕ) (headers : OCPPHeader) (startTransaction : OCPPStartTransactionRequest) :
    Balanced (handleStartTransaction context (fuel + 2) headers startTransaction store).2 := by
  -- The clean-up keeps it, and what was not stored is not stored after it.
  have cleaned {connectorId : ℕ} {chargingStation cleanedUp : ChargingStation} {between : Store}
      (hclean : processExistingTransaction context.stopContext connectorId (fuel + 2) none
        chargingStation store = (.ok (some cleanedUp), between)) :
      Balanced between ∧ ∀ id, store.transactions.find id = none →
        between.transactions.find id = none := by
    rcases processExistingTransaction_ok hclean with ⟨-, rfl⟩ | ⟨active, -, -, -, rfl⟩
    · exact ⟨balanced, fun _ unknown => unknown⟩
    · refine ⟨balanced.withoutTransaction active.id, fun id unknown => ?_⟩
      change (store.transactions.delete active.id).find id = none
      rw [Collection.find_delete]
      split
      · rfl
      · exact unknown
  have saved {chargingStation cleanedUp : ChargingStation} {newTransaction started : Transaction}
      {between : Store}
      (hcheck : checkStartTransaction context headers startTransaction store =
        .ok (chargingStation, newTransaction))
      (hclean : processExistingTransaction context.stopContext startTransaction.connectorId
        (fuel + 2) none chargingStation store = (.ok (some cleanedUp), between))
      (hstart : startTransactionWith context cleanedUp newTransaction = .ok started) :
      Balanced { between with
        transactions := between.transactions.save (TransactionStorage.transactionMDB started) } := by
    obtain ⟨balancedBetween, unknown⟩ := cleaned hclean
    obtain ⟨last, zero⟩ := checkStartTransaction_fresh hcheck
    obtain ⟨-, -, -, running, new⟩ :=
      checkStartTransaction_ok (chargingStation_of_checkStartTransaction hcheck) hcheck
    have same := startTransactionWith_ok hstart
    obtain ⟨dated, counts, zero⟩ := counts_startTransactionWith last zero hstart
    refine balancedBetween.saveNew ?_ zero (same.stop.trans running) ⟨dated, counts⟩
    rw [same.id]
    exact unknown _ new
  have outcome := startOutcome context fuel headers startTransaction store
  generalize (handleStartTransaction context (fuel + 2) headers startTransaction store).2 =
    store' at outcome
  cases outcome with
  | rejected => exact balanced
  | cleanedUp _ hclean _ => exact (cleaned hclean).1
  | saved hcheck hclean hstart _ _ => exact saved hcheck hclean hstart
  | started hcheck hclean hstart =>
      exact (saved hcheck hclean hstart).setChargingStations _

/-! ## A request -/

namespace MeterValuesAttempt

/-- No consumption with energy is stored at the time of a meter value that is taken into
account. -/
def EndsAnew (attempt : MeterValuesAttempt) (store : Store) : Prop :=
  ∀ sample ∈ OCPPUtils.takenSamples attempt.transaction attempt.values,
    store.whAt (attempt.transaction.id, sample.time) = 0

/-- When its first consumption is saved, then so are the others and the transaction. -/
def IsSavedWhole (attempt : MeterValuesAttempt) (context : MeterValuesHandlerContext)
    (transaction : Transaction) : List Consumption → Prop
  | [] => True
  | consumption :: rest =>
      (priceMeterValuesConsumption context.toMeterValuesContext attempt.chargingStation transaction
        consumption).isOk → context.database .saveConsumption = .ok () →
      ((consumption :: rest).foldlM
        (applyConsumption context.toMeterValuesContext attempt.chargingStation)
        (transaction, [])).isOk ∧ context.database .saveTransaction = .ok ()

/-- **The condition on a request** under which what is stored stays what is counted. -/
structure KeepsBalance (attempt : MeterValuesAttempt) (context : MeterValuesHandlerContext)
    (store : Store) (transaction : Transaction) (consumptions : List Consumption) : Prop where
  keepsTotal : OCPPUtils.KeepsTotal attempt.transaction attempt.values
  raisesStandLast : Register.RaisesStandLast attempt.transaction.register
    (OCPPUtils.samples attempt.values)
  endsAnew : attempt.EndsAnew store
  isSavedWhole : attempt.IsSavedWhole context transaction consumptions

end MeterValuesAttempt

section Requests

variable {context : MeterValuesHandlerContext} {store : Store} {attempt : MeterValuesAttempt}
variable {transaction transaction' : Transaction} {consumptions : List Consumption}

/-- The consumptions of the request end apart, and add up to its book. -/
theorem prepareConsumptions_ok
    (h : prepareConsumptions context.toMeterValuesContext attempt = .ok (transaction, consumptions)) :
    OCPPUtils.EndsApart attempt.transaction attempt.values (consumptions.map Consumption.key) ∧
      (consumptions.map fun consumption => consumption.consumptionWh.getD 0).sum =
        Register.total (Register.bookAll attempt.transaction.register
          (OCPPUtils.samples attempt.values) []) := by
  obtain ⟨updated, hupdated, h⟩ := Outcome.bind_eq_ok.mp h
  obtain ⟨⟨created, unchanged⟩, hcreated, h⟩ := Outcome.bind_eq_ok.mp h
  obtain ⟨charged, hcar, h⟩ := Outcome.bind_eq_ok.mp h
  cases h
  have same := energy_processTransactionCar hcar
  have register := (updateTransactionWithMeterValues_ok hupdated).register_eq
  have sameID := sameSession_updateTransactionWithMeterValues hupdated
  have apart := OCPPUtils.endsApart_of_create hcreated
  have total := OCPPUtils.sum_consumptionWh_eq_total hcreated
  have sameKeys : consumptions.map Consumption.key = unchanged.map Consumption.key := by
    have keys := congrArg (List.map Prod.fst) same
    rw [List.map_map, List.map_map] at keys
    exact keys
  have sameWh : (consumptions.map fun consumption => consumption.consumptionWh.getD 0) =
      unchanged.map fun consumption => consumption.consumptionWh.getD 0 := by
    have amounts := congrArg (List.map Prod.snd) same
    rw [List.map_map, List.map_map] at amounts
    exact amounts
  rw [sameKeys, sameWh, total, register]
  refine ⟨⟨fun key mem => (apart.sameTransaction key mem).trans sameID.id, apart.nodup, ?_⟩, rfl⟩
  intro key mem
  have taken := apart.taken key mem
  unfold OCPPUtils.takenSamples at taken ⊢
  rw [register] at taken
  exact taken

theorem saveConsumption_of_ok {database : Database} {consumption consumptionMDB : Consumption}
    (built : ConsumptionStorage.buildConsumptionMDB consumption = .ok consumptionMDB)
    (saves : database .saveConsumption = .ok ()) (store : Store) :
    ConsumptionStorage.saveConsumption database consumption store =
      (.ok (), { store with consumptions := store.consumptions.save consumptionMDB }) := by
  unfold ConsumptionStorage.saveConsumption
  rw [built, saves]
  rfl

theorem saveConsumption_of_error {database : Database} {error : String}
    (fails : database .saveConsumption = .error error) (consumption : Consumption) (store : Store) :
    ∃ error', ConsumptionStorage.saveConsumption database consumption store =
      (.error error', store) := by
  unfold ConsumptionStorage.saveConsumption
  cases ConsumptionStorage.buildConsumptionMDB consumption with
  | error error' => exact ⟨error', rfl⟩
  | ok consumptionMDB =>
      refine ⟨error, ?_⟩
      rw [fails]
      rfl

/-- The loop gets to its end when the consumptions can be priced and saved. -/
theorem saveConsumptions_of_ok {priced : List Consumption}
    (saves : context.database .saveConsumption = .ok ())
    (known : ∀ consumption ∈ consumptions, consumption.transactionId ≠ 0)
    {saved : List Consumption}
    (h : consumptions.foldlM (applyConsumption context.toMeterValuesContext attempt.chargingStation)
      (transaction, saved) = .ok (transaction', priced)) (store : Store) :
    (saveConsumptions context attempt.chargingStation consumptions transaction store).1 =
      .ok transaction' := by
  unfold saveConsumptions
  induction consumptions generalizing transaction saved store with
  | nil =>
      cases h
      rfl
  | cons consumption rest ih =>
      obtain ⟨between, hfirst, hrest⟩ := Outcome.foldlM_cons_eq_ok.mp h
      rw [applyConsumption_eq] at hfirst
      obtain ⟨⟨updated, first⟩, hpriced, rfl⟩ := Outcome.map_eq_ok.mp hfirst
      have sameID : first.transactionId = consumption.transactionId :=
        congrArg (fun energy => energy.1.1) (energy_priceMeterValuesConsumption hpriced)
      obtain ⟨consumptionMDB, built⟩ : ∃ consumptionMDB,
          ConsumptionStorage.buildConsumptionMDB first = .ok consumptionMDB := by
        unfold ConsumptionStorage.buildConsumptionMDB
        rw [if_neg (sameID ▸ known consumption List.mem_cons_self)]
        exact ⟨_, rfl⟩
      rw [List.foldlM_cons, hpriced, bind_assoc, Handler.ofExcept_ok_bind]
      dsimp only
      rw [bind_assoc, Handler.bind_apply_ok (saveConsumption_of_ok built saves store)]
      exact ih (fun other mem => known other (List.mem_cons_of_mem _ mem)) hrest _

/-- A loop that is cut off has saved nothing, when the request is saved as a whole. -/
theorem saveConsumptions_cutOff {loop : Except String Transaction} {between : Store}
    (known : ∀ consumption ∈ consumptions, consumption.transactionId ≠ 0)
    (whole : attempt.IsSavedWhole context transaction consumptions)
    (h : saveConsumptions context attempt.chargingStation consumptions transaction store =
      (loop, between))
    (failed : loop.isOk = false ∨ context.database .saveTransaction ≠ .ok ()) :
    between = store := by
  cases consumptions with
  | nil =>
      cases h
      rfl
  | cons consumption rest =>
      cases hpriced : priceMeterValuesConsumption context.toMeterValuesContext
          attempt.chargingStation transaction consumption with
      | error error =>
          rw [saveConsumptions, List.foldlM_cons, hpriced] at h
          exact (congrArg Prod.snd h).symm
      | ok first =>
          cases saves : context.database .saveConsumption with
          | error error =>
              obtain ⟨error', fails⟩ := saveConsumption_of_error saves first.2 store
              rw [saveConsumptions, List.foldlM_cons, hpriced, bind_assoc,
                Handler.ofExcept_ok_bind] at h
              dsimp only at h
              rw [bind_assoc, Handler.bind_apply_error fails] at h
              exact (congrArg Prod.snd h).symm
          | ok _ =>
              obtain ⟨priced, savesTransaction⟩ := whole (by rw [hpriced]; rfl) saves
              obtain ⟨⟨transaction', others⟩, hpriced⟩ := Outcome.isOk_iff.mp priced
              have ended := saveConsumptions_of_ok saves known hpriced store
              rw [h] at ended
              rcases failed with thrown | unsaved
              · rw [show loop = .ok transaction' from ended] at thrown
                cases thrown
              · exact absurd savesTransaction unsaved

/-- The request is priced as `handleMeterValues` prices it. -/
theorem handleMeterValues_of_priced {priced : List Consumption}
    (running : attempt.transaction.stop = none)
    (prepared : prepareConsumptions context.toMeterValuesContext attempt =
      .ok (transaction, consumptions))
    (loop : consumptions.foldlM
      (applyConsumption context.toMeterValuesContext attempt.chargingStation) (transaction, []) =
        .ok (transaction', priced)) :
    handleMeterValues context.toMeterValuesContext attempt.chargingStation attempt.transaction
      attempt.values = .ok (transaction', priced) := by
  obtain ⟨updated, hupdated, prepared⟩ := Outcome.bind_eq_ok.mp prepared
  obtain ⟨created, hcreated, prepared⟩ := Outcome.bind_eq_ok.mp prepared
  obtain ⟨charged, hcar, prepared⟩ := Outcome.bind_eq_ok.mp prepared
  cases prepared
  rw [handleMeterValues, running, hupdated, if_neg nofun, Outcome.ok_bind, hcreated,
    Outcome.ok_bind]
  dsimp only
  rw [hcar, Outcome.ok_bind]
  exact loop

/-- What the loop stores are the consumptions of the request. -/
theorem energy_stored {priced stored : List Consumption}
    (loop : consumptions.foldlM
      (applyConsumption context.toMeterValuesContext attempt.chargingStation) (transaction, []) =
        .ok (transaction', priced))
    (built : List.Forall₂ (fun consumption consumptionMDB =>
      ConsumptionStorage.buildConsumptionMDB consumption = .ok consumptionMDB) priced stored) :
    stored.map Consumption.key = consumptions.map Consumption.key ∧
      (stored.map fun consumption => consumption.consumptionWh.getD 0) =
        consumptions.map fun consumption => consumption.consumptionWh.getD 0 := by
  have same : stored.map Consumption.energy = consumptions.map Consumption.energy := by
    rw [energy_saveConsumptions built, energy_applyConsumption loop]
    rfl
  constructor
  · have keys := congrArg (List.map Prod.fst) same
    rw [List.map_map, List.map_map] at keys
    exact keys
  · have amounts := congrArg (List.map Prod.snd) same
    rw [List.map_map, List.map_map] at amounts
    exact amounts

/-- What is stored of a request whose consumptions end where no energy is stored. -/
theorem storedWh_of_saved {priced stored : List Consumption}
    (prepared : prepareConsumptions context.toMeterValuesContext attempt =
      .ok (transaction, consumptions))
    (loop : consumptions.foldlM
      (applyConsumption context.toMeterValuesContext attempt.chargingStation) (transaction, []) =
        .ok (transaction', priced))
    (built : List.Forall₂ (fun consumption consumptionMDB =>
      ConsumptionStorage.buildConsumptionMDB consumption = .ok consumptionMDB) priced stored)
    (endsAnew : attempt.EndsAnew store) (chargingStations : Collection ChargingStation.id)
    (transactions : Collection Transaction.id) (id : ℕ) :
    (⟨chargingStations, transactions, store.consumptions.saveAll stored⟩ : Store).storedWh id =
      store.storedWh id +
        if id = attempt.transaction.id then
          Register.total (Register.bookAll attempt.transaction.register
            (OCPPUtils.samples attempt.values) [])
        else 0 := by
  obtain ⟨apart, total⟩ := prepareConsumptions_ok prepared
  obtain ⟨sameKeys, sameWh⟩ := energy_stored loop built
  rw [Store.storedWh_saveAll (sameKeys ▸ apart.sameTransaction) (sameKeys ▸ apart.nodup), sameWh,
    total]
  -- Nothing with energy is replaced.
  have replaced : (stored.map fun consumption => store.whAt consumption.key).sum = 0 := by
    refine List.sum_eq_zero fun amount mem => ?_
    obtain ⟨consumption, hmem, rfl⟩ := List.mem_map.mp mem
    have hkey : consumption.key ∈ consumptions.map Consumption.key :=
      sameKeys ▸ List.mem_map_of_mem hmem
    obtain ⟨sample, taken, sameEnd⟩ := apart.taken _ hkey
    have anew := endsAnew sample taken
    rw [sameEnd, ← apart.sameTransaction _ hkey] at anew
    exact anew
  rw [replaced, sub_zero]

end Requests

/-- **A request keeps the balance** under its condition, also when it throws. -/
theorem Balanced.meterValues {store : Store} (balanced : Balanced store)
    {context : MeterValuesHandlerContext} {headers : OCPPHeader}
    {meterValues : OCPPMeterValuesRequest}
    (keeps : ∀ attempt transaction consumptions,
      checkMeterValues headers meterValues store = .ok (some attempt) →
      prepareConsumptions context.toMeterValuesContext attempt = .ok (transaction, consumptions) →
      attempt.KeepsBalance context store transaction consumptions) :
    Balanced (handleMeterValuesRequest context headers meterValues store).2 := by
  have outcome := meterValuesOutcome context headers meterValues store
  generalize (handleMeterValuesRequest context headers meterValues store).2 = store' at outcome
  cases outcome with
  | rejected => exact balanced
  | @cutOff attempt transaction consumptions loop _ checked prepared hloop failed =>
    obtain ⟨-, -, notZero, -, -⟩ := checkMeterValues_ok checked
    have known : ∀ consumption ∈ consumptions, consumption.transactionId ≠ 0 := by
      intro consumption mem zero
      refine notZero ?_
      rw [← (prepareConsumptions_ok prepared).1.sameTransaction _ (List.mem_map_of_mem mem)]
      exact zero
    rw [saveConsumptions_cutOff known (keeps _ _ _ checked prepared).isSavedWhole hloop failed]
    exact balanced
  | @saved attempt transaction transaction' consumptions between chargingStations checked prepared
      hloop _ =>
    obtain ⟨keepsTotal, raisesStandLast, endsAnew, -⟩ := keeps _ _ _ checked prepared
    obtain ⟨-, -, -, found, running⟩ := checkMeterValues_ok checked
    obtain ⟨priced, stored, loop, built, rfl⟩ := saveConsumptions_ok [] hloop
    have same := (sameSession_prepareConsumptions prepared).trans
      (sameSession_saveConsumptions hloop)
    have handled := handleMeterValues_of_priced running prepared loop
    have before := balanced.running _ _ found running
    obtain ⟨date, hdate⟩ := Option.isSome_iff_exists.mp before.dated
    obtain ⟨register, meterStart, counts⟩ :=
      handleMeterValues_ok handled before.counts hdate keepsTotal
    have storedWh := storedWh_of_saved prepared loop built endsAnew chargingStations
      (store.transactions.save (TransactionStorage.transactionMDB transaction'))
    refine balanced.save (TransactionStorage.transactionMDB transaction') rfl ?_ ?_ ?_
    · intro _
      have sameTotal := sameTotal_transactionMDB (same.stop.trans running)
      refine ⟨?_, sameTotal.countsRegister counts, ?_⟩
      · obtain ⟨date', hdate', -⟩ := Register.time_final hdate (OCPPUtils.samples attempt.values)
        rw [sameTotal.register_eq, register, hdate']
        rfl
      · rw [TransactionStorage.id_transactionMDB, same.id, storedWh, if_pos rfl, sameTotal.total,
          before.stored, before.counts, counts, meterStart, register,
          (Register.total_bookAll_nil_eq_iff _ _).mpr raisesStandLast]
        ring
    · intro id other
      rw [TransactionStorage.id_transactionMDB, same.id] at other
      rw [storedWh, if_neg other, add_zero]
    · intro consumption mem
      rcases Collection.mem_saveAll mem with new | old
      · refine .inr ?_
        have hkey : consumption.key ∈ consumptions.map Consumption.key :=
          (energy_stored loop built).1 ▸ List.mem_map_of_mem new
        rw [TransactionStorage.id_transactionMDB, same.id]
        exact (prepareConsumptions_ok prepared).1.sameTransaction _ hkey
      · exact .inl old

end EvServer
