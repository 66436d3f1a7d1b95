import EvServer.Lib.Query
import EvServer.Ocpp.ExtraInactivityPrice
import EvServer.Rest.OccupiedConnectors

/-!
# The extra inactivity of a session

When a connector becomes available, the time since the stop of its last session is added to the
session as extra inactivity, once, and is saved as a consumption of its own.

The session counts it from the inactivity of its stop, the consumption from that of the last
consumption, which says nothing of inactivity when the car has charged in it.  And what is
saved before a component fails stays, so that the same notification is processed again.
-/

namespace EvServer

/-! ## What is known of a session -/

namespace Store

/-- The stop part of a session; the unit of its price is written whenever it is saved. -/
def stopOf (store : Store) (id : ℕ) : Option TransactionStop :=
  ((store.transactions.find id).bind Transaction.stop).map fun stop =>
    { stop with priceUnit := none }

/-- The consumptions of a session. -/
def consumptionsOf (store : Store) (id : ℕ) : List Consumption :=
  store.consumptions.docs.filter fun consumption => consumption.transactionId = id

/-- The extra inactivity of a session is computed: its stop part changes, or its consumptions
do. -/
def ComputesExtraInactivity (id : ℕ) (store store' : Store) : Prop :=
  store'.stopOf id ≠ store.stopOf id ∨ store'.consumptionsOf id ≠ store.consumptionsOf id

/-- The extra inactivity of a session has been computed. -/
def KnowsExtraInactivity (id : ℕ) (store : Store) : Prop :=
  ∃ stop, store.stopOf id = some stop ∧ stop.extraInactivityComputed = true

/-- The inactivity of a session is at most its time, and a consumption that is saved carries
it. -/
def AddsUp (id : ℕ) (store store' : Store) : Prop :=
  ∃ stop, store'.stopOf id = some stop ∧ stop.extraInactivityComputed = true ∧
    stop.totalInactivitySecs + stop.extraInactivitySecs ≤ stop.totalDurationSecs ∧
    ∀ consumption ∈ store'.consumptionsOf id, consumption ∉ store.consumptionsOf id →
      consumption.totalInactivitySecs =
        some (stop.totalInactivitySecs + stop.extraInactivitySecs)

variable {store store' : Store} {id : ℕ}

theorem mem_consumptionsOf {consumption : Consumption} :
    consumption ∈ store.consumptionsOf id ↔
      consumption ∈ store.consumptions.docs ∧ consumption.transactionId = id := by
  rw [consumptionsOf, List.mem_filter, decide_eq_true_iff]

theorem not_computesExtraInactivity (stops : store'.stopOf id = store.stopOf id)
    (consumptions : store'.consumptionsOf id = store.consumptionsOf id) :
    ¬ ComputesExtraInactivity id store store' :=
  not_or.mpr ⟨not_not.mpr stops, not_not.mpr consumptions⟩

/-- A step computes the extra inactivity of a session where it is not known, and so that the
session adds up. -/
structure ComputesOnce (id : ℕ) (store store' : Store) : Prop where
  unknown : ComputesExtraInactivity id store store' → ¬ KnowsExtraInactivity id store
  addsUp : ComputesExtraInactivity id store store' → AddsUp id store store'

theorem ComputesOnce.of_same (stops : store'.stopOf id = store.stopOf id)
    (consumptions : store'.consumptionsOf id = store.consumptionsOf id) :
    ComputesOnce id store store' :=
  have same := not_computesExtraInactivity stops consumptions
  ⟨fun computes => absurd computes same, fun computes => absurd computes same⟩

/-- Nothing but the stations has changed afterwards. -/
theorem ComputesOnce.of_eq {between : Store} (once : ComputesOnce id store between)
    (transactions : store'.transactions = between.transactions)
    (consumptions : store'.consumptions = between.consumptions) : ComputesOnce id store store' := by
  have stops : store'.stopOf id = between.stopOf id := by rw [stopOf, stopOf, transactions]
  have saved : store'.consumptionsOf id = between.consumptionsOf id := by
    rw [consumptionsOf, consumptionsOf, consumptions]
  constructor
  · intro computes
    refine once.unknown ?_
    rwa [ComputesExtraInactivity, ← stops, ← saved]
  · intro computes
    unfold AddsUp
    rw [stops, saved]
    refine once.addsUp ?_
    rwa [ComputesExtraInactivity, ← stops, ← saved]

theorem ComputesOnce.refl (id : ℕ) (store : Store) : ComputesOnce id store store :=
  .of_same rfl rfl

/-- What is known stays known. -/
theorem ComputesOnce.knows (once : ComputesOnce id store store')
    (known : KnowsExtraInactivity id store) : KnowsExtraInactivity id store' := by
  have same : store'.stopOf id = store.stopOf id := by
    by_contra other
    exact once.unknown (.inl other) known
  unfold KnowsExtraInactivity
  rw [same]
  exact known

/-- A consumption of another session is saved. -/
theorem consumptionsOf_save {consumption : Consumption}
    (saved : store'.consumptions = store.consumptions.save consumption)
    (other : consumption.transactionId ≠ id) :
    store'.consumptionsOf id = store.consumptionsOf id := by
  unfold consumptionsOf
  rw [saved]
  exact Collection.filter_docs_save (c := store.consumptions) (fun key => decide (key.1 = id))
    (decide_eq_false other)

end Store

namespace OCPPService

/-! ## One notification -/

/-- The seconds that the notification adds to a session that has been stopped. -/
def addedSecs (notification : StatusNotification) (timestamp : Timestamp)
    (stop : TransactionStop) : ℤ :=
  if isFreed notification then extraInactivitySecs timestamp stop else 0

theorem addedSecs_nonneg (notification : StatusNotification) (timestamp : Timestamp)
    (stop : TransactionStop) : 0 ≤ addedSecs notification timestamp stop := by
  unfold addedSecs extraInactivitySecs
  split
  · exact le_max_right _ _
  · exact le_rfl

/-- What the last consumption says of the session agrees with its stop: the inactivity so far is
at most the time so far, and the consumption carries it. -/
structure AgreesWithLast (notification : StatusNotification) (timestamp : Timestamp)
    (stop : TransactionStop) (transaction : Transaction) : Prop where
  /-- The session is extended by the time that is added. -/
  extended : 0 < addedSecs notification timestamp stop → notification.lastConsumption.isSome →
    stop.totalInactivitySecs ≤ Utils.durationSecs stop.timestamp transaction.timestamp
  /-- The session keeps its duration when nothing is added or no consumption is saved. -/
  kept : ¬ (0 < addedSecs notification timestamp stop ∧ notification.lastConsumption.isSome) →
    stop.totalInactivitySecs + addedSecs notification timestamp stop ≤ stop.totalDurationSecs
  total : 0 < addedSecs notification timestamp stop →
    ∀ lastConsumption ∈ notification.lastConsumption,
      lastConsumption.totalInactivitySecs.getD 0 = stop.totalInactivitySecs

variable {notification : StatusNotification} {timestamp : Timestamp}
variable {transaction : Transaction} {stop : TransactionStop}

/-- The session with what the notification adds to its stop. -/
def extended (notification : StatusNotification) (timestamp : Timestamp) (stop : TransactionStop)
    (transaction : Transaction) : Transaction :=
  { transaction with
    stop := some
      { stop with
        extraInactivitySecs := addedSecs notification timestamp stop
        inactivityStatus := Utils.getInactivityStatusLevel notification.chargingStation
          transaction.connectorId
          (stop.totalInactivitySecs + addedSecs notification timestamp stop) } }

theorem computeExtraInactivity_eq (notification : StatusNotification) (timestamp : Timestamp)
    (stop : TransactionStop) (transaction : Transaction) :
    computeExtraInactivity notification timestamp stop transaction =
      if 0 < addedSecs notification timestamp stop then
        (OCPPUtils.buildAndPriceExtraConsumptionInactivity notification.pricingImpl
          (extended notification timestamp stop transaction)
            notification.lastConsumption).map Prod.fst
      else .ok { transaction with stop := some { stop with extraInactivitySecs := 0 } } := rfl

/-- The consumption is built and priced as the session is. -/
theorem extraInactivityConsumption_eq (stopped : transaction.stop = some stop)
    (time : notification.timestamp = some timestamp) :
    extraInactivityConsumption notification transaction =
      if stop.extraInactivityComputed ∨ addedSecs notification timestamp stop ≤ 0 then .ok none
      else
        (OCPPUtils.buildAndPriceExtraConsumptionInactivity notification.pricingImpl
          (extended notification timestamp stop transaction)
            notification.lastConsumption).map Prod.snd := by
  unfold extraInactivityConsumption
  rw [stopped, time]
  rfl

/-- What is saved of a consumption when it has been priced. -/
theorem consumption_processTransactionPricing {pricingImpl : Option PricingIntegration}
    {consumption : Consumption} {action : TransactionAction} {priced : Transaction × Consumption}
    (h : OCPPUtils.processTransactionPricing pricingImpl transaction consumption action =
      .ok priced) :
    priced.2.key = consumption.key ∧
      priced.2.totalInactivitySecs = consumption.totalInactivitySecs := by
  have same := OCPPUtils.unpriced_consumption_processTransactionPricing h
  constructor
  · change priced.2.unpriced.key = consumption.unpriced.key
    rw [same]
  · change priced.2.unpriced.totalInactivitySecs = consumption.unpriced.totalInactivitySecs
    rw [same]

/-- What pricing the extra inactivity makes of a stop, and the consumption that is saved. -/
theorem buildAndPriceExtraConsumptionInactivity_ok {pricingImpl : Option PricingIntegration}
    {lastConsumption : Option Consumption} {secs : ℤ} (pos : 0 < secs)
    (added : stop.extraInactivitySecs = secs) {answer : Transaction × Option Consumption}
    (h : OCPPUtils.buildAndPriceExtraConsumptionInactivity pricingImpl
      { transaction with stop := some stop } lastConsumption = .ok answer) :
    (lastConsumption = none ∧ answer = ({ transaction with stop := some stop }, none)) ∨
      ∃ last consumption stop', lastConsumption = some last ∧ answer.2 = some consumption ∧
        consumption.transactionId = last.transactionId ∧
        consumption.totalInactivitySecs = some (last.totalInactivitySecs.getD 0 + secs) ∧
        answer.1.stop = some stop' ∧
        stop'.totalInactivitySecs = stop.totalInactivitySecs ∧
        stop'.extraInactivitySecs = secs ∧
        stop'.totalDurationSecs =
          Utils.durationSecs stop.timestamp transaction.timestamp + secs := by
  have pos' : 0 < stop.extraInactivitySecs := by
    rw [added]
    exact_mod_cast pos
  unfold OCPPUtils.buildAndPriceExtraConsumptionInactivity at h
  cases lastConsumption with
  | none =>
      rw [OCPPUtils.buildExtraConsumptionInactivity] at h
      dsimp only at h
      rw [if_pos pos'] at h
      cases h
      exact .inl ⟨rfl, rfl⟩
  | some last =>
      rw [OCPPUtils.buildExtraConsumptionInactivity] at h
      dsimp only at h
      rw [if_pos pos', Option.map_some] at h
      obtain ⟨⟨priced, consumption⟩, hprice, h⟩ := Outcome.bind_eq_ok.mp h
      obtain ⟨sameKey, sameTotal⟩ := consumption_processTransactionPricing hprice
      have sameSession := OCPPUtils.sameSession_processTransactionPricing hprice
      have unpriced := OCPPUtils.unpriced_processTransactionPricing hprice
      have sameTime : priced.timestamp = transaction.timestamp :=
        (congrArg Transaction.timestamp unpriced : _)
      cases h
      refine .inr ⟨last, consumption, _, rfl, rfl, congrArg Prod.fst sameKey, ?_,
        congrArg (Option.map _) sameSession.stop, rfl, added, ?_⟩
      · rw [sameTotal, added]
      · dsimp only
        have ended : consumption.endedAt =
            stop.timestamp + Rounding.truncate (1000 * stop.extraInactivitySecs) :=
          congrArg Prod.snd sameKey
        have whole : Rounding.truncate (1000 * (secs : ℚ)) = 1000 * secs := by
          rw [← Rounding.truncate_intCast (1000 * secs)]
          push_cast
          rfl
        rw [ended, added, whole, sameTime, Utils.durationSecs, Utils.durationSecs]
        push_cast
        ring

/-- What the completion of a session makes of a stop whose extra inactivity is not known. -/
theorem stop_checkAndComputeTransactionExtraInactivity {answer : Transaction × Bool}
    (stopped : transaction.stop = some stop) (time : notification.timestamp = some timestamp)
    (unknown : stop.extraInactivityComputed = false)
    (h : checkAndComputeTransactionExtraInactivity notification transaction = .ok answer) :
    ∃ stop', answer.1.stop = some stop' ∧ stop'.extraInactivityComputed = true ∧
      stop'.totalInactivitySecs = stop.totalInactivitySecs ∧
      stop'.extraInactivitySecs = addedSecs notification timestamp stop ∧
      stop'.totalDurationSecs =
        if 0 < addedSecs notification timestamp stop ∧ notification.lastConsumption.isSome then
          Utils.durationSecs stop.timestamp transaction.timestamp +
            addedSecs notification timestamp stop
        else stop.totalDurationSecs := by
  unfold checkAndComputeTransactionExtraInactivity at h
  rw [stopped, time] at h
  dsimp only at h
  rw [unknown, if_neg Bool.false_ne_true] at h
  obtain ⟨between, hbetween, h⟩ := Outcome.bind_eq_ok.mp h
  cases h
  rw [computeExtraInactivity_eq] at hbetween
  by_cases pos : 0 < addedSecs notification timestamp stop
  · rw [if_pos pos] at hbetween
    obtain ⟨priced, hpriced, rfl⟩ := Outcome.map_eq_ok.mp hbetween
    rcases buildAndPriceExtraConsumptionInactivity_ok pos rfl hpriced with
      ⟨absent, rfl⟩ | ⟨last, consumption, stop', present, -, -, -, hstop', total, extra, duration⟩
    · refine ⟨_, rfl, rfl, rfl, rfl, (if_neg ?_).symm⟩
      rw [absent]
      exact fun both => Bool.false_ne_true both.2
    · refine ⟨_, congrArg (Option.map _) hstop', rfl, total, extra, ?_⟩
      rw [present, if_pos ⟨pos, rfl⟩]
      exact duration
  · rw [if_neg pos] at hbetween
    cases hbetween
    have none_added : addedSecs notification timestamp stop = 0 :=
      le_antisymm (not_lt.mp pos) (addedSecs_nonneg notification timestamp stop)
    refine ⟨_, rfl, rfl, rfl, ?_, (if_neg fun both => pos both.1).symm⟩
    rw [none_added]
    rfl

/-- The consumption that the extra inactivity is saved as. -/
theorem extraInactivityConsumption_ok {extra : Option Consumption}
    (stopped : transaction.stop = some stop) (time : notification.timestamp = some timestamp)
    (h : extraInactivityConsumption notification transaction = .ok extra) :
    ∀ consumption ∈ extra, stop.extraInactivityComputed = false ∧
      0 < addedSecs notification timestamp stop ∧
      ∃ last, notification.lastConsumption = some last ∧
        consumption.transactionId = last.transactionId ∧
        consumption.totalInactivitySecs =
          some (last.totalInactivitySecs.getD 0 + addedSecs notification timestamp stop) := by
  rw [extraInactivityConsumption_eq stopped time] at h
  split at h
  · cases h
    exact fun _ mem => absurd mem (Option.not_mem_none _)
  · rename_i more
    obtain ⟨unknown, pos⟩ := not_or.mp more
    have pos := not_le.mp pos
    obtain ⟨priced, hpriced, rfl⟩ := Outcome.map_eq_ok.mp h
    rcases buildAndPriceExtraConsumptionInactivity_ok pos rfl hpriced with
      ⟨-, rfl⟩ | ⟨last, consumption, -, present, hconsumption, sameID, total, -⟩
    · exact fun _ mem => absurd mem (Option.not_mem_none _)
    · rw [hconsumption]
      simp only [Option.mem_some_iff, forall_eq']
      exact ⟨Bool.eq_false_iff.mpr unknown, pos, last, present, sameID, total⟩

/-- Where the consumption can be priced, so can the session. -/
theorem exists_checkAndComputeTransactionExtraInactivity {consumption : Consumption}
    (stopped : transaction.stop = some stop) (time : notification.timestamp = some timestamp)
    (h : extraInactivityConsumption notification transaction = .ok (some consumption)) :
    ∃ computed, checkAndComputeTransactionExtraInactivity notification transaction =
      .ok computed := by
  rw [extraInactivityConsumption_eq stopped time] at h
  unfold checkAndComputeTransactionExtraInactivity
  rw [stopped, time]
  dsimp only
  split at h
  · cases h
  · rename_i more
    obtain ⟨unknown, pos⟩ := not_or.mp more
    obtain ⟨priced, hpriced, -⟩ := Outcome.map_eq_ok.mp h
    rw [if_neg unknown, computeExtraInactivity_eq, if_pos (not_le.mp pos), hpriced]
    exact ⟨_, rfl⟩

/-- To trigger the billing does not throw. -/
theorem exists_checkAndBillTransaction (billingImpl : Option BillingIntegration)
    (transaction : Transaction) :
    ∃ billed, checkAndBillTransaction billingImpl transaction = .ok billed := by
  unfold checkAndBillTransaction
  split
  · unfold OCPPUtils.processTransactionBilling
    split
    · exact ⟨_, rfl⟩
    · cases billingImpl with
      | none => exact ⟨_, rfl⟩
      | some billingImpl =>
          dsimp only
          split <;> exact ⟨_, rfl⟩
  · exact ⟨_, rfl⟩

theorem saveExtraConsumption_ok {database : Database} {extra : Option Consumption}
    {store store' : Store} (h : saveExtraConsumption database extra store = (.ok (), store')) :
    (extra = none ∧ store' = store) ∨
      ∃ consumption consumptionMDB, extra = some consumption ∧
        database .saveConsumption = .ok () ∧
        ConsumptionStorage.buildConsumptionMDB consumption = .ok consumptionMDB ∧
        store' = { store with consumptions := store.consumptions.save consumptionMDB } := by
  cases extra with
  | none =>
      cases h
      exact .inl ⟨rfl, rfl⟩
  | some consumption =>
      obtain ⟨consumptionMDB, built, h⟩ := Handler.ofExcept_bind_eq_ok.mp h
      obtain ⟨saves, rfl⟩ := Handler.write_eq_ok.mp h
      exact .inr ⟨consumption, consumptionMDB, rfl, saves, built, rfl⟩

theorem store_of_saveExtraConsumption_error {database : Database} {extra : Option Consumption}
    {store store' : Store} {error : String}
    (h : saveExtraConsumption database extra store = (.error error, store')) : store' = store := by
  cases extra with
  | none => cases h
  | some consumption =>
      rcases Handler.ofExcept_bind_eq_error.mp h with ⟨-, rfl⟩ | ⟨consumptionMDB, -, h⟩
      · rfl
      · exact (Handler.write_eq_error.mp h).2.symm

/-- The consumption is stored with the total that it has been built with. -/
theorem buildConsumptionMDB_ok {consumption consumptionMDB : Consumption}
    (h : ConsumptionStorage.buildConsumptionMDB consumption = .ok consumptionMDB) :
    consumptionMDB.transactionId = consumption.transactionId ∧
      consumptionMDB.totalInactivitySecs = some (consumption.totalInactivitySecs.getD 0) := by
  unfold ConsumptionStorage.buildConsumptionMDB at h
  split at h
  · cases h
  · cases h
    exact ⟨rfl, rfl⟩

/-! ## The completion of a session -/

section Completion

variable {context : NotificationContext} {store store' : Store}

/-- What is stored of a session once it has been completed. -/
theorem completeLastTransaction_ok
    (found : store.transactions.find transaction.id = some transaction)
    (stopped : transaction.stop = some stop)
    (h : completeLastTransaction context notification transaction store = (.ok (), store')) :
    ∃ extra computed, extraInactivityConsumption notification transaction = .ok extra ∧
      checkAndComputeTransactionExtraInactivity notification transaction = .ok computed ∧
      store'.stopOf transaction.id =
        computed.1.stop.map (fun stop => { stop with priceUnit := none }) ∧
      ((extra = none ∧ store'.consumptions = store.consumptions) ∨
        ∃ consumption consumptionMDB, extra = some consumption ∧
          ConsumptionStorage.buildConsumptionMDB consumption = .ok consumptionMDB ∧
          store'.consumptions = store.consumptions.save consumptionMDB) := by
  obtain ⟨extra, hextra, h⟩ := Handler.ofExcept_bind_eq_ok.mp h
  obtain ⟨_, between, hsaved, h⟩ := Handler.bind_apply_eq_ok.mp h
  obtain ⟨computed, hcomputed, h⟩ := Handler.ofExcept_bind_eq_ok.mp h
  obtain ⟨billed, hbilled, h⟩ := Handler.ofExcept_bind_eq_ok.mp h
  obtain ⟨ocpiUpdated, -, h⟩ := Handler.ofExcept_bind_eq_ok.mp h
  obtain ⟨oicpUpdated, -, h⟩ := Handler.ofExcept_bind_eq_ok.mp h
  have sameStop := stop_checkAndBillTransaction hbilled
  have consumptions : (extra = none ∧ between.consumptions = store.consumptions) ∨
      ∃ consumption consumptionMDB, extra = some consumption ∧
        ConsumptionStorage.buildConsumptionMDB consumption = .ok consumptionMDB ∧
        between.consumptions = store.consumptions.save consumptionMDB := by
    rcases saveExtraConsumption_ok hsaved with
      ⟨unsaved, rfl⟩ | ⟨consumption, consumptionMDB, hconsumption, -, built, rfl⟩
    · exact .inl ⟨unsaved, rfl⟩
    · exact .inr ⟨consumption, consumptionMDB, hconsumption, built, rfl⟩
  have transactions : between.transactions = store.transactions := by
    have kept := transactions_saveExtraConsumption context.database extra store
    rw [hsaved] at kept
    exact kept
  split at h
  · have sameID := (id_checkAndBillTransaction hbilled).trans
      (id_checkAndComputeTransactionExtraInactivity hcomputed)
    obtain ⟨-, rfl⟩ := Handler.write_eq_ok.mp h
    refine ⟨extra, computed, hextra, hcomputed, ?_, consumptions⟩
    have saved : (between.transactions.save (TransactionStorage.transactionMDB billed.1)).find
        (TransactionStorage.transactionMDB billed.1).id = some _ := Collection.find_save_self
    rw [TransactionStorage.id_transactionMDB, sameID] at saved
    unfold Store.stopOf
    rw [saved, Option.bind_some, TransactionStorage.stop_transactionMDB, sameStop, Option.map_map]
    rfl
  · -- Nothing has been found out, and the stored transaction stays.
    rename_i unchanged
    simp only [Bool.or_eq_true, not_or, Bool.not_eq_true] at unchanged
    cases h
    obtain ⟨-, -, -, same⟩ := price_checkAndComputeTransactionExtraInactivity stopped hcomputed
    refine ⟨extra, computed, hextra, hcomputed, ?_, consumptions⟩
    unfold Store.stopOf
    rw [transactions, found, same unchanged.1.1.1]
    rfl

/-- The components that a session is reported to answer, and it can be saved. -/
structure CompletesSessions (context : NotificationContext) : Prop where
  ocpi : ∀ transaction, ∃ updated, context.sendOCPITransactionCdr transaction = .ok updated
  oicp : ∀ transaction, ∃ updated, context.sendOICPTransactionCdr transaction = .ok updated
  saves : context.database .saveTransaction = .ok ()

/-- The notification and the station can be saved. -/
structure SavesStations (context : NotificationContext) : Prop where
  notification : context.saveStatusNotification = .ok ()
  station : context.database .saveChargingStation = .ok ()

/-- **The condition on a notification** that completes a session: what is saved agrees with the
session, and nothing fails after something has been saved. -/
structure CompletesAsWhole (context : NotificationContext) (notification : StatusNotification)
    (transaction : Transaction) : Prop where
  agrees : ∀ timestamp ∈ notification.timestamp, ∀ stop ∈ transaction.stop,
    stop.extraInactivityComputed = false →
      AgreesWithLast notification timestamp stop transaction
  completes : ∀ consumption,
    extraInactivityConsumption notification transaction = .ok (some consumption) →
      context.database .saveConsumption = .ok () → CompletesSessions context
  saves : SavesStations context

/-- A completion that throws has saved nothing. -/
theorem store_of_completeLastTransaction_error (stopped : transaction.stop = some stop)
    (time : notification.timestamp = some timestamp)
    (whole : CompletesAsWhole context notification transaction) {error : String}
    (h : completeLastTransaction context notification transaction store =
      (.error error, store')) : store' = store := by
  rcases Handler.ofExcept_bind_eq_error.mp h with ⟨-, rfl⟩ | ⟨extra, hextra, h⟩
  · rfl
  rcases Handler.bind_apply_eq_error.mp h with unsaved | ⟨_, between, saved, h⟩
  · exact store_of_saveExtraConsumption_error unsaved
  have rest : store' = between ∧ (CompletesSessions context →
      ∃ error, checkAndComputeTransactionExtraInactivity notification transaction =
        .error error) := by
    rcases Handler.ofExcept_bind_eq_error.mp h with ⟨failed, rfl⟩ | ⟨computed, -, h⟩
    · exact ⟨rfl, fun _ => ⟨_, failed⟩⟩
    rcases Handler.ofExcept_bind_eq_error.mp h with ⟨failed, rfl⟩ | ⟨billed, -, h⟩
    · obtain ⟨billed, hbilled⟩ := exists_checkAndBillTransaction context.billingImpl computed.1
      rw [hbilled] at failed
      cases failed
    rcases Handler.ofExcept_bind_eq_error.mp h with ⟨failed, rfl⟩ | ⟨ocpiUpdated, -, h⟩
    · refine ⟨rfl, fun completes => ?_⟩
      obtain ⟨updated, answered⟩ := completes.ocpi billed.1
      rw [answered] at failed
      cases failed
    rcases Handler.ofExcept_bind_eq_error.mp h with ⟨failed, rfl⟩ | ⟨oicpUpdated, -, h⟩
    · refine ⟨rfl, fun completes => ?_⟩
      obtain ⟨updated, answered⟩ := completes.oicp billed.1
      rw [answered] at failed
      cases failed
    split at h
    · obtain ⟨failed, rfl⟩ := Handler.write_eq_error.mp h
      refine ⟨rfl, fun completes => ?_⟩
      rw [completes.saves] at failed
      cases failed
    · cases h
  obtain ⟨rfl, fails⟩ := rest
  rcases saveExtraConsumption_ok saved with ⟨-, same⟩ | ⟨consumption, -, rfl, saves, -⟩
  · exact same
  · obtain ⟨_, failed⟩ := fails (whole.completes consumption hextra saves)
    obtain ⟨computed, hcomputed⟩ :=
      exists_checkAndComputeTransactionExtraInactivity stopped time hextra
    rw [hcomputed] at failed
    cases failed

/-- The completion computes the extra inactivity of its session once. -/
theorem computesOnce_completeLastTransaction
    (found : store.transactions.find transaction.id = some transaction)
    (stopped : transaction.stop = some stop) (time : notification.timestamp = some timestamp)
    (agrees : stop.extraInactivityComputed = false →
      AgreesWithLast notification timestamp stop transaction)
    (h : completeLastTransaction context notification transaction store = (.ok (), store')) :
    store.ComputesOnce transaction.id store' := by
  obtain ⟨extra, computed, hextra, hcomputed, stops, consumptions⟩ :=
    completeLastTransaction_ok found stopped h
  have extraOnly := extraInactivityConsumption_ok stopped time hextra
  have before : store.stopOf transaction.id = some { stop with priceUnit := none } := by
    unfold Store.stopOf
    rw [found, Option.bind_some, stopped]
    rfl
  cases known : stop.extraInactivityComputed with
  | true =>
      have same : computed.1 = transaction := by
        unfold checkAndComputeTransactionExtraInactivity at hcomputed
        rw [stopped, time] at hcomputed
        dsimp only at hcomputed
        rw [if_pos known] at hcomputed
        cases hcomputed
        rfl
      rw [same, stopped] at stops
      refine .of_same (stops.trans before.symm) ?_
      rcases consumptions with ⟨-, same⟩ | ⟨consumption, -, rfl, -⟩
      · exact congrArg (List.filter _ ∘ Collection.docs) same
      · obtain ⟨unknown, -⟩ := extraOnly consumption rfl
        rw [known] at unknown
        cases unknown
  | false =>
      obtain ⟨stop', hstop', isComputed, total, added, duration⟩ :=
        stop_checkAndComputeTransactionExtraInactivity stopped time known hcomputed
      rw [hstop'] at stops
      constructor
      · rintro - ⟨stop'', hstop'', known'⟩
        rw [before, Option.some.injEq] at hstop''
        rw [← hstop''] at known'
        rw [known'] at known
        cases known
      · intro _
        have agrees := agrees known
        refine ⟨_, stops, isComputed, ?_, fun consumption mem new => ?_⟩
        · show stop'.totalInactivitySecs + stop'.extraInactivitySecs ≤ stop'.totalDurationSecs
          rw [total, added, duration]
          split
          · rename_i both
            have bounded := agrees.extended both.1 both.2
            linarith
          · rename_i notBoth
            exact agrees.kept notBoth
        · show consumption.totalInactivitySecs =
            some (stop'.totalInactivitySecs + stop'.extraInactivitySecs)
          rw [Store.mem_consumptionsOf] at mem new
          rcases consumptions with ⟨-, same⟩ | ⟨extraConsumption, consumptionMDB, rfl, built, same⟩
          · rw [same] at mem
            exact absurd mem new
          · rw [same] at mem
            rcases Collection.mem_save mem.1 with rfl | old
            · obtain ⟨-, pos, last, present, -, sameTotal⟩ := extraOnly extraConsumption rfl
              rw [(buildConsumptionMDB_ok built).2, sameTotal, Option.getD_some,
                agrees.total pos last present, total, added]
            · exact absurd ⟨old, mem.2⟩ new

/-- It computes that of no other session. -/
theorem computesOnce_completeLastTransaction_of_ne {id : ℕ} (ne : id ≠ transaction.id)
    (found : store.transactions.find transaction.id = some transaction)
    (stopped : transaction.stop = some stop) (time : notification.timestamp = some timestamp)
    (own : ∀ last ∈ notification.lastConsumption, last.transactionId = transaction.id)
    (h : completeLastTransaction context notification transaction store = (.ok (), store')) :
    store.ComputesOnce id store' := by
  obtain ⟨extra, computed, hextra, -, -, consumptions⟩ :=
    completeLastTransaction_ok found stopped h
  have same := changes_completeLastTransaction context notification transaction store
  rw [h] at same
  refine .of_same ?_ ?_
  · unfold Store.stopOf
    rw [same.others id ne]
  · rcases consumptions with ⟨-, same⟩ | ⟨consumption, consumptionMDB, rfl, built, same⟩
    · exact congrArg (List.filter _ ∘ Collection.docs) same
    · obtain ⟨-, -, last, present, sameID, -⟩ :=
        extraInactivityConsumption_ok stopped time hextra consumption rfl
      have isOwn : consumptionMDB.transactionId = transaction.id := by
        rw [(buildConsumptionMDB_ok built).1, sameID, own last present]
      exact Store.consumptionsOf_save same (isOwn ▸ ne.symm)

end Completion

/-! ## The handler -/

/-- The notification completes the last session of the connector as a whole, if it does. -/
def CompletesLast (context : NotificationContext) (chargingStation : ChargingStation)
    (statusNotification : OCPPStatusNotificationRequest) (connector : Connector) (store : Store) :
    Prop :=
  statusNotification.status = .available ∨ statusNotification.status = .preparing →
    ∀ lastTransaction ∈ TransactionStorage.getLastTransactionFromChargingStation store
        chargingStation.id connector.connectorId,
      lastTransaction.stop.isSome →
        CompletesAsWhole context
          (lastNotification context chargingStation statusNotification connector store
            lastTransaction) lastTransaction

section Handler

variable {context : NotificationContext} {chargingStation : ChargingStation}
variable {statusNotification : OCPPStatusNotificationRequest} {connector : Connector}
variable {store between : Store}

/-- What the completion of the last session of a connector leaves: nothing has been saved, or
it has been saved as a whole. -/
structure LeavesWhole (context : NotificationContext) (chargingStation : ChargingStation)
    (store : Store) (result : Except String ChargingStation) (between : Store) : Prop where
  once : ∀ id, store.ComputesOnce id between
  saves : between = store ∨ ∃ left, result = .ok left ∧ SavesStations context
  left : ∀ left, result = .ok left →
    left = chargingStation ∨
      ∃ connectorId, left =
        OCPPUtils.clearChargingStationConnectorRuntimeData chargingStation connectorId

theorem leavesWhole_checkAndUpdateLastCompletedTransaction
    (time : statusNotification.timestamp.isSome)
    (whole : CompletesLast context chargingStation statusNotification connector store) :
    ∀ result, checkAndUpdateLastCompletedTransaction context chargingStation statusNotification
        connector store = (result, between) →
      LeavesWhole context chargingStation store result between := by
  intro result h
  obtain ⟨timestamp, time⟩ := Option.isSome_iff_exists.mp time
  rcases checkAndUpdateLastCompletedTransaction_cases h with
    ⟨-, rfl, rfl⟩ | ⟨status, lastTransaction, hlast, ⟨-, rfl, rfl⟩ | ⟨stopped, done⟩⟩
  · exact ⟨fun id => .refl id _, .inl rfl, fun left same => .inl (Except.ok.inj same).symm⟩
  · exact ⟨fun id => .refl id _, .inl rfl, fun left same => .inr ⟨_, (Except.ok.inj same).symm⟩⟩
  obtain ⟨completed, hcomplete, rfl⟩ := done
  have whole := whole status lastTransaction hlast stopped
  obtain ⟨stop, stopped⟩ := Option.isSome_iff_exists.mp stopped
  obtain ⟨found, -⟩ := TransactionStorage.getLastTransactionFromChargingStation_eq_some hlast
  have own : ∀ last ∈ (lastNotification context chargingStation statusNotification connector store
      lastTransaction).lastConsumption, last.transactionId = lastTransaction.id := fun last mem =>
    of_decide_eq_true (List.mem_filter.mp (mem_of_latest mem)).2
  cases completed with
  | error error =>
      rw [store_of_completeLastTransaction_error stopped time whole hcomplete]
      exact ⟨fun id => .refl id _, .inl rfl, fun left same => by cases same⟩
  | ok _ =>
      refine ⟨fun id => ?_, .inr ⟨_, rfl, whole.saves⟩, fun left same =>
        .inr ⟨_, (Except.ok.inj same).symm⟩⟩
      by_cases isIt : id = lastTransaction.id
      · rw [isIt]
        exact computesOnce_completeLastTransaction found stopped time
          (whole.agrees timestamp time stop stopped) hcomplete
      · exact computesOnce_completeLastTransaction_of_ne isIt found stopped time own hcomplete

/-! ## The station that is saved -/

theorem isSome_find?_updateConnector {f : Connector → Connector} {updated : ℕ}
    (keeps : ∀ connector, connector.connectorId = updated → (f connector).connectorId = updated)
    (connectorID : ℕ) (connectors : List Connector) :
    ((OCPPUtils.updateConnector updated f connectors).find?
        fun connector => connector.connectorId = connectorID).isSome =
      (connectors.find? fun connector => connector.connectorId = connectorID).isSome := by
  rw [OCPPUtils.find?_updateConnector keeps, Option.isSome_map]

/-- The connector of a notification is one of the station. -/
theorem reported_checkAndGetConnector {reported : ChargingStation}
    (h : checkAndGetConnectorFromStatusNotification context chargingStation statusNotification =
      .ok (some (reported, connector))) :
    reported.id = chargingStation.id ∧
      connector.connectorId = statusNotification.connectorId ∧
      (Utils.getConnectorFromID reported statusNotification.connectorId).isSome := by
  obtain ⟨sameID, ⟨rfl, found⟩ | ⟨absent, added, hadded, enriched⟩⟩ := checkAndGetConnector_cases h
  · exact ⟨rfl, sameID, found ▸ rfl⟩
  have isAdded : added.id = chargingStation.id ∧
      (Utils.getConnectorFromID added statusNotification.connectorId).isSome := by
    have added := connectorId_addConnector chargingStation statusNotification.connectorId
    rw [← hadded]
    unfold Utils.getConnectorFromID
    unfold addConnector at added ⊢
    split at added <;> refine ⟨rfl, ?_⟩ <;>
      exact List.find?_isSome.mpr ⟨_, List.mem_append_right _ (List.mem_singleton_self _),
        decide_eq_true added⟩
  rcases enriched with rfl | ⟨template, chargePoints, rfl⟩
  · exact ⟨isAdded.1, sameID, isAdded.2⟩
  · refine ⟨isAdded.1, sameID, ?_⟩
    exact (isSome_find?_updateConnector (f := enrichConnector template)
      (fun _ same => same) _ added.connectors).trans isAdded.2

/-- The connector that is saved has the status of the notification. -/
theorem getConnectorFromID_updateConnectorFromStatusNotification
    (statusNotification : OCPPStatusNotificationRequest) (chargingStation : ChargingStation) :
    Utils.getConnectorFromID (updateConnectorFromStatusNotification statusNotification
        statusNotification.connectorId chargingStation) statusNotification.connectorId =
      (Utils.getConnectorFromID chargingStation statusNotification.connectorId).map
        (updateConnectorStatus statusNotification) := by
  refine (List.find?_insertionSort Connector.connectorId _ _).trans ?_
  refine (OCPPUtils.find?_updateConnector ?_ _ _).trans ?_
  · exact fun _ _ => rfl
  · rw [if_pos rfl]
    rfl

end Handler

end OCPPService

/-! ## Runs -/

/-- A status notification of a station, and the answers of the other components to it. -/
structure NotificationEvent where
  context : NotificationContext
  chargeBoxIdentity : String
  statusNotification : OCPPStatusNotificationRequest

namespace Store

open OCPPService

/-- The database after a notification. -/
def afterNotification (store : Store) (event : NotificationEvent) : Store :=
  (handleStatusNotification event.context (store.headers event.chargeBoxIdentity)
    event.statusNotification store).2

/-- The step relation. -/
def Notified (store : Store) (event : NotificationEvent) (store' : Store) : Prop :=
  store' = store.afterNotification event

/-- **The condition on a run**: a session that is completed is completed as a whole. -/
def CompletesWhole (store : Store) (event : NotificationEvent) : Prop :=
  ∀ chargingStation ∈ store.chargingStations.find event.chargeBoxIdentity,
    ∀ request, validateStatusNotification event.context event.statusNotification = .ok request →
      request.connectorId ≠ 0 →
        ∀ reported connector,
          checkAndGetConnectorFromStatusNotification event.context chargingStation request =
              .ok (some (reported, connector)) →
            CompletesLast event.context reported request connector store

/-- The connector of the notification has its status. -/
def HasProcessed (store : Store) (chargeBoxIdentity : String)
    (statusNotification : OCPPStatusNotificationRequest) : Prop :=
  ∃ chargingStation connector,
    store.chargingStations.find chargeBoxIdentity = some chargingStation ∧
      Utils.getConnectorFromID chargingStation statusNotification.connectorId = some connector ∧
      hasNotChanged statusNotification connector = true

variable {store store' : Store} {event : NotificationEvent}

/-- **A notification that has been processed** is ignored, whatever the components answer. -/
theorem afterNotification_of_hasProcessed
    (processed : store.HasProcessed event.chargeBoxIdentity event.statusNotification) :
    store.afterNotification event = store := by
  obtain ⟨chargingStation, connector, station, found, unchanged⟩ := processed
  unfold afterNotification handleStatusNotification
  rw [Handler.handle_snd]
  cases valid : validateStatusNotification event.context event.statusNotification with
  | error error => rfl
  | ok request =>
      have isValid := validateStatusNotification_ok valid
      have ignored : checkAndGetConnectorFromStatusNotification event.context chargingStation
          request = .ok none := by
        rw [checkAndGetConnectorFromStatusNotification, isValid]
        dsimp only
        rw [found]
        exact if_pos unchanged
      rw [Handler.ofExcept_ok_bind]
      dsimp only [headers]
      rw [station]
      dsimp only
      split
      · rfl
      · unfold processConnectorFromStatusNotification
        rw [ignored]
        rfl

/-- **The step lemma.** -/
theorem once_afterNotification (whole : store.CompletesWhole event) :
    (∀ id, store.ComputesOnce id (store.afterNotification event)) ∧
      (store.afterNotification event = store ∨
        (store.afterNotification event).HasProcessed event.chargeBoxIdentity
          event.statusNotification) := by
  generalize after : store.afterNotification event = store'
  have unchanged (same : store' = store) :
      (∀ id, store.ComputesOnce id store') ∧
        (store' = store ∨
          store'.HasProcessed event.chargeBoxIdentity event.statusNotification) :=
    ⟨fun id => same ▸ .refl id store, .inl same⟩
  rcases handleStatusNotification_cases after with
    same | ⟨chargingStation, request, reported, connector, result, between, station, valid, notZero,
      hfound, hlast, saved⟩
  · exact unchanged same
  have isValid := validateStatusNotification_ok valid
  have leaves := leavesWhole_checkAndUpdateLastCompletedTransaction (isValid ▸ rfl)
    (whole chargingStation station request valid notZero reported connector hfound) _ hlast
  rcases saved with ⟨same, notSaved⟩ | ⟨left, ok, rfl⟩
  · refine unchanged (same.trans ?_)
    rcases leaves.saves with same | ⟨left, ok, saves⟩
    · exact same
    · obtain ⟨error, failed⟩ := notSaved saves.notification saves.station
      cases failed.symm.trans ok
  · obtain ⟨sameStation, sameConnector, known⟩ := reported_checkAndGetConnector hfound
    refine ⟨fun id => (leaves.once id).of_eq rfl rfl, .inr ?_⟩
    have kept : left.id = event.chargeBoxIdentity ∧
        (Utils.getConnectorFromID left request.connectorId).isSome := by
      have sameID := sameStation.trans (Collection.key_of_find station)
      rcases leaves.left left ok with rfl | ⟨cleared, rfl⟩
      · exact ⟨sameID, known⟩
      · refine ⟨sameID, Eq.trans ?_ known⟩
        exact isSome_find?_updateConnector (f := OCPPUtils.clearRuntimeData)
          (fun _ same => same) _ _
    obtain ⟨sameID, there⟩ := kept
    obtain ⟨connector', hconnector'⟩ := Option.isSome_iff_exists.mp there
    refine ⟨updateConnectorFromStatusNotification request request.connectorId left,
      updateConnectorStatus request connector', ?_, ?_, ?_⟩
    · rw [← sameID]
      exact Collection.find_save_self
    · have updated := getConnectorFromID_updateConnectorFromStatusNotification request left
      rw [hconnector'] at updated
      rw [isValid] at updated ⊢
      exact updated
    · rw [isValid]
      simp [hasNotChanged, updateConnectorStatus]

/-- **The extra inactivity of a session.**  In every run whose notifications all meet the
condition it is computed once at most, the session adds up then, and a notification changes
nothing when it is processed again. -/
theorem extraInactivity_of_run (store : Store) :
    (∀ id, Transition.AtMostOnce (Transition.guarded CompletesWhole Notified)
      (ComputesExtraInactivity id) store) ∧
    ∀ events between event store',
      Transition.Run (Transition.guarded CompletesWhole Notified) store events between →
        Transition.guarded CompletesWhole Notified between event store' →
          (∀ id, ComputesExtraInactivity id between store' → AddsUp id between store') ∧
            store'.afterNotification event = store' ∧
            (store' ≠ between → ∀ context,
              store'.afterNotification { event with context := context } = store') := by
  have once {between store' : Store} {event : NotificationEvent}
      (step : Transition.guarded CompletesWhole Notified between event store') (id : ℕ) :
      between.ComputesOnce id store' := by
    obtain ⟨whole, rfl⟩ := step
    exact (once_afterNotification whole).1 id
  constructor
  · intro id
    have sets (between : Store) (event : NotificationEvent) (store' : Store)
        (step : Transition.guarded CompletesWhole Notified between event store')
        (computes : ComputesExtraInactivity id between store') :
        KnowsExtraInactivity id store' := by
      obtain ⟨stop, found, known, -⟩ := (once step id).addsUp computes
      exact ⟨stop, found, known⟩
    refine .of_flag sets ?_ ?_
    · exact fun between event store' known step => (once step id).knows known
    · exact fun between event store' known step computes =>
        (once step id).unknown computes known
  · intro events between event store' _ step
    refine ⟨fun id => (once step id).addsUp, ?_⟩
    obtain ⟨whole, rfl⟩ := step
    rcases (once_afterNotification whole).2 with same | processed
    · rw [same]
      exact ⟨same, fun other => absurd rfl other⟩
    · exact ⟨afterNotification_of_hasProcessed processed, fun _ context =>
        afterNotification_of_hasProcessed processed⟩

/-! ## A session with a pause -/

/-- A session of an hour, the first ten minutes of it without charging. -/
def pausedSession : Transaction where
  id := 81
  chargeBoxID := "CS-61"
  connectorId := 1
  tagID := "tagM"
  meterStart := 0
  timestamp := 0
  stop := some
    { meterStop := 5000
      timestamp := 3600000
      tagID := "tagM"
      extraInactivityComputed := false
      stateOfCharge := 0
      signedData := ""
      totalConsumptionWh := 5000
      totalInactivitySecs := 600
      totalDurationSecs := 3600
      inactivityStatus := .info
      price := 5
      roundedPrice := 5
      priceUnit := some "EUR"
      pricingSource := none }

/-- The session is over, and its last consumption has the total. -/
def pausedStore (totalInactivitySecs : ℚ) : Store where
  chargingStations :=
    ⟨[{ id := "CS-61", connectors := [{ connectorId := 1, status := .finishing }] }],
      List.nodup_singleton _⟩
  transactions := ⟨[pausedSession], List.nodup_singleton _⟩
  consumptions :=
    ⟨[{ transactionId := 81
        connectorId := 1
        chargeBoxID := "CS-61"
        startedAt := some 600000
        endedAt := 3600000
        totalInactivitySecs := some totalInactivitySecs }], List.nodup_singleton _⟩

/-- The connector becomes available a minute later. -/
def freedEvent : NotificationEvent where
  context := {}
  chargeBoxIdentity := "CS-61"
  statusNotification := { connectorId := 1, status := .available, timestamp := some 3660000 }

/-- Where the last consumption carries the ten minutes, the session is completed as a whole. -/
theorem completesWhole_pausedStore : (pausedStore 600).CompletesWhole freedEvent := by
  intro chargingStation station request valid _ reported connector found _ last hlast _
  cases station
  cases valid
  cases found
  cases hlast
  refine ⟨?_, fun _ _ _ => ⟨fun _ => ⟨false, rfl⟩, fun _ => ⟨false, rfl⟩, rfl⟩, ⟨rfl, rfl⟩⟩
  intro timestamp time stop stopped _
  cases time
  cases stopped
  exact ⟨by decide +kernel, by decide +kernel, by decide +kernel⟩

/-- The session has eleven minutes of inactivity then, and so has its last consumption. -/
theorem extraInactivity_of_run_pausedStore :
    ComputesExtraInactivity 81 (pausedStore 600)
        ((pausedStore 600).afterNotification freedEvent) ∧
      AddsUp 81 (pausedStore 600) ((pausedStore 600).afterNotification freedEvent) := by
  have computes : ComputesExtraInactivity 81 (pausedStore 600)
      ((pausedStore 600).afterNotification freedEvent) := .inl (by decide +kernel)
  exact ⟨computes, ((extraInactivity_of_run (pausedStore 600)).2 [] _ freedEvent _ .refl
    ⟨completesWhole_pausedStore, rfl⟩).1 81 computes⟩

/-- A car that has charged in its last consumption: that carries no inactivity, and the one that
is saved carries a minute of the eleven. -/
theorem not_addsUp_pausedStore :
    ∃ store', Transition.Run Notified (pausedStore 0) [freedEvent] store' ∧
      ComputesExtraInactivity 81 (pausedStore 0) store' ∧ ¬ AddsUp 81 (pausedStore 0) store' := by
  refine ⟨_, .single rfl, .inl (by decide +kernel), ?_⟩
  have total : (((pausedStore 0).afterNotification freedEvent).stopOf 81).map
      (fun stop => stop.totalInactivitySecs + stop.extraInactivitySecs) = some 660 := by
    decide +kernel
  have saved : ∃ consumption ∈ ((pausedStore 0).afterNotification freedEvent).consumptionsOf 81,
      consumption ∉ (pausedStore 0).consumptionsOf 81 ∧
        consumption.totalInactivitySecs = some 60 := by
    decide +kernel
  rintro ⟨stop, found, -, -, carries⟩
  obtain ⟨consumption, mem, new, carried⟩ := saved
  rw [found, Option.map_some, Option.some.injEq] at total
  rw [carries consumption mem new, total, Option.some.injEq] at carried
  revert carried
  decide

end Store

end EvServer
