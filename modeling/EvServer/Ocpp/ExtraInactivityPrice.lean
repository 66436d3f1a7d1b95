import EvServer.Ocpp.FreedConnectors

/-!
# The price of a session and its extra inactivity

When the extra inactivity of a session is found out, its stop price becomes the running price.
A transaction that has been stopped is stored without a running price, and what is read is zero
until the pricing answers with an amount.  Where the pricing answers with none, the session loses
its price; where it answers, the price is the cumulated amount of the answer.
-/

namespace EvServer

/-- A session that has a stop price keeps one that is not less. -/
def Store.KeepsStopPrices (store store' : Store) : Prop :=
  ∀ id transaction stop, store.transactions.find id = some transaction →
    transaction.stop = some stop →
      ∃ transaction' stop', store'.transactions.find id = some transaction' ∧
        transaction'.stop = some stop' ∧ stop.price ≤ stop'.price

theorem Store.KeepsStopPrices.of_transactions_eq {store store' : Store}
    (same : store'.transactions = store.transactions) : store.KeepsStopPrices store' :=
  fun _ transaction stop found stopped => ⟨transaction, stop, same ▸ found, stopped, le_rfl⟩

theorem Store.KeepsStopPrices.refl (store : Store) : store.KeepsStopPrices store :=
  .of_transactions_eq rfl

/-- What the pricing answers about the end of a session. -/
def endSession (pricingImpl : Option PricingIntegration) (transaction : Transaction)
    (consumption : Consumption) : Option PricedConsumption :=
  pricingImpl.bind fun pricingImpl =>
    (pricingImpl.endSession transaction consumption).toOption.join

namespace OCPPService

/-- The session with its extra inactivity. -/
def withExtraInactivity (notification : StatusNotification) (timestamp : Timestamp)
    (stop : TransactionStop) (transaction : Transaction) : Transaction :=
  { transaction with
    stop := some
      { stop with
        extraInactivitySecs := extraInactivitySecs timestamp stop
        inactivityStatus := Utils.getInactivityStatusLevel notification.chargingStation
          transaction.connectorId
          (stop.totalInactivitySecs + extraInactivitySecs timestamp stop) } }

/-- The consumption of the extra inactivity of a session, where there is some to be found out. -/
def extraConsumption (notification : StatusNotification) (timestamp : Timestamp)
    (stop : TransactionStop) (transaction : Transaction) : Option Consumption :=
  if !stop.extraInactivityComputed && isFreed notification &&
      0 < extraInactivitySecs timestamp stop then
    OCPPUtils.buildExtraConsumptionInactivity
      (withExtraInactivity notification timestamp stop transaction) notification.lastConsumption
  else none

/-- Where a session has extra inactivity, the pricing answers with an amount that is not less
than the stop price, or else the running price is not less. -/
def PricesNoLess (notification : StatusNotification) (transaction : Transaction) : Prop :=
  ∀ timestamp ∈ notification.timestamp, ∀ stop ∈ transaction.stop,
    ∀ consumption ∈ extraConsumption notification timestamp stop transaction,
      stop.price ≤ ((endSession notification.pricingImpl
        (withExtraInactivity notification timestamp stop transaction) consumption).map
          PricedConsumption.cumulatedAmount).getD transaction.currentCumulatedPrice

instance (notification : StatusNotification) (transaction : Transaction) :
    Decidable (PricesNoLess notification transaction) :=
  inferInstanceAs (Decidable (∀ timestamp ∈ _, _))

end OCPPService

namespace OCPPUtils

/-- The running price of a session once its end has been priced. -/
theorem price_processTransactionPricing_end {pricingImpl : Option PricingIntegration}
    {transaction : Transaction} {consumption : Consumption} {priced : Transaction × Consumption}
    (h : processTransactionPricing pricingImpl transaction consumption .end = .ok priced) :
    priced.1.currentCumulatedPrice =
        ((endSession pricingImpl transaction consumption).map
          PricedConsumption.cumulatedAmount).getD transaction.currentCumulatedPrice ∧
      priced.1.stop = transaction.stop := by
  unfold processTransactionPricing at h
  cases pricingImpl with
  | none =>
      cases h
      exact ⟨rfl, rfl⟩
  | some pricingImpl =>
      obtain ⟨answer, hanswer, h⟩ := Outcome.bind_eq_ok.mp h
      unfold endSession
      rw [Option.bind_some, hanswer]
      cases answer with
      | none =>
          cases h
          exact ⟨rfl, rfl⟩
      | some priced =>
          cases h
          exact ⟨rfl, rfl⟩

end OCPPUtils

namespace OCPPService

variable {notification : StatusNotification} {transaction : Transaction} {stop : TransactionStop}

/-- The stop price once the extra inactivity is known. -/
theorem price_computeExtraInactivity {timestamp : Timestamp} {transaction' : Transaction}
    (unknown : stop.extraInactivityComputed = false)
    (h : computeExtraInactivity notification timestamp stop transaction = .ok transaction') :
    ∃ stop', transaction'.stop = some stop' ∧
      (stop.price ≤ stop'.price ↔
        ∀ consumption ∈ extraConsumption notification timestamp stop transaction,
          stop.price ≤ ((endSession notification.pricingImpl
            (withExtraInactivity notification timestamp stop transaction) consumption).map
              PricedConsumption.cumulatedAmount).getD transaction.currentCumulatedPrice) := by
  unfold computeExtraInactivity at h
  unfold extraConsumption
  rw [unknown, Bool.not_false, Bool.true_and]
  dsimp only at h
  cases freed : isFreed notification with
  | false =>
      rw [freed, if_neg Bool.false_ne_true, if_neg (lt_irrefl _)] at h
      rw [Bool.false_and, if_neg Bool.false_ne_true]
      cases h
      exact ⟨_, rfl, iff_of_true le_rfl fun _ mem => absurd mem (Option.not_mem_none _)⟩
  | true =>
      rw [freed, if_pos rfl] at h
      by_cases some : 0 < extraInactivitySecs timestamp stop
      · rw [if_pos some] at h
        rw [decide_eq_true some, Bool.and_self, if_pos rfl]
        obtain ⟨⟨ended, extra⟩, hpriced, rfl⟩ := Outcome.map_eq_ok.mp h
        change OCPPUtils.buildAndPriceExtraConsumptionInactivity _
          (withExtraInactivity notification timestamp stop transaction) _ = _ at hpriced
        unfold OCPPUtils.buildAndPriceExtraConsumptionInactivity at hpriced
        split at hpriced
        · rename_i none
          cases hpriced
          rw [none]
          exact ⟨_, rfl, iff_of_true le_rfl fun _ mem => absurd mem (Option.not_mem_none _)⟩
        · rename_i consumption built
          obtain ⟨⟨priced, consumption'⟩, hprice, hpriced⟩ := Outcome.bind_eq_ok.mp hpriced
          obtain ⟨price, stops⟩ := OCPPUtils.price_processTransactionPricing_end hprice
          dsimp only at price stops
          cases hpriced
          refine ⟨_, congrArg (Option.map _) stops, ?_⟩
          simp only [built, Option.mem_some_iff, forall_eq']
          rw [price]
          rfl
      · rw [if_neg some] at h
        rw [decide_eq_false some, Bool.and_false, if_neg Bool.false_ne_true]
        cases h
        exact ⟨_, rfl, iff_of_true le_rfl fun _ mem => absurd mem (Option.not_mem_none _)⟩

/-- The stop price of a session after the step that finds out its extra inactivity. -/
theorem price_checkAndComputeTransactionExtraInactivity {answer : Transaction × Bool}
    (stopped : transaction.stop = some stop)
    (h : checkAndComputeTransactionExtraInactivity notification transaction = .ok answer) :
    ∃ stop', answer.1.stop = some stop' ∧
      (stop.price ≤ stop'.price ↔ PricesNoLess notification transaction) ∧
      (answer.2 = false → answer.1 = transaction) := by
  unfold checkAndComputeTransactionExtraInactivity at h
  unfold PricesNoLess
  rw [stopped] at h ⊢
  cases time : notification.timestamp with
  | none =>
      rw [time] at h
      cases h
      exact ⟨stop, stopped, iff_of_true le_rfl fun _ mem => absurd mem (Option.not_mem_none _),
        fun _ => rfl⟩
  | some timestamp =>
      rw [time] at h
      simp only [Option.mem_some_iff, forall_eq']
      dsimp only at h
      cases known : stop.extraInactivityComputed with
      | true =>
          rw [known, if_pos rfl] at h
          cases h
          refine ⟨stop, stopped, iff_of_true le_rfl ?_, fun _ => rfl⟩
          unfold extraConsumption
          rw [known]
          exact fun _ mem => absurd mem (Option.not_mem_none _)
      | false =>
          rw [known, if_neg Bool.false_ne_true] at h
          obtain ⟨between, hbetween, h⟩ := Outcome.bind_eq_ok.mp h
          obtain ⟨stop', hstop', price⟩ := price_computeExtraInactivity known hbetween
          cases h
          exact ⟨_, congrArg (Option.map _) hstop', price, fun unchanged => by cases unchanged⟩

theorem stop_checkAndBillTransaction {billingImpl : Option BillingIntegration}
    {answer : Transaction × Bool × Bool}
    (h : checkAndBillTransaction billingImpl transaction = .ok answer) :
    answer.1.stop = transaction.stop := by
  unfold checkAndBillTransaction at h
  split at h
  · obtain ⟨billed, hbilled, h⟩ := Outcome.bind_eq_ok.mp h
    cases h
    have unbilled := OCPPUtils.unbilled_processTransactionBilling hbilled
    exact (congrArg Transaction.stop unbilled : _)
  · cases h
    rfl

/-- A step that says that the session has not been billed leaves it. -/
theorem eq_of_checkAndBillTransaction {billingImpl : Option BillingIntegration}
    {answer : Transaction × Bool × Bool}
    (h : checkAndBillTransaction billingImpl transaction = .ok answer)
    (unchanged : answer.2.1 = false) : answer.1 = transaction := by
  unfold checkAndBillTransaction at h
  split at h
  · obtain ⟨billed, hbilled, h⟩ := Outcome.bind_eq_ok.mp h
    cases h
    cases unchanged
  · cases h
    rfl

theorem transactions_saveExtraConsumption (database : Database) (extra : Option Consumption)
    (store : Store) :
    (saveExtraConsumption database extra store).2.transactions = store.transactions := by
  cases extra with
  | none => rfl
  | some consumption => exact (changes_saveConsumption database consumption store).1

/-- The stored price of a session after its completion. -/
theorem price_completeLastTransaction {context : NotificationContext} {store store' : Store}
    (found : store.transactions.find transaction.id = some transaction)
    (stopped : transaction.stop = some stop)
    (h : completeLastTransaction context notification transaction store = (.ok (), store')) :
    ∃ transaction' stop', store'.transactions.find transaction.id = some transaction' ∧
      transaction'.stop = some stop' ∧
      (stop.price ≤ stop'.price ↔ PricesNoLess notification transaction) := by
  obtain ⟨extra, -, h⟩ := Handler.ofExcept_bind_eq_ok.mp h
  obtain ⟨_, between, hextra, h⟩ := Handler.bind_apply_eq_ok.mp h
  obtain ⟨computed, hcomputed, h⟩ := Handler.ofExcept_bind_eq_ok.mp h
  obtain ⟨billed, hbilled, h⟩ := Handler.ofExcept_bind_eq_ok.mp h
  obtain ⟨ocpiUpdated, -, h⟩ := Handler.ofExcept_bind_eq_ok.mp h
  obtain ⟨oicpUpdated, -, h⟩ := Handler.ofExcept_bind_eq_ok.mp h
  obtain ⟨stop', hstop', price, same⟩ :=
    price_checkAndComputeTransactionExtraInactivity stopped hcomputed
  rw [← stop_checkAndBillTransaction hbilled] at hstop'
  have transactions : between.transactions = store.transactions := by
    have kept := transactions_saveExtraConsumption context.database extra store
    rw [hextra] at kept
    exact kept
  split at h
  · have sameID := (id_checkAndBillTransaction hbilled).trans
      (id_checkAndComputeTransactionExtraInactivity hcomputed)
    obtain ⟨-, rfl⟩ := Handler.write_eq_ok.mp h
    have saved : (between.transactions.save (TransactionStorage.transactionMDB billed.1)).find
        (TransactionStorage.transactionMDB billed.1).id = some _ := Collection.find_save_self
    rw [TransactionStorage.id_transactionMDB, sameID] at saved
    refine ⟨_, { stop' with priceUnit := billed.1.priceUnit }, saved, ?_, price⟩
    rw [TransactionStorage.stop_transactionMDB, hstop']
    rfl
  · -- Nothing has been found out, and the stored transaction stays.
    rename_i unchanged
    simp only [Bool.or_eq_true, not_or, Bool.not_eq_true] at unchanged
    cases h
    have notComputed := same unchanged.1.1.1
    have notBilled := eq_of_checkAndBillTransaction hbilled unchanged.1.1.2
    rw [notBilled, notComputed] at hstop'
    refine ⟨transaction, stop', ?_, hstop', price⟩
    rw [transactions]
    exact found

/-- The completion of a session keeps all stop prices when it keeps the one of the session. -/
theorem keepsStopPrices_iff_of_completeLastTransaction {context : NotificationContext}
    {store store' : Store}
    (found : store.transactions.find transaction.id = some transaction)
    (stopped : transaction.stop = some stop)
    (h : completeLastTransaction context notification transaction store = (.ok (), store')) :
    store.KeepsStopPrices store' ↔ PricesNoLess notification transaction := by
  obtain ⟨transaction', stop', found', stopped', price⟩ :=
    price_completeLastTransaction found stopped h
  have same := changes_completeLastTransaction context notification transaction store
  rw [h] at same
  constructor
  · intro keeps
    obtain ⟨other, otherStop, foundOther, stoppedOther, noLess⟩ :=
      keeps transaction.id transaction stop found stopped
    rw [found', Option.some.injEq] at foundOther
    rw [← foundOther, stopped', Option.some.injEq] at stoppedOther
    rw [← stoppedOther] at noLess
    exact price.mp noLess
  · intro pricesNoLess id other otherStop foundOther stoppedOther
    by_cases isIt : id = transaction.id
    · rw [isIt, found, Option.some.injEq] at foundOther
      rw [← foundOther, stopped, Option.some.injEq] at stoppedOther
      rw [isIt, ← stoppedOther]
      exact ⟨transaction', stop', found', stopped', price.mpr pricesNoLess⟩
    · refine ⟨other, otherStop, ?_, stoppedOther, le_rfl⟩
      rw [← foundOther]
      exact same.others id isIt

/-- A completion that throws has not saved the session. -/
theorem transactions_of_completeLastTransaction_error {context : NotificationContext}
    {store store' : Store} {error : String}
    (h : completeLastTransaction context notification transaction store = (.error error, store')) :
    store'.transactions = store.transactions := by
  rcases Handler.ofExcept_bind_eq_error.mp h with ⟨-, rfl⟩ | ⟨extra, -, h⟩
  · rfl
  have kept := transactions_saveExtraConsumption context.database extra store
  rcases Handler.bind_apply_eq_error.mp h with unsaved | ⟨_, between, saved, h⟩
  · rw [unsaved] at kept
    exact kept
  rw [saved] at kept
  rcases Handler.ofExcept_bind_eq_error.mp h with ⟨-, rfl⟩ | ⟨computed, -, h⟩
  · exact kept
  rcases Handler.ofExcept_bind_eq_error.mp h with ⟨-, rfl⟩ | ⟨billed, -, h⟩
  · exact kept
  rcases Handler.ofExcept_bind_eq_error.mp h with ⟨-, rfl⟩ | ⟨ocpiUpdated, -, h⟩
  · exact kept
  rcases Handler.ofExcept_bind_eq_error.mp h with ⟨-, rfl⟩ | ⟨oicpUpdated, -, h⟩
  · exact kept
  split at h
  · obtain ⟨-, rfl⟩ := Handler.write_eq_error.mp h
    exact kept
  · cases h

/-! ## The handler -/

section Handler

variable (context : NotificationContext) (chargingStation : ChargingStation)
  (statusNotification : OCPPStatusNotificationRequest) (connector : Connector) (store : Store)

/-- The last session of the connector, if the notification completes it, is not priced at less
than its stop price. -/
def PricesLastNoLess : Prop :=
  statusNotification.status = .available ∨ statusNotification.status = .preparing →
    ∀ lastTransaction ∈ TransactionStorage.getLastTransactionFromChargingStation store
        chargingStation.id connector.connectorId,
      PricesNoLess
        { chargingStation := chargingStation
          connectorStatus := connector.status
          status := statusNotification.status
          timestamp := statusNotification.timestamp
          pricingImpl := context.pricingImpl
          lastConsumption :=
            ConsumptionStorage.getLastTransactionConsumption store lastTransaction.id }
        lastTransaction

instance : Decidable
    (PricesLastNoLess context chargingStation statusNotification connector store) :=
  inferInstanceAs (Decidable (_ ∨ _ → ∀ lastTransaction ∈ _, _))

end Handler

/-- **Stop prices are kept** just when the last session of the connector is not priced at less;
a notification that is not handled to its end keeps them. -/
theorem keepsStopPrices_iff (context : NotificationContext) (chargingStation : ChargingStation)
    (statusNotification : OCPPStatusNotificationRequest) (connector : Connector) (store : Store) :
    (∀ left store', checkAndUpdateLastCompletedTransaction context chargingStation
        statusNotification connector store = (.ok left, store') →
      (store.KeepsStopPrices store' ↔
        PricesLastNoLess context chargingStation statusNotification connector store)) ∧
    ∀ error store', checkAndUpdateLastCompletedTransaction context chargingStation
        statusNotification connector store = (.error error, store') →
      store.KeepsStopPrices store' := by
  refine ⟨fun left store' h => ?_, fun error store' h => ?_⟩
  · unfold PricesLastNoLess
    rcases checkAndUpdateLastCompletedTransaction_cases h with
      ⟨none, -, rfl⟩ | ⟨status, lastTransaction, hlast, ⟨running, rfl, -⟩ | ⟨stopped, done⟩⟩
    · refine iff_of_true (.refl _) fun status lastTransaction mem => ?_
      rw [none status] at mem
      cases mem
    · simp only [hlast, Option.mem_some_iff, forall_eq', status, forall_const]
      refine iff_of_true (.refl _) ?_
      unfold PricesNoLess
      rw [running]
      exact fun _ _ _ mem => absurd mem (Option.not_mem_none _)
    · obtain ⟨completed, hcomplete, same⟩ := done
      obtain ⟨_, rfl, -⟩ := Outcome.map_eq_ok.mp same.symm
      obtain ⟨stop, stopped⟩ := Option.isSome_iff_exists.mp stopped
      obtain ⟨found, -⟩ := TransactionStorage.getLastTransactionFromChargingStation_eq_some hlast
      simp only [hlast, Option.mem_some_iff, forall_eq', status, forall_const]
      exact keepsStopPrices_iff_of_completeLastTransaction found stopped hcomplete
  · rcases checkAndUpdateLastCompletedTransaction_cases h with
      ⟨-, ok, -⟩ | ⟨-, lastTransaction, -, ⟨-, -, ok⟩ | ⟨-, completed, hcomplete, same⟩⟩
    · cases ok
    · cases ok
    · cases completed with
      | error _ =>
          exact .of_transactions_eq (transactions_of_completeLastTransaction_error hcomplete)
      | ok _ => cases same

/-! ## A session that loses its price -/

/-- A session that has stopped with a price of 5, in the form in which it is stored. -/
def pricedSession : Transaction where
  id := 71
  chargeBoxID := "cs6"
  connectorId := 1
  tagID := "tagL"
  meterStart := 0
  timestamp := 0
  stop := some
    { meterStop := 5000
      timestamp := 3600000
      tagID := "tagL"
      extraInactivityComputed := false
      stateOfCharge := 0
      signedData := ""
      totalConsumptionWh := 5000
      totalInactivitySecs := 0
      totalDurationSecs := 3600
      inactivityStatus := .info
      price := 5
      roundedPrice := 5
      priceUnit := some "EUR"
      pricingSource := none }

/-- The database with its only consumption. -/
def pricedSessionStore : Store where
  chargingStations := .empty
  transactions := ⟨[pricedSession], List.nodup_singleton _⟩
  consumptions :=
    ⟨[{ transactionId := 71
        connectorId := 1
        chargeBoxID := "cs6"
        startedAt := some 0
        endedAt := 3600000 }], List.nodup_singleton _⟩

/-- The connector becomes available a minute after the session has stopped, and nothing prices
that minute. -/
def completedSessionStore : Store :=
  (checkAndUpdateLastCompletedTransaction {} { id := "cs6" }
    { connectorId := 1, status := .available, timestamp := some 3660000 }
    { connectorId := 1, status := .finishing } pricedSessionStore).2

/-- The session has a price of 0 then. -/
theorem not_keepsStopPrices_pricedSession :
    (∃ left, checkAndUpdateLastCompletedTransaction {} { id := "cs6" }
        { connectorId := 1, status := .available, timestamp := some 3660000 }
        { connectorId := 1, status := .finishing } pricedSessionStore =
        (.ok left, completedSessionStore)) ∧
      (completedSessionStore.transactions.find 71).map
        (fun transaction => transaction.stop.map TransactionStop.price) = some (some 0) ∧
      ¬ pricedSessionStore.KeepsStopPrices completedSessionStore := by
  have price : (completedSessionStore.transactions.find 71).map
      (fun transaction => transaction.stop.map TransactionStop.price) = some (some 0) := by
    decide +kernel
  refine ⟨⟨_, rfl⟩, price, fun keeps => ?_⟩
  obtain ⟨transaction, stop, found, stopped, noLess⟩ := keeps 71 pricedSession _ rfl rfl
  rw [found, Option.map_some, stopped, Option.map_some, Option.some.injEq, Option.some.injEq]
    at price
  rw [price] at noLess
  revert noLess
  decide

end OCPPService

end EvServer
