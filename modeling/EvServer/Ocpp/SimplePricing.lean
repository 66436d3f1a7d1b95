import EvServer.Ocpp.StatusNotification

/-!
# Rebuilding the price of a transaction (`rebuildTransactionSimplePricing`)

The consumptions of a stopped transaction are priced once more, by the kWh, and its price is what
they add up to.  The rounded price is read from `currentCumulatedRoundedPrice`, which the rebuild
does not touch and which a stopped transaction is stored without.
-/

namespace EvServer

namespace Utils

/-- `Utils.computeSimplePrice`. -/
def computeSimplePrice (pricePerkWh consumptionWh : ℚ) : ℚ := pricePerkWh * consumptionWh / 1000

end Utils

/-- The answers of the other components while a transaction is rebuilt. -/
structure RebuildContext where
  database : Database := fun _ => .ok ()
  /-- `deleteMany` of the consumptions. -/
  deleteConsumptions : Except String Unit := .ok ()
  /-- `insertMany` of the consumptions. -/
  insertConsumptions : Except String Unit := .ok ()

namespace ConsumptionStorage

/-- The order of `{ startedAt: 1 }`; a consumption without a start comes first. -/
def StartsBefore (consumption consumption' : Consumption) : Prop :=
  ∀ started ∈ consumption.startedAt, ∃ started' ∈ consumption'.startedAt, started ≤ started'

instance : DecidableRel StartsBefore := fun consumption consumption' =>
  match h : consumption.startedAt, h' : consumption'.startedAt with
  | none, _ => isTrue (by simp [StartsBefore, h])
  | some _, none => isFalse (by simp [StartsBefore, h, h'])
  | some started, some started' =>
      decidable_of_iff (started ≤ started') (by simp [StartsBefore, h, h'])

instance : Std.Total StartsBefore where
  total consumption consumption' := by
    unfold StartsBefore
    cases consumption.startedAt <;> cases consumption'.startedAt <;> simp [le_total]

instance : IsTrans Consumption StartsBefore where
  trans consumption consumption' consumption'' := by
    unfold StartsBefore
    intro first second started mem
    obtain ⟨started', mem', le⟩ := first started mem
    obtain ⟨started'', mem'', le'⟩ := second started' mem'
    exact ⟨started'', mem'', le.trans le'⟩

/-- `ConsumptionStorage.getTransactionConsumptions`. -/
def getTransactionConsumptions (store : Store) (transactionId : ℕ) : List Consumption :=
  (store.consumptions.docs.filter fun consumption =>
    consumption.transactionId = transactionId).insertionSort StartsBefore

/-- `ConsumptionStorage.deleteConsumptions`. -/
def deleteConsumptions (outcome : Except String Unit) (transactionIDs : List ℕ) :
    StoreHandler Unit :=
  Handler.write outcome fun store =>
    { store with consumptions := store.consumptions.deleteMany fun key => key.1 ∈ transactionIDs }

/-- `ConsumptionStorage.saveConsumptions`; nothing at all cannot be inserted. -/
def saveConsumptions (outcome : Except String Unit) (consumptionsToSave : List Consumption) :
    StoreHandler Unit := do
  let consumptionsMDB ← Handler.ofExcept (consumptionsToSave.mapM buildConsumptionMDB)
  if consumptionsMDB.isEmpty then
    Handler.ofExcept (.error "MongoInvalidArgumentError: Invalid BulkOperation, Batch cannot be empty")
  else
    Handler.write outcome fun store =>
      { store with consumptions := store.consumptions.saveAll consumptionsMDB }

end ConsumptionStorage

namespace OCPPUtils

/-- The price that is used: the one that is given, or else the mean price of the transaction,
which is no number without energy and counts for nothing then. -/
def transactionSimplePricePerkWh (stop : TransactionStop) (pricePerkWh : Option ℚ) : ℚ :=
  if 0 < pricePerkWh.getD 0 then pricePerkWh.getD 0
  else Utils.roundTo (stop.price / (stop.totalConsumptionWh / 1000)) 2

/-- What a consumption costs. -/
def simpleAmount (pricePerkWh : ℚ) (consumption : Consumption) : ℚ :=
  Utils.computeSimplePrice pricePerkWh (consumption.consumptionWh.getD 0)

/-- The loop over the consumptions, with the price that they have cumulated so far. -/
def repriceConsumptions (pricePerkWh : ℚ) :
    (currentCumulatedPrice : ℚ) → List Consumption → ℚ × List Consumption
  | currentCumulatedPrice, [] => (currentCumulatedPrice, [])
  | currentCumulatedPrice, consumption :: rest =>
      let amount := simpleAmount pricePerkWh consumption
      let currentCumulatedPrice := currentCumulatedPrice + amount
      let repriced := repriceConsumptions pricePerkWh currentCumulatedPrice rest
      (repriced.1,
        { consumption with
          amount := some amount
          roundedAmount := some (Utils.truncTo amount 2)
          cumulatedAmount := some currentCumulatedPrice } :: repriced.2)

/-- The transaction after the rebuild. -/
def repriceTransaction (transaction : Transaction) (stop : TransactionStop)
    (currentCumulatedPrice : ℚ) : Transaction :=
  { transaction with
    currentCumulatedPrice := currentCumulatedPrice
    roundedPrice := Utils.truncTo transaction.price 2
    stop := some
      { stop with
        price := currentCumulatedPrice
        roundedPrice := transaction.currentCumulatedRoundedPrice } }

/-- `OCPPUtils.rebuildTransactionSimplePricing`. -/
def rebuildTransactionSimplePricing (context : RebuildContext) (transaction : Transaction)
    (pricePerkWh : Option ℚ) : StoreHandler Unit :=
  match transaction.stop with
  | none => Handler.ofExcept (.error s!"Transaction ID '{transaction.id}' is in progress")
  | some stop =>
      if stop.pricingSource ≠ some .simple then
        Handler.ofExcept
          (.error s!"Transaction ID '{transaction.id}' was not priced with simple pricing")
      else do
        let consumptions ← Handler.read fun store =>
          .ok (ConsumptionStorage.getTransactionConsumptions store transaction.id)
        let repriced :=
          repriceConsumptions (transactionSimplePricePerkWh stop pricePerkWh) 0 consumptions
        ConsumptionStorage.deleteConsumptions context.deleteConsumptions [transaction.id]
        ConsumptionStorage.saveConsumptions context.insertConsumptions repriced.2
        TransactionStorage.saveTransaction context.database
          (repriceTransaction transaction stop repriced.1)

/-! ## What the consumptions add up to -/

/-- The amount of a consumption. -/
def amountOf (consumption : Consumption) : ℚ := consumption.amount.getD 0

/-- The cumulated amount of each consumption is that of the one before and its own amount. -/
def Accumulates (start : ℚ) : List Consumption → Prop
  | [] => True
  | consumption :: rest =>
      consumption.cumulatedAmount.getD 0 = start + amountOf consumption ∧
        Accumulates (start + amountOf consumption) rest

/-- In terms of the consumptions before each of them. -/
theorem accumulates_iff {start : ℚ} {consumptions : List Consumption} :
    Accumulates start consumptions ↔ ∀ before consumption later,
      consumptions = before ++ consumption :: later →
        consumption.cumulatedAmount.getD 0 =
          start + ((before ++ [consumption]).map amountOf).sum := by
  induction consumptions generalizing start with
  | nil => simp [Accumulates]
  | cons first rest ih =>
      rw [Accumulates, ih]
      constructor
      · rintro ⟨sum, sums⟩ before consumption later split
        cases before with
        | nil =>
            cases split
            simpa using sum
        | cons other before =>
            cases split
            rw [sums before consumption later rfl]
            simp [add_assoc]
      · intro sums
        refine ⟨by simpa using sums [] first rest rfl, fun before consumption later split => ?_⟩
        rw [sums (first :: before) consumption later (by rw [split]; rfl)]
        simp [add_assoc]

variable {pricePerkWh : ℚ}

theorem fst_repriceConsumptions (start : ℚ) (consumptions : List Consumption) :
    (repriceConsumptions pricePerkWh start consumptions).1 =
      start + (consumptions.map (simpleAmount pricePerkWh)).sum := by
  induction consumptions generalizing start with
  | nil => simp [repriceConsumptions]
  | cons consumption rest ih =>
      rw [repriceConsumptions, List.map_cons, List.sum_cons, ← add_assoc]
      exact ih _

theorem amounts_repriceConsumptions (start : ℚ) (consumptions : List Consumption) :
    (repriceConsumptions pricePerkWh start consumptions).2.map amountOf =
      consumptions.map (simpleAmount pricePerkWh) := by
  induction consumptions generalizing start with
  | nil => rfl
  | cons consumption rest ih =>
      rw [repriceConsumptions, List.map_cons, List.map_cons]
      exact congrArg _ (ih _)

/-- **The loop accumulates.** -/
theorem accumulates_repriceConsumptions (start : ℚ) (consumptions : List Consumption) :
    Accumulates start (repriceConsumptions pricePerkWh start consumptions).2 := by
  induction consumptions generalizing start with
  | nil => trivial
  | cons consumption rest ih => exact ⟨rfl, ih _⟩

/-- The loop keeps when a consumption has started and what it is stored under. -/
theorem identity_repriceConsumptions (start : ℚ) (consumptions : List Consumption) :
    (repriceConsumptions pricePerkWh start consumptions).2.map
        (fun consumption => (consumption.startedAt, consumption.key)) =
      consumptions.map fun consumption => (consumption.startedAt, consumption.key) := by
  induction consumptions generalizing start with
  | nil => rfl
  | cons consumption rest ih =>
      rw [repriceConsumptions, List.map_cons, List.map_cons]
      exact congrArg _ (ih _)

/-- What is kept of a consumption when it is stored. -/
theorem stored_buildConsumptionMDB {consumption consumptionMDB : Consumption}
    (h : ConsumptionStorage.buildConsumptionMDB consumption = .ok consumptionMDB) :
    (consumptionMDB.startedAt, consumptionMDB.key) = (consumption.startedAt, consumption.key) ∧
      (amountOf consumptionMDB, consumptionMDB.cumulatedAmount.getD 0) =
        (amountOf consumption, consumption.cumulatedAmount.getD 0) := by
  unfold ConsumptionStorage.buildConsumptionMDB at h
  split at h
  · cases h
  · cases h
    exact ⟨rfl, rfl⟩

/-- The consumptions accumulate when their figures do. -/
theorem accumulates_congr {start : ℚ} {consumptions consumptions' : List Consumption}
    (same : consumptions'.map (fun consumption =>
        (amountOf consumption, consumption.cumulatedAmount.getD 0)) =
      consumptions.map fun consumption =>
        (amountOf consumption, consumption.cumulatedAmount.getD 0))
    (accumulates : Accumulates start consumptions) : Accumulates start consumptions' := by
  induction consumptions generalizing start consumptions' with
  | nil =>
      rw [List.map_nil, List.map_eq_nil_iff] at same
      rw [same]
      trivial
  | cons first rest ih =>
      obtain ⟨first', rest', rfl, figures, same⟩ := List.map_eq_cons_iff.mp same
      obtain ⟨amount, cumulated⟩ := Prod.mk.inj figures
      refine ⟨?_, ?_⟩
      · rw [cumulated, amount]
        exact accumulates.1
      · rw [amount]
        exact ih same accumulates.2

section Rebuilt

variable {context : RebuildContext} {transaction : Transaction} {store store' : Store}
variable {given : Option ℚ}

/-- **What a rebuild leaves.** -/
theorem rebuildTransactionSimplePricing_ok
    (h : rebuildTransactionSimplePricing context transaction given store = (.ok (), store')) :
    ∃ stop consumptionsMDB, transaction.stop = some stop ∧
      (repriceConsumptions (transactionSimplePricePerkWh stop given) 0
          (ConsumptionStorage.getTransactionConsumptions store transaction.id)).2.mapM
        ConsumptionStorage.buildConsumptionMDB = .ok consumptionsMDB ∧
      store' =
        { store with
          consumptions := (store.consumptions.deleteMany fun key =>
            key.1 ∈ [transaction.id]).saveAll consumptionsMDB
          transactions := store.transactions.save (TransactionStorage.transactionMDB
            (repriceTransaction transaction stop
              (repriceConsumptions (transactionSimplePricePerkWh stop given) 0
                (ConsumptionStorage.getTransactionConsumptions store transaction.id)).1)) } := by
  unfold rebuildTransactionSimplePricing at h
  cases stopped : transaction.stop with
  | none =>
      rw [stopped] at h
      cases h
  | some stop =>
    rw [stopped] at h
    dsimp only at h
    split at h
    · cases h
    · obtain ⟨consumptions, read, h⟩ := Handler.read_bind_eq_ok.mp h
      cases read
      obtain ⟨_, deleted, hdelete, h⟩ := Handler.bind_apply_eq_ok.mp h
      obtain ⟨-, rfl⟩ := Handler.write_eq_ok.mp hdelete
      obtain ⟨_, inserted, hinsert, h⟩ := Handler.bind_apply_eq_ok.mp h
      obtain ⟨consumptionsMDB, built, hinsert⟩ := Handler.ofExcept_bind_eq_ok.mp hinsert
      split at hinsert
      · cases hinsert
      · obtain ⟨-, rfl⟩ := Handler.write_eq_ok.mp hinsert
        obtain ⟨-, rfl⟩ := Handler.write_eq_ok.mp h
        exact ⟨stop, consumptionsMDB, rfl, built, rfl⟩

/-- The consumptions after a rebuild are those that it has stored, in their order. -/
theorem getTransactionConsumptions_rebuilt {consumptions consumptionsMDB : List Consumption}
    {transactionId : ℕ}
    (read : consumptions = ConsumptionStorage.getTransactionConsumptions store transactionId)
    (same : consumptionsMDB.map (fun consumption => (consumption.startedAt, consumption.key)) =
      consumptions.map fun consumption => (consumption.startedAt, consumption.key))
    (saved : store'.consumptions = (store.consumptions.deleteMany fun key =>
      key.1 ∈ [transactionId]).saveAll consumptionsMDB) :
    ConsumptionStorage.getTransactionConsumptions store' transactionId = consumptionsMDB := by
  have keys : consumptionsMDB.map Consumption.key = consumptions.map Consumption.key := by
    have keys := congrArg (List.map Prod.snd) same
    rwa [List.map_map, List.map_map] at keys
  have starts : consumptionsMDB.map Consumption.startedAt =
      consumptions.map Consumption.startedAt := by
    have starts := congrArg (List.map Prod.fst) same
    rwa [List.map_map, List.map_map] at starts
  have perm : consumptions.Perm (store.consumptions.docs.filter fun consumption =>
      consumption.transactionId = transactionId) := read ▸ List.perm_insertionSort _ _
  have ofTransaction : ∀ consumption ∈ consumptionsMDB,
      consumption.transactionId = transactionId := by
    intro consumption mem
    have memKey : consumption.key ∈ consumptions.map Consumption.key :=
      keys ▸ List.mem_map_of_mem mem
    obtain ⟨old, memOld, sameKey⟩ := List.mem_map.mp memKey
    have ofTransaction := of_decide_eq_true (List.mem_filter.mp (perm.mem_iff.mp memOld)).2
    exact (congrArg Prod.fst sameKey).symm.trans ofTransaction
  have nodup : (consumptionsMDB.map Consumption.key).Nodup := by
    rw [keys, (perm.map Consumption.key).nodup_iff]
    exact store.consumptions.nodup.sublist (List.filter_sublist.map _)
  have new : ∀ consumption ∈ consumptionsMDB, (store.consumptions.deleteMany fun key =>
      key.1 ∈ [transactionId]).find consumption.key = none := by
    intro consumption mem
    rw [Collection.find_deleteMany, if_pos]
    exact decide_eq_true (List.mem_singleton.mpr (ofTransaction consumption mem))
  have others : (store.consumptions.deleteMany fun key => key.1 ∈ [transactionId]).docs.filter
      (fun consumption => consumption.transactionId = transactionId) = [] := by
    refine List.filter_eq_nil_iff.mpr fun consumption mem => ?_
    have other := (Collection.mem_deleteMany.mp mem).2
    simpa [Consumption.key] using other
  have sorted : consumptionsMDB.Pairwise ConsumptionStorage.StartsBefore := by
    have sorted : consumptions.Pairwise ConsumptionStorage.StartsBefore :=
      read ▸ List.pairwise_insertionSort _ _
    -- The order is one of the starts.
    have ofStarts : ∀ l : List Consumption, l.Pairwise ConsumptionStorage.StartsBefore ↔
        (l.map Consumption.startedAt).Pairwise fun start start' =>
          ∀ started ∈ start, ∃ started' ∈ start', started ≤ started' := by
      intro l
      rw [List.pairwise_map]
      rfl
    rw [ofStarts, starts, ← ofStarts]
    exact sorted
  unfold ConsumptionStorage.getTransactionConsumptions
  rw [saved, Collection.docs_saveAll_of_new nodup new, List.filter_append, others, List.nil_append,
    List.filter_eq_self.mpr fun consumption mem => decide_eq_true (ofTransaction consumption mem)]
  exact sorted.insertionSort_eq

/-- What the consumptions of a transaction cost at the price that is used. -/
def rebuiltPrice (store : Store) (transaction : Transaction) (given : Option ℚ) : ℚ :=
  match transaction.stop with
  | none => 0
  | some stop =>
      ((ConsumptionStorage.getTransactionConsumptions store transaction.id).map
        (simpleAmount (transactionSimplePricePerkWh stop given))).sum

/-- The cumulated amount of each consumption of the transaction is the sum of the amounts up to it,
the price is what they add up to, and the rounded price is the price, truncated to cents as a
priced dimension is. -/
def IsRebuilt (store : Store) (transactionId : ℕ) : Prop :=
  ∃ transaction stop, store.transactions.find transactionId = some transaction ∧
    transaction.stop = some stop ∧
    (∀ before consumption later,
      ConsumptionStorage.getTransactionConsumptions store transactionId =
          before ++ consumption :: later →
        consumption.cumulatedAmount.getD 0 = ((before ++ [consumption]).map amountOf).sum) ∧
    stop.price =
      ((ConsumptionStorage.getTransactionConsumptions store transactionId).map amountOf).sum ∧
    stop.roundedPrice = Utils.truncTo stop.price 2

/-- **The rebuild** of a transaction is right just when its running rounded price happens to be the
new price in cents. -/
theorem isRebuilt_iff
    (h : rebuildTransactionSimplePricing context transaction given store = (.ok (), store')) :
    IsRebuilt store' transaction.id ↔
      transaction.currentCumulatedRoundedPrice =
        Utils.truncTo (rebuiltPrice store transaction given) 2 := by
  obtain ⟨stop, consumptionsMDB, stopped, built, rfl⟩ := rebuildTransactionSimplePricing_ok h
  set consumptions := ConsumptionStorage.getTransactionConsumptions store transaction.id
    with hconsumptions
  set price := transactionSimplePricePerkWh stop given with hprice
  have identity : consumptionsMDB.map (fun consumption => (consumption.startedAt, consumption.key)) =
      consumptions.map fun consumption => (consumption.startedAt, consumption.key) :=
    (Outcome.map_mapM_eq built fun _ _ _ stored => (stored_buildConsumptionMDB stored).1).trans
      (identity_repriceConsumptions 0 consumptions)
  have figures := Outcome.map_mapM_eq built fun _ _ _ stored => (stored_buildConsumptionMDB stored).2
  have amounts : consumptionsMDB.map amountOf = consumptions.map (simpleAmount price) := by
    have amounts := congrArg (List.map Prod.fst) figures
    rw [List.map_map, List.map_map] at amounts
    exact amounts.trans (amounts_repriceConsumptions 0 consumptions)
  have accumulates : Accumulates 0 consumptionsMDB :=
    accumulates_congr figures (accumulates_repriceConsumptions 0 consumptions)
  have total : rebuiltPrice store transaction given =
      (consumptions.map (simpleAmount price)).sum := by
    unfold rebuiltPrice
    rw [stopped]
  have cumulated : (repriceConsumptions price 0 consumptions).1 =
      (consumptions.map (simpleAmount price)).sum := by
    rw [fst_repriceConsumptions, zero_add]
  rw [total, cumulated]
  unfold IsRebuilt
  rw [getTransactionConsumptions_rebuilt hconsumptions identity rfl, amounts]
  have found : (store.transactions.save (TransactionStorage.transactionMDB
      (repriceTransaction transaction stop
        (consumptions.map (simpleAmount price)).sum))).find transaction.id =
      some (TransactionStorage.transactionMDB (repriceTransaction transaction stop
        (consumptions.map (simpleAmount price)).sum)) := by
    have self := @Collection.find_save_self _ _ _ _ store.transactions
      (TransactionStorage.transactionMDB (repriceTransaction transaction stop
        (consumptions.map (simpleAmount price)).sum))
    rwa [TransactionStorage.id_transactionMDB] at self
  constructor
  · rintro ⟨saved, savedStop, hsaved, hstop, -, -, rounded⟩
    rw [found] at hsaved
    cases hsaved
    rw [TransactionStorage.stop_transactionMDB] at hstop
    cases hstop
    exact rounded
  · intro rounded
    refine ⟨_, _, found, TransactionStorage.stop_transactionMDB _, ?_, rfl, rounded⟩
    intro before consumption later split
    exact (accumulates_iff.mp accumulates before consumption later split).trans (zero_add _)

end Rebuilt

/-! ## A rebuilt transaction -/

/-- A stopped transaction of half a kWh, in the form in which it is stored. -/
def simpleTransaction : Transaction where
  id := 7
  chargeBoxID := "cs"
  connectorId := 1
  tagID := "tag"
  meterStart := 0
  timestamp := 0
  stop := some
    { meterStop := 500
      timestamp := 120000
      tagID := "tag"
      extraInactivityComputed := true
      stateOfCharge := 0
      signedData := ""
      totalConsumptionWh := 500
      totalInactivitySecs := 0
      totalDurationSecs := 120
      inactivityStatus := .info
      price := 1 / 10
      roundedPrice := 1 / 10
      priceUnit := some "EUR"
      pricingSource := some .simple }

/-- A minute of it. -/
def simpleConsumption (startedAt endedAt : Timestamp) (consumptionWh : ℚ) : Consumption where
  transactionId := 7
  connectorId := 1
  chargeBoxID := "cs"
  startedAt := some startedAt
  endedAt := endedAt
  consumptionWh := some consumptionWh

/-- It is stored with two consumptions. -/
def simpleStore : Store where
  chargingStations := .empty
  transactions := ⟨[simpleTransaction], List.nodup_singleton _⟩
  consumptions :=
    ⟨[simpleConsumption 60000 120000 200, simpleConsumption 0 60000 300], by decide⟩

/-- The same transaction, with what its price of 0.15 is in cents. -/
def roundedTransaction : Transaction :=
  { simpleTransaction with currentCumulatedRoundedPrice := 15 / 100 }

/-- The database after a rebuild at 0.30 a kWh. -/
def rebuiltStore (transaction : Transaction) : Store :=
  (rebuildTransactionSimplePricing {} transaction (some (3 / 10)) simpleStore).2

/-- The rebuild is right when the rounded price is known. -/
theorem isRebuilt_roundedTransaction : IsRebuilt (rebuiltStore roundedTransaction) 7 := by
  have rebuilt : rebuildTransactionSimplePricing {} roundedTransaction (some (3 / 10)) simpleStore =
      (.ok (), rebuiltStore roundedTransaction) := rfl
  exact (isRebuilt_iff rebuilt).mpr (by decide +kernel)

/-- A rebuild of the transaction as it is stored: the price is 0.15, and the rounded price 0. -/
theorem not_isRebuilt_simpleTransaction :
    rebuildTransactionSimplePricing {} simpleTransaction (some (3 / 10)) simpleStore =
        (.ok (), rebuiltStore simpleTransaction) ∧
      (((rebuiltStore simpleTransaction).transactions.find 7).bind Transaction.stop).map
          (fun stop => (stop.price, stop.roundedPrice)) = some (3 / 20, 0) ∧
      ¬ IsRebuilt (rebuiltStore simpleTransaction) 7 := by
  have prices : (((rebuiltStore simpleTransaction).transactions.find 7).bind Transaction.stop).map
      (fun stop => (stop.price, stop.roundedPrice)) = some (3 / 20, 0) := by
    decide +kernel
  refine ⟨rfl, prices, ?_⟩
  rintro ⟨transaction, stop, found, stopped, -, -, rounded⟩
  rw [found, Option.bind_some, stopped, Option.map_some, Option.some.injEq, Prod.mk.injEq] at prices
  rw [prices.1, prices.2] at rounded
  exact absurd rounded (by decide +kernel)

end OCPPUtils

end EvServer
