import EvServer.Ocpp.StartHandler
import EvServer.Ocpp.TransactionIdentity

/-!
# The clean-up before a transaction starts

The header that the clean-up stops a transaction with has no charging station, so the
simulated `StopTransaction` fails before it reads anything, and a transaction with
consumption stays.  A connector with several of them has no active transaction as far as
`getActiveTransaction` is concerned, and they all stay.  What remains is the connector
with one transaction, which has no consumption: it is deleted.
-/

namespace EvServer

namespace OCPPService

/-! ## The loop -/

/-- Without a charging station in the header nothing is stopped. -/
theorem handleStopTransaction_of_no_station {context : StopContext} {headers : OCPPHeader}
    (h : headers.chargingStation = none) (stopTransaction : OCPPStopTransactionRequest)
    (isSoftStop isStoppedByCentralSystem : Bool) (store : Store) :
    handleStopTransaction context headers stopTransaction isSoftStop isStoppedByCentralSystem
      store = (.invalid, store) := by
  unfold handleStopTransaction checkStopTransaction OCPPValidation.validateStopTransaction
  rw [h]
  rfl

theorem simulateStopTransaction_apply (context : StopContext) (activeTransaction : Transaction)
    (store : Store) :
    simulateStopTransaction context activeTransaction store = (.ok (), store) := by
  unfold simulateStopTransaction
  rw [handleStopTransaction_of_no_station rfl]

/-- The store without the transaction. -/
def withoutTransaction (store : Store) (transactionID : ℕ) : Store :=
  { store with
    transactions := store.transactions.delete transactionID
    consumptions := store.consumptions.deleteMany fun key => key.1 = transactionID }

theorem activeTransactions_withoutTransaction (store : Store) (transactionID : ℕ)
    (chargeBoxID : String) (connectorId : ℕ) :
    (withoutTransaction store transactionID).activeTransactions chargeBoxID connectorId =
      (store.activeTransactions chargeBoxID connectorId).filter fun transaction =>
        transaction.id ≠ transactionID := by
  unfold withoutTransaction Store.activeTransactions Collection.delete Collection.deleteMany
  simp only [List.filter_filter]
  refine List.filter_congr fun transaction _ => ?_
  rw [Bool.and_comm]
  simp

theorem getActiveTransaction_eq_some_iff {store : Store} {chargeBoxID : String}
    {connectorId : ℕ} {transaction : Transaction} :
    TransactionStorage.getActiveTransaction store chargeBoxID connectorId = some transaction ↔
      store.activeTransactions chargeBoxID connectorId = [transaction] := by
  unfold TransactionStorage.getActiveTransaction
  split
  · rename_i only
    rw [only]
    simp
  · rename_i notOnly
    exact iff_of_false nofun (notOnly transaction)

section Turns

variable {context : StopContext} {connectorId fuel : ℕ} {last : Option ℕ}
variable {chargingStation : ChargingStation} {store : Store} {activeTransaction : Transaction}

theorem processExistingTransaction_of_none
    (h : TransactionStorage.getActiveTransaction store chargingStation.id connectorId = none) :
    processExistingTransaction context connectorId (fuel + 1) last chargingStation store =
      (.ok (some chargingStation), store) := by
  rw [processExistingTransaction,
    Handler.read_ok_bind (a := none) (by rw [h])]
  rfl

theorem processExistingTransaction_of_same
    (h : TransactionStorage.getActiveTransaction store chargingStation.id connectorId =
      some activeTransaction) :
    processExistingTransaction context connectorId (fuel + 1) (some activeTransaction.id)
      chargingStation store = (.ok (some chargingStation), store) := by
  rw [processExistingTransaction,
    Handler.read_ok_bind (a := some activeTransaction) (by rw [h])]
  dsimp only
  rw [if_pos rfl]
  rfl

/-- No transaction is left once the only one has been deleted. -/
theorem getActiveTransaction_withoutTransaction
    (h : TransactionStorage.getActiveTransaction store chargingStation.id connectorId =
      some activeTransaction) :
    TransactionStorage.getActiveTransaction (withoutTransaction store activeTransaction.id)
      chargingStation.id connectorId = none := by
  have only := getActiveTransaction_eq_some_iff.mp h
  unfold TransactionStorage.getActiveTransaction
  rw [activeTransactions_withoutTransaction, only]
  simp

end Turns

/-- The first turn of the loop decides what it does: it deletes at most one transaction, and
no other turn than the second follows. -/
theorem processExistingTransaction_apply (context : StopContext) (connectorId fuel : ℕ)
    (chargingStation : ChargingStation) (store : Store) :
    processExistingTransaction context connectorId (fuel + 2) none chargingStation store =
      match TransactionStorage.getActiveTransaction store chargingStation.id connectorId with
      | none => (.ok (some chargingStation), store)
      | some activeTransaction =>
          if activeTransaction.currentTotalConsumptionWh ≤ 0 then
            match context.database .deleteTransaction with
            | .error error => (.error error, store)
            | .ok _ =>
                (.ok (some (OCPPUtils.clearChargingStationConnectorRuntimeData chargingStation
                    activeTransaction.connectorId)),
                  withoutTransaction store activeTransaction.id)
          else (.ok (some chargingStation), store) := by
  cases active : TransactionStorage.getActiveTransaction store chargingStation.id connectorId with
  | none => exact processExistingTransaction_of_none active
  | some activeTransaction =>
    rw [processExistingTransaction,
      Handler.read_ok_bind (a := some activeTransaction) (by rw [active])]
    dsimp only
    rw [if_neg nofun]
    split
    · unfold TransactionStorage.deleteTransaction
      cases context.database .deleteTransaction with
      | error error => rfl
      | ok _ =>
        rw [Handler.write_ok_bind]
        exact processExistingTransaction_of_none (getActiveTransaction_withoutTransaction active)
    · rw [Handler.bind_apply_ok (simulateStopTransaction_apply context activeTransaction store)]
      exact processExistingTransaction_of_same active

/-! ## The new transaction -/

/-- A transaction that is created runs on the connector, under a new ID. -/
theorem checkStartTransaction_ok {context : StartContext} {headers : OCPPHeader}
    {startTransaction : OCPPStartTransactionRequest} {store : Store}
    {chargingStation : ChargingStation} {created : ChargingStation × Transaction}
    (station : headers.chargingStation = some chargingStation)
    (h : checkStartTransaction context headers startTransaction store = .ok created) :
    created.1 = chargingStation ∧ created.2.chargeBoxID = chargingStation.id ∧
      created.2.connectorId = startTransaction.connectorId ∧ created.2.stop = none ∧
      store.transactions.find created.2.id = none := by
  unfold checkStartTransaction at h
  rw [station] at h
  obtain ⟨validated, hvalid, h⟩ := Outcome.bind_eq_ok.mp h
  have sameConnector : (enrichStartTransaction context validated chargingStation).connectorId =
        startTransaction.connectorId ∧
      (enrichStartTransaction context validated chargingStation).chargeBoxID =
        chargingStation.id := by
    have connector : validated.connectorId = startTransaction.connectorId := by
      obtain ⟨_, -, hvalid⟩ := Outcome.bind_eq_ok.mp hvalid
      dsimp only at hvalid
      split at hvalid
      · cases hvalid
      · cases hvalid
        rfl
    unfold enrichStartTransaction
    dsimp only
    split <;> exact ⟨connector, rfl⟩
  obtain ⟨id, hid, h⟩ := Outcome.bind_eq_ok.mp h
  have new : store.transactions.find id = none := by
    unfold TransactionStorage.findAvailableID at hid
    split at hid
    · cases hid
    · rename_i found
      cases hid
      exact Option.isNone_iff_eq_none.mp
        (List.find?_some (p := fun id => (store.transactions.find id).isNone) found)
  obtain ⟨user, -, h⟩ := Outcome.bind_eq_ok.mp h
  cases user with
  | none =>
      cases h
      exact ⟨rfl, sameConnector.2, sameConnector.1, rfl, new⟩
  | some user =>
      cases h
      exact ⟨rfl, sameConnector.2, sameConnector.1, rfl, new⟩

/-- The charging station is that of the header. -/
theorem chargingStation_of_checkStartTransaction {context : StartContext} {headers : OCPPHeader}
    {startTransaction : OCPPStartTransactionRequest} {store : Store}
    {created : ChargingStation × Transaction}
    (h : checkStartTransaction context headers startTransaction store = .ok created) :
    headers.chargingStation = some created.1 := by
  cases station : headers.chargingStation with
  | none =>
      unfold checkStartTransaction at h
      rw [station] at h
      cases h
  | some chargingStation => rw [(checkStartTransaction_ok station h).1]

theorem startTransactionWith_ok {context : StartContext} {chargingStation : ChargingStation}
    {newTransaction started : Transaction}
    (h : startTransactionWith context chargingStation newTransaction = .ok started) :
    SameSession newTransaction started := by
  obtain ⟨stateOfCharge, _, _, _, _, _, hfirst, hpriced, hbilled⟩ := startTransactionWith_steps h
  have withSoc : SameSession newTransaction
      { newTransaction with stateOfCharge := stateOfCharge } := ⟨rfl, rfl, rfl, rfl⟩
  exact ((withSoc.trans (OCPPUtils.sameSession_createConsumptionFromMeterValue hfirst)).trans
    (OCPPUtils.sameSession_processTransactionPricing hpriced)).trans
    (OCPPUtils.sameSession_processTransactionBilling hbilled)

/-- A transaction is stored as a running one of its connector just when it is one. -/
theorem isActiveOn_transactionMDB (chargeBoxID : String) (connectorId : ℕ)
    (transaction : Transaction) :
    (TransactionStorage.transactionMDB transaction).isActiveOn chargeBoxID connectorId =
      transaction.isActiveOn chargeBoxID connectorId := by
  have stop := TransactionStorage.isSome_stop_transactionMDB transaction
  unfold Transaction.isActiveOn
  rw [← Option.not_isSome, stop, Option.not_isSome]
  unfold TransactionStorage.transactionMDB
  split <;> rfl

/-- **An accepted start** has cleaned up and has then saved the new transaction. -/
theorem handleStartTransaction_accepted {context : StartContext} {fuel : ℕ}
    {headers : OCPPHeader} {startTransaction : OCPPStartTransactionRequest}
    {store store' : Store} {chargingStation : ChargingStation} {id : ℕ}
    (station : headers.chargingStation = some chargingStation)
    (h : handleStartTransaction context fuel headers startTransaction store =
      ((id, .accepted), store')) :
    ∃ between cleanedUp newTransaction,
      processExistingTransaction context.stopContext startTransaction.connectorId fuel none
        chargingStation store = (.ok (some cleanedUp), between) ∧
      newTransaction.id = id ∧
      newTransaction.isActiveOn chargingStation.id startTransaction.connectorId ∧
      store.transactions.find id = none ∧
      store'.transactions = between.transactions.save newTransaction := by
  have ok := Handler.eq_ok_of_handle h (fun _ invalid => by cases invalid)
  obtain ⟨⟨station', newTransaction⟩, _, hread, ok⟩ := Handler.bind_apply_eq_ok.mp ok
  obtain ⟨hcheck, rfl⟩ := Handler.read_eq_ok.mp hread
  obtain ⟨sameStation, box, connector, running, new⟩ := checkStartTransaction_ok station hcheck
  cases sameStation
  obtain ⟨cleanedUp, between, hclean, ok⟩ := Handler.bind_apply_eq_ok.mp ok
  cases cleanedUp with
  | none => cases ok
  | some cleanedUp =>
    obtain ⟨started, _, hstart, ok⟩ := Handler.bind_apply_eq_ok.mp ok
    obtain ⟨hstarted, rfl⟩ := Handler.ofExcept_eq_ok.mp hstart
    have same := startTransactionWith_ok hstarted
    obtain ⟨_, _, hsave, ok⟩ := Handler.bind_apply_eq_ok.mp ok
    obtain ⟨-, rfl⟩ := Handler.write_eq_ok.mp hsave
    obtain ⟨_, _, hstation, ok⟩ := Handler.bind_apply_eq_ok.mp ok
    obtain ⟨-, rfl⟩ := Handler.write_eq_ok.mp hstation
    cases ok
    refine ⟨between, cleanedUp, TransactionStorage.transactionMDB started, hclean,
      TransactionStorage.id_transactionMDB started, ?_, ?_, rfl⟩
    · rw [isActiveOn_transactionMDB, Transaction.isActiveOn, same.chargeBoxID, box,
        same.connectorId, connector, same.stop, running]
      simp
    · rw [same.id]
      exact new

/-! ## What a start leaves -/

/-- Where a start ends, and what is stored then. -/
inductive StartOutcome (context : StartContext) (fuel : ℕ) (headers : OCPPHeader)
    (startTransaction : OCPPStartTransactionRequest) (store : Store) : Store → Prop
  /-- The checks or the clean-up fail. -/
  | rejected : StartOutcome context fuel headers startTransaction store store
  /-- The transaction is not saved after the clean-up. -/
  | cleanedUp {chargingStation cleanedUp : ChargingStation} {newTransaction : Transaction}
      {between : Store} :
      checkStartTransaction context headers startTransaction store =
        .ok (chargingStation, newTransaction) →
      processExistingTransaction context.stopContext startTransaction.connectorId fuel none
        chargingStation store = (.ok (some cleanedUp), between) →
      (∀ started, startTransactionWith context cleanedUp newTransaction = .ok started →
        context.stopContext.database .saveTransaction ≠ .ok ()) →
      StartOutcome context fuel headers startTransaction store between
  /-- The transaction is saved, but not the charging station. -/
  | saved {chargingStation cleanedUp : ChargingStation} {newTransaction started : Transaction}
      {between : Store} :
      checkStartTransaction context headers startTransaction store =
        .ok (chargingStation, newTransaction) →
      processExistingTransaction context.stopContext startTransaction.connectorId fuel none
        chargingStation store = (.ok (some cleanedUp), between) →
      startTransactionWith context cleanedUp newTransaction = .ok started →
      context.stopContext.database .saveTransaction = .ok () →
      context.stopContext.database .saveChargingStation ≠ .ok () →
      StartOutcome context fuel headers startTransaction store
        { between with
          transactions := between.transactions.save (TransactionStorage.transactionMDB started) }
  /-- The transaction runs on its connector. -/
  | started {chargingStation cleanedUp : ChargingStation} {newTransaction started : Transaction}
      {between : Store} :
      checkStartTransaction context headers startTransaction store =
        .ok (chargingStation, newTransaction) →
      processExistingTransaction context.stopContext startTransaction.connectorId fuel none
        chargingStation store = (.ok (some cleanedUp), between) →
      startTransactionWith context cleanedUp newTransaction = .ok started →
      StartOutcome context fuel headers startTransaction store
        { between with
          transactions := between.transactions.save (TransactionStorage.transactionMDB started)
          chargingStations := between.chargingStations.save
            (updateChargingStationConnectorWithTransaction started cleanedUp) }

/-- The clean-up that gets to its end has deleted the only active transaction, if that has no
consumption, and nothing else. -/
theorem processExistingTransaction_ok {context : StopContext} {connectorId fuel : ℕ}
    {chargingStation cleanedUp : ChargingStation} {store between : Store}
    (h : processExistingTransaction context connectorId (fuel + 2) none chargingStation store =
      (.ok (some cleanedUp), between)) :
    (cleanedUp = chargingStation ∧ between = store) ∨
      ∃ activeTransaction, TransactionStorage.getActiveTransaction store chargingStation.id
          connectorId = some activeTransaction ∧
        activeTransaction.currentTotalConsumptionWh ≤ 0 ∧
        cleanedUp = OCPPUtils.clearChargingStationConnectorRuntimeData chargingStation
          activeTransaction.connectorId ∧
        between = withoutTransaction store activeTransaction.id := by
  rw [processExistingTransaction_apply] at h
  split at h
  · cases h
    exact .inl ⟨rfl, rfl⟩
  · rename_i activeTransaction active
    split at h
    · rename_i unused
      split at h <;> cases h
      exact .inr ⟨activeTransaction, active, unused, rfl, rfl⟩
    · cases h
      exact .inl ⟨rfl, rfl⟩

/-- The clean-up that throws has changed nothing. -/
theorem processExistingTransaction_of_error {context : StopContext} {connectorId fuel : ℕ}
    {chargingStation : ChargingStation} {store between : Store} {error : String}
    (h : processExistingTransaction context connectorId (fuel + 2) none chargingStation store =
      (.error error, between)) : between = store := by
  rw [processExistingTransaction_apply] at h
  split at h
  · cases h
  · split at h
    · split at h <;> cases h
      rfl
    · cases h

/-- The clean-up ends. -/
theorem processExistingTransaction_ne_none {context : StopContext} {connectorId fuel : ℕ}
    {chargingStation : ChargingStation} {store between : Store} :
    processExistingTransaction context connectorId (fuel + 2) none chargingStation store ≠
      (.ok none, between) := by
  intro h
  rw [processExistingTransaction_apply] at h
  split at h
  · cases h
  · split at h
    · split at h <;> cases h
    · cases h

/-- **What a start leaves**, accepted or not. -/
theorem startOutcome (context : StartContext) (fuel : ℕ) (headers : OCPPHeader)
    (startTransaction : OCPPStartTransactionRequest) (store : Store) :
    StartOutcome context (fuel + 2) headers startTransaction store
      (handleStartTransaction context (fuel + 2) headers startTransaction store).2 := by
  unfold handleStartTransaction
  rw [Handler.handle_snd]
  cases hcheck : checkStartTransaction context headers startTransaction store with
  | error error =>
    rw [Handler.bind_apply_error (by rw [Handler.read_apply, hcheck])]
    exact .rejected
  | ok created =>
    obtain ⟨chargingStation, newTransaction⟩ := created
    rw [Handler.read_ok_bind hcheck]
    dsimp only
    rcases hclean : processExistingTransaction context.stopContext startTransaction.connectorId
        (fuel + 2) none chargingStation store with ⟨error | cleanedUp, between⟩
    · rw [Handler.bind_apply_error hclean]
      cases processExistingTransaction_of_error hclean
      exact .rejected
    rw [Handler.bind_apply_ok hclean]
    cases cleanedUp with
    | none => exact (processExistingTransaction_ne_none hclean).elim
    | some cleanedUp =>
      dsimp only
      cases hstart : startTransactionWith context cleanedUp newTransaction with
      | error error =>
        rw [Handler.ofExcept_error_bind]
        refine .cleanedUp hcheck hclean fun started hstarted => ?_
        rw [hstart] at hstarted
        cases hstarted
      | ok started =>
        rw [Handler.ofExcept_ok_bind]
        unfold TransactionStorage.saveTransaction ChargingStationStorage.saveChargingStation
        cases hsave : context.stopContext.database .saveTransaction with
        | error error =>
          refine .cleanedUp hcheck hclean fun _ _ => ?_
          rw [hsave]
          exact nofun
        | ok _ =>
          rw [Handler.write_ok_bind]
          cases hstation : context.stopContext.database .saveChargingStation with
          | error error =>
            refine .saved hcheck hclean hstart hsave ?_
            rw [hstation]
            exact nofun
          | ok _ => exact .started hcheck hclean hstart

/-! ## What is left on the connector -/

/-- After the start of the transaction `id` no other one of the connector is active: those
with consumption have been stopped, those without have been deleted, and nothing with
consumption has. -/
structure CleansUp (chargeBoxID : String) (connectorId id : ℕ) (store store' : Store) : Prop where
  noneActive : ∀ transaction ∈ store'.activeTransactions chargeBoxID connectorId,
    transaction.id = id
  stopped : ∀ transaction ∈ store.activeTransactions chargeBoxID connectorId,
    transaction.currentTotalConsumptionWh ≠ 0 →
    ∃ transaction' ∈ store'.transactions.find transaction.id, transaction'.stop.isSome
  deleted : ∀ transaction ∈ store.activeTransactions chargeBoxID connectorId,
    transaction.currentTotalConsumptionWh = 0 → store'.transactions.find transaction.id = none
  kept : ∀ transaction ∈ store.transactions.docs, transaction.currentTotalConsumptionWh ≠ 0 →
    (store'.transactions.find transaction.id).isSome

/-- The condition: at most one transaction is active, and it has no consumption. -/
def AtMostOneUnused (active : List Transaction) : Prop :=
  active = [] ∨ ∃ transaction, active = [transaction] ∧ transaction.currentTotalConsumptionWh = 0

section Left

variable {chargeBoxID : String} {connectorId id : ℕ} {store store' between : Store}
variable {transaction newTransaction : Transaction}

theorem mem_activeTransactions :
    transaction ∈ store.activeTransactions chargeBoxID connectorId ↔
      transaction ∈ store.transactions.docs ∧
        transaction.isActiveOn chargeBoxID connectorId :=
  List.mem_filter

/-- The ID of the new transaction is that of no other. -/
theorem id_ne_of_mem (new : store.transactions.find id = none)
    (mem : transaction ∈ store.transactions.docs) : transaction.id ≠ id :=
  Collection.not_mem_keys_of_find new transaction mem

/-- The new transaction is the last one that is stored. -/
theorem mem_after_start (new : between.transactions.find newTransaction.id = none)
    (saved : store'.transactions = between.transactions.save newTransaction) :
    transaction ∈ store'.transactions.docs ↔
      transaction ∈ between.transactions.docs ∨ transaction = newTransaction := by
  rw [saved, Collection.docs_save_of_find_eq_none new, List.mem_append, List.mem_singleton]

/-- A transaction that is active and stays keeps the connector from being cleaned up. -/
theorem not_cleansUp_of_stays (new : store.transactions.find id = none)
    (active : transaction ∈ store.activeTransactions chargeBoxID connectorId)
    (stays : transaction ∈ store'.transactions.docs) :
    ¬ CleansUp chargeBoxID connectorId id store store' := by
  intro clean
  obtain ⟨mem, isActive⟩ := mem_activeTransactions.mp active
  exact id_ne_of_mem new mem
    (clean.noneActive transaction (mem_activeTransactions.mpr ⟨stays, isActive⟩))

/-- Nothing to clean up. -/
theorem cleansUp_of_nil (none_active : store.activeTransactions chargeBoxID connectorId = [])
    (new : store.transactions.find newTransaction.id = none)
    (saved : store'.transactions = store.transactions.save newTransaction) :
    CleansUp chargeBoxID connectorId newTransaction.id store store' where
  noneActive transaction active := by
    obtain ⟨mem, isActive⟩ := mem_activeTransactions.mp active
    rcases (mem_after_start new saved).mp mem with old | rfl
    · have listed : transaction ∈ store.activeTransactions chargeBoxID connectorId :=
        mem_activeTransactions.mpr ⟨old, isActive⟩
      rw [none_active] at listed
      cases listed
    · rfl
  stopped transaction active := by
    rw [none_active] at active
    cases active
  deleted transaction active := by
    rw [none_active] at active
    cases active
  kept transaction mem _ := by
    have stays := (mem_after_start new saved).mpr (.inl mem)
    rw [Collection.find_of_mem stays]
    rfl

/-- The only active transaction has been deleted. -/
theorem cleansUp_iff_of_deleted
    (only : store.activeTransactions chargeBoxID connectorId = [transaction])
    (new : store.transactions.find newTransaction.id = none)
    (saved : store'.transactions =
      (withoutTransaction store transaction.id).transactions.save newTransaction) :
    CleansUp chargeBoxID connectorId newTransaction.id store store' ↔
      transaction.currentTotalConsumptionWh = 0 := by
  have active : transaction ∈ store.activeTransactions chargeBoxID connectorId := by
    rw [only]
    exact List.mem_singleton_self transaction
  obtain ⟨mem, isActive⟩ := mem_activeTransactions.mp active
  have stillNew : (withoutTransaction store transaction.id).transactions.find
      newTransaction.id = none := by
    by_contra found
    obtain ⟨other, hother⟩ := Option.ne_none_iff_exists'.mp found
    have stored := (Collection.mem_delete.mp (Collection.mem_of_find hother)).1
    exact id_ne_of_mem new stored (Collection.key_of_find hother)
  have after {other : Transaction} : other ∈ store'.transactions.docs ↔
      (other ∈ store.transactions.docs ∧ other.id ≠ transaction.id) ∨ other = newTransaction := by
    rw [mem_after_start stillNew saved]
    exact or_congr_left Collection.mem_delete
  have gone : store'.transactions.find transaction.id = none := by
    by_contra found
    obtain ⟨other, hother⟩ := Option.ne_none_iff_exists'.mp found
    have sameID := Collection.key_of_find hother
    rcases after.mp (Collection.mem_of_find hother) with ⟨-, differs⟩ | rfl
    · exact differs sameID
    · exact id_ne_of_mem new mem sameID.symm
  constructor
  · intro clean
    by_contra consumption
    have kept := clean.kept transaction mem consumption
    rw [gone] at kept
    cases kept
  · intro unused
    refine ⟨?_, ?_, ?_, ?_⟩
    · intro other hother
      obtain ⟨memOther, isActiveOther⟩ := mem_activeTransactions.mp hother
      rcases after.mp memOther with ⟨old, differs⟩ | rfl
      · have listed : other ∈ store.activeTransactions chargeBoxID connectorId :=
          mem_activeTransactions.mpr ⟨old, isActiveOther⟩
        rw [only, List.mem_singleton] at listed
        exact absurd (congrArg Transaction.id listed) differs
      · rfl
    · intro other hother consumption
      rw [only, List.mem_singleton] at hother
      exact absurd (hother ▸ unused) consumption
    · intro other hother _
      rw [only, List.mem_singleton] at hother
      rw [hother]
      exact gone
    · intro other memOther consumption
      have differs : other.id ≠ transaction.id := by
        intro same
        exact consumption (Collection.eq_of_key_eq memOther mem same ▸ unused)
      rw [Collection.find_of_mem (after.mpr (.inl ⟨memOther, differs⟩))]
      rfl

/-- A connector with an active transaction that stays is not one to be cleaned up. -/
theorem not_atMostOneUnused_of_getActiveTransaction_none
    (h : TransactionStorage.getActiveTransaction store chargeBoxID connectorId = none)
    (active : transaction ∈ store.activeTransactions chargeBoxID connectorId) :
    ¬ AtMostOneUnused (store.activeTransactions chargeBoxID connectorId) := by
  rintro (none_active | ⟨only, honly, -⟩)
  · rw [none_active] at active
    cases active
  · rw [getActiveTransaction_eq_some_iff.mpr honly] at h
    cases h

end Left

/-- **The clean-up.**  It ends after two turns at the latest.  After an accepted start no
other transaction of the connector is active, and none with consumption has been deleted,
just when at most one was active before and that one had no consumption. -/
theorem cleansUp_iff {context : StartContext} {fuel : ℕ} (enough : 2 ≤ fuel)
    {headers : OCPPHeader} {startTransaction : OCPPStartTransactionRequest}
    {store store' : Store} {chargingStation : ChargingStation} {id : ℕ}
    (station : headers.chargingStation = some chargingStation)
    (accepted : handleStartTransaction context fuel headers startTransaction store =
      ((id, .accepted), store')) :
    (processExistingTransaction context.stopContext startTransaction.connectorId fuel none
        chargingStation store).1 ≠ .ok none ∧
      (CleansUp chargingStation.id startTransaction.connectorId id store store' ↔
        AtMostOneUnused
          (store.activeTransactions chargingStation.id startTransaction.connectorId)) := by
  obtain ⟨fuel, rfl⟩ := Nat.exists_eq_add_of_le' enough
  obtain ⟨between, cleanedUp, newTransaction, hclean, rfl, -, new, saved⟩ :=
    handleStartTransaction_accepted station accepted
  refine ⟨by rw [hclean]; exact nofun, ?_⟩
  rw [processExistingTransaction_apply] at hclean
  cases active : TransactionStorage.getActiveTransaction store chargingStation.id
      startTransaction.connectorId with
  | none =>
    rw [active] at hclean
    cases hclean
    cases listed : store.activeTransactions chargingStation.id startTransaction.connectorId with
    | nil => exact iff_of_true (cleansUp_of_nil listed new saved) (.inl rfl)
    | cons transaction rest =>
      -- Several transactions are active, and all of them stay.
      have mem : transaction ∈ store.activeTransactions chargingStation.id
          startTransaction.connectorId := by
        rw [listed]
        exact List.mem_cons_self
      have stays := (mem_after_start new saved).mpr (.inl (mem_activeTransactions.mp mem).1)
      rw [← listed]
      exact iff_of_false (not_cleansUp_of_stays new mem stays)
        (not_atMostOneUnused_of_getActiveTransaction_none active mem)
  | some transaction =>
    have only := getActiveTransaction_eq_some_iff.mp active
    have mem : transaction ∈ store.activeTransactions chargingStation.id
        startTransaction.connectorId := by
      rw [only]
      exact List.mem_singleton_self transaction
    have unused_iff : AtMostOneUnused (store.activeTransactions chargingStation.id
        startTransaction.connectorId) ↔ transaction.currentTotalConsumptionWh = 0 := by
      rw [only]
      constructor
      · rintro (empty | ⟨other, same, unused⟩)
        · cases empty
        · cases same
          exact unused
      · exact fun unused => .inr ⟨transaction, rfl, unused⟩
    rw [active] at hclean
    dsimp only at hclean
    rw [unused_iff]
    split at hclean
    · split at hclean
      · cases hclean
      · cases hclean
        exact cleansUp_iff_of_deleted only new saved
    · -- The transaction has consumption: its stop fails, and it stays.
      rename_i consumption
      cases hclean
      have stays := (mem_after_start new saved).mpr (.inl (mem_activeTransactions.mp mem).1)
      exact iff_of_false (not_cleansUp_of_stays new mem stays)
        fun unused => consumption (le_of_eq unused)

/-- A station that takes no transaction from the one before. -/
def exampleStartStore (currentTotalConsumptionWh : ℚ) : Store :=
  { chargingStations :=
      Collection.empty.save
        { id := "CS-1", connectors := [{ connectorId := 1, currentType := some .AC }] }
    transactions :=
      Collection.empty.save
        { id := 7
          chargeBoxID := "CS-1"
          connectorId := 1
          tagID := "TAG-1"
          meterStart := 0
          timestamp := 0
          currentTotalConsumptionWh := currentTotalConsumptionWh }
    consumptions := Collection.empty }

def exampleStartHeaders : OCPPHeader :=
  { chargeBoxIdentity := "CS-1"
    chargingStation := (exampleStartStore 0).chargingStations.find "CS-1" }

def exampleStartContext : StartContext :=
  { stopContext :=
      { isAuthorizedToStopTransaction := fun _ _ _ => .ok {}
        getUserByTagID := fun _ => .ok none }
    randomIDs := [7, 8]
    isAuthorizedToStartTransaction := fun _ _ _ => .ok none }

def exampleStartRequest : OCPPStartTransactionRequest :=
  { chargeBoxID := "CS-1"
    connectorId := 1
    idTag := "TAG-2"
    meterStart := 1000
    timestamp := 3600000 }

/-- The transaction before had no consumption. -/
theorem cleansUp_iff_one_unused :
    ∃ store', handleStartTransaction exampleStartContext 2 exampleStartHeaders
        exampleStartRequest (exampleStartStore 0) = ((8, .accepted), store') ∧
      CleansUp "CS-1" 1 8 (exampleStartStore 0) store' := by
  have started : (handleStartTransaction exampleStartContext 2 exampleStartHeaders
      exampleStartRequest (exampleStartStore 0)).1 = (8, .accepted) := by
    decide +kernel
  have station : exampleStartHeaders.chargingStation =
      some { id := "CS-1", connectors := [{ connectorId := 1, currentType := some .AC }] } := by
    decide +kernel
  refine ⟨_, Prod.ext started rfl, ?_⟩
  refine (cleansUp_iff le_rfl station (Prod.ext started rfl)).2.mpr (.inr ⟨_, rfl, rfl⟩)

/-- The transaction before had a consumption of 1 kWh: it is still active. -/
theorem not_cleansUp_one_used :
    ∃ store', handleStartTransaction exampleStartContext 2 exampleStartHeaders
        exampleStartRequest (exampleStartStore 1000) = ((8, .accepted), store') ∧
      ¬ CleansUp "CS-1" 1 8 (exampleStartStore 1000) store' := by
  have started : (handleStartTransaction exampleStartContext 2 exampleStartHeaders
      exampleStartRequest (exampleStartStore 1000)).1 = (8, .accepted) := by
    decide +kernel
  have active : ((handleStartTransaction exampleStartContext 2 exampleStartHeaders
      exampleStartRequest (exampleStartStore 1000)).2.activeTransactions "CS-1" 1).map
        Transaction.id = [7, 8] := by
    decide +kernel
  refine ⟨_, Prod.ext started rfl, fun clean => ?_⟩
  have mem := List.mem_map.mp (active ▸ List.mem_cons_self)
  obtain ⟨transaction, hactive, hid⟩ := mem
  have same := clean.noneActive transaction hactive
  rw [hid] at same
  exact absurd same (by decide)

end OCPPService

end EvServer
