import EvServer.Ocpp.StopFailure

/-!
# An `INVALID` stop and its retry

A station that is answered `INVALID` sends the request again.  The retry finds the
session as it was when nothing has been written, or when what has been written was there
already: this is how far `handleStopTransaction` keeps it.  Since what the handler does
depends on the stored transactions and on nothing else in the database, the retry then
does what the first attempt would have done.
-/

namespace EvServer

/-- The data of a session that a connector carries. -/
structure ConnectorRuntimeData where
  currentInstantWatts : ℚ
  currentStateOfCharge : ℚ
  currentTotalConsumptionWh : ℚ
  currentTotalInactivitySecs : ℚ
  currentInactivityStatus : InactivityStatus
  currentTransactionID : ℕ
  currentTransactionDate : Option Timestamp
  currentTagID : Option String
  currentUserID : Option String
  deriving DecidableEq, Repr

def Connector.runtimeData (connector : Connector) : ConnectorRuntimeData :=
  { currentInstantWatts := connector.currentInstantWatts
    currentStateOfCharge := connector.currentStateOfCharge
    currentTotalConsumptionWh := connector.currentTotalConsumptionWh
    currentTotalInactivitySecs := connector.currentTotalInactivitySecs
    currentInactivityStatus := connector.currentInactivityStatus
    currentTransactionID := connector.currentTransactionID
    currentTransactionDate := connector.currentTransactionDate
    currentTagID := connector.currentTagID
    currentUserID := connector.currentUserID }

/-- The runtime data of the connectors of a station. -/
def ChargingStation.runtimeData (chargingStation : ChargingStation) :
    List (ℕ × ConnectorRuntimeData) :=
  chargingStation.connectors.map fun connector => (connector.connectorId, connector.runtimeData)

namespace Store

/-- The stored runtime data of a station. -/
def runtimeData (store : Store) (chargeBoxID : String) : Option (List (ℕ × ConnectorRuntimeData)) :=
  (store.chargingStations.find chargeBoxID).map ChargingStation.runtimeData

/-- The runtime data of the connectors, the transactions and the consumptions are the same. -/
structure SameSessions (before after : Store) : Prop where
  runtimeData : ∀ chargeBoxID, after.runtimeData chargeBoxID = before.runtimeData chargeBoxID
  transactions : after.transactions = before.transactions
  consumptions : after.consumptions = before.consumptions

/-- The transactions and the consumptions are the same. -/
structure SameTransactions (before after : Store) : Prop where
  transactions : after.transactions = before.transactions
  consumptions : after.consumptions = before.consumptions

theorem SameSessions.refl (store : Store) : SameSessions store store :=
  ⟨fun _ => rfl, rfl, rfl⟩

theorem SameSessions.sameTransactions {before after : Store} (h : SameSessions before after) :
    SameTransactions before after := ⟨h.transactions, h.consumptions⟩

/-- A saved station has its runtime data. -/
theorem runtimeData_save_iff (store : Store) (chargingStation : ChargingStation) :
    (∀ chargeBoxID, runtimeData
        { store with chargingStations := store.chargingStations.save chargingStation }
          chargeBoxID = store.runtimeData chargeBoxID) ↔
      store.runtimeData chargingStation.id = some chargingStation.runtimeData := by
  unfold runtimeData
  constructor
  · intro same
    rw [← same chargingStation.id]
    exact congrArg _ Collection.find_save_self
  · intro stored chargeBoxID
    rcases eq_or_ne chargeBoxID chargingStation.id with rfl | other
    · rw [stored]
      exact congrArg _ Collection.find_save_self
    · exact congrArg _ (Collection.find_save_of_ne other)

end Store

namespace StopAttempt

/-- The connector is stored as the handler frees it. -/
def IsFreed (attempt : StopAttempt) (store : Store) : Prop :=
  store.runtimeData attempt.freed.id = some attempt.freed.runtimeData

/-- The condition: what has been written when a step fails was there already. -/
def KeepsSessions (attempt : StopAttempt) (context : StopContext) (isSoftStop : Bool)
    (store : Store) : Prop :=
  match attempt.failure context isSoftStop with
  | none | some .savingChargingStation => True
  | some .addingConsumption => attempt.IsFreed store
  | some .savingTransaction =>
      attempt.IsFreed store ∧
        ∀ consumption ∈ attempt.consumption context isSoftStop,
          store.consumptions.find consumption.key = some consumption
  | some .deletingChargingProfiles => False

end StopAttempt

namespace OCPPService

/-! ## The checks -/

variable {context : StopContext} {headers : OCPPHeader}
variable {stopTransaction : OCPPStopTransactionRequest} {isSoftStop isStoppedByCentralSystem : Bool}
variable {store : Store} {attempt : StopAttempt}

/-- A request that has passed the checks is about a stored transaction that runs. -/
theorem checkStopTransaction_ok
    (h : checkStopTransaction context headers stopTransaction isStoppedByCentralSystem store =
      .ok (some attempt)) :
    stopTransaction.transactionId ≠ 0 ∧
      store.transactions.find stopTransaction.transactionId = some attempt.transaction ∧
      attempt.transaction.stop = none := by
  unfold checkStopTransaction at h
  obtain ⟨⟨chargingStation, validated⟩, hvalid, h⟩ := Outcome.bind_eq_ok.mp h
  have sameID : validated.transactionId = stopTransaction.transactionId := by
    unfold OCPPValidation.validateStopTransaction at hvalid
    dsimp only at hvalid
    split at hvalid
    · cases hvalid
    · obtain ⟨_, -, hvalid⟩ := Outcome.bind_eq_ok.mp hvalid
      cases hvalid
      rfl
  dsimp only at h
  split at h
  · cases h
  · rename_i notZero
    obtain ⟨transaction, hfound, h⟩ := Outcome.bind_eq_ok.mp h
    obtain ⟨users, hchecked, h⟩ := Outcome.bind_eq_ok.mp h
    cases h
    refine ⟨sameID ▸ notZero, ?_, ?_⟩
    · unfold getTransactionFromStopTransaction at hfound
      dsimp only at hfound
      split at hfound
      · cases hfound
      · rename_i found
        cases hfound
        rw [← sameID]
        exact found
    · unfold checkAuthorizeStopTransactionAndGetUsers at hchecked
      obtain ⟨_, -, hchecked⟩ := Outcome.bind_eq_ok.mp hchecked
      cases hstop : transaction.stop with
      | none => rfl
      | some stop =>
          simp only [hstop, Option.isSome_some, if_true] at hchecked
          cases hchecked

theorem handleStopTransaction_of_error {error : String}
    (h : checkStopTransaction context headers stopTransaction isStoppedByCentralSystem store =
      .error error) :
    handleStopTransaction context headers stopTransaction isSoftStop isStoppedByCentralSystem
      store = (.invalid, store) := by
  have checked : (Handler.read (checkStopTransaction context headers stopTransaction
      isStoppedByCentralSystem) : StoreHandler _) store = (.error error, store) := by
    rw [Handler.read_apply, h]
  exact Handler.handle_error (Handler.bind_apply_error checked)

theorem handleStopTransaction_of_bypass
    (h : checkStopTransaction context headers stopTransaction isStoppedByCentralSystem store =
      .ok none) :
    handleStopTransaction context headers stopTransaction isSoftStop isStoppedByCentralSystem
      store = (.accepted, store) := by
  have checked : (Handler.read (checkStopTransaction context headers stopTransaction
      isStoppedByCentralSystem) : StoreHandler _) store = (.ok none, store) := by
    rw [Handler.read_apply, h]
  exact Handler.handle_ok (Handler.bind_apply_ok checked)

/-- **What the handler answers and stores** for a request that has passed the checks. -/
theorem handleStopTransaction_of_attempt
    (h : checkStopTransaction context headers stopTransaction isStoppedByCentralSystem store =
      .ok (some attempt)) :
    handleStopTransaction context headers stopTransaction isSoftStop isStoppedByCentralSystem
        store =
      (if attempt.failure context isSoftStop = none then .accepted else .invalid,
        attempt.storeAfter context isSoftStop store (attempt.failure context isSoftStop)) := by
  obtain ⟨answers, after⟩ := applyStopTransaction_spec context attempt isSoftStop store
  rcases answers with ⟨accepted, none_failed⟩ | ⟨failed, some_failed⟩
  · rw [if_pos none_failed]
    refine Handler.handle_ok ?_
    rw [Handler.bind_apply_ok (by rw [Handler.read_apply, h])]
    exact Prod.ext accepted after
  · rw [if_neg some_failed]
    cases hresult : (applyStopTransaction context attempt isSoftStop store).1 with
    | ok status =>
        rw [hresult] at failed
        cases failed
    | error error =>
        refine Handler.handle_error (e := error) ?_
        rw [Handler.bind_apply_ok (by rw [Handler.read_apply, h])]
        exact Prod.ext hresult after

/-! ## What the handler tells apart -/

theorem respects_applyStopTransaction (context : StopContext) (attempt : StopAttempt)
    (isSoftStop : Bool) :
    Handler.Respects Store.SameTransactions (applyStopTransaction context attempt isSoftStop) := by
  rw [applyStopTransaction_eq]
  refine (Handler.respects_write fun s t same => ⟨same.transactions, same.consumptions⟩).bind
    fun _ => ?_
  refine (Handler.respects_ofExcept _).bind fun ⟨transaction, consumption⟩ => ?_
  have saves : Handler.Respects Store.SameTransactions
      (saveLastConsumption context.database consumption) := by
    cases consumption with
    | none => exact Handler.respects_pure _
    | some consumptionMDB =>
        exact Handler.respects_write fun s t same =>
          ⟨same.transactions, congrArg (Collection.save _) same.consumptions⟩
  refine saves.bind fun _ => ?_
  refine (Handler.respects_ofExcept _).bind fun transaction => ?_
  refine (Handler.respects_ofExcept _).bind fun _ => ?_
  refine (Handler.respects_write fun s t same =>
    ⟨congrArg (Collection.save _) same.transactions, same.consumptions⟩).bind fun _ => ?_
  exact (Handler.respects_ofExcept _).bind fun _ => Handler.respects_pure _

/-- The answer, and what becomes of the transactions and the consumptions, depend on these
only. -/
theorem handleStopTransaction_congr {store' : Store}
    (same : Store.SameTransactions store store') :
    (handleStopTransaction context headers stopTransaction isSoftStop isStoppedByCentralSystem
          store).1 =
        (handleStopTransaction context headers stopTransaction isSoftStop
          isStoppedByCentralSystem store').1 ∧
      Store.SameTransactions
        (handleStopTransaction context headers stopTransaction isSoftStop
          isStoppedByCentralSystem store).2
        (handleStopTransaction context headers stopTransaction isSoftStop
          isStoppedByCentralSystem store').2 := by
  have checks : Handler.Respects Store.SameTransactions (Handler.read
      (checkStopTransaction context headers stopTransaction isStoppedByCentralSystem)) := by
    refine Handler.respects_read fun s t same => ?_
    unfold checkStopTransaction getTransactionFromStopTransaction
    rw [same.transactions]
  refine (checks.bind fun attempt => ?_).handle _ same
  cases attempt with
  | none => exact Handler.respects_pure _
  | some attempt => exact respects_applyStopTransaction context attempt isSoftStop

/-! ## When an `INVALID` stop has changed nothing -/

/-- The transaction that is saved at the end is stopped, and is the one that was found. -/
theorem stoppedTransaction_spec {transaction : Transaction}
    (h : attempt.stoppedTransaction context isSoftStop = some transaction) :
    transaction.id = attempt.transaction.id ∧ transaction.stop.isSome := by
  obtain ⟨consumed, hconsumed, hstopped⟩ := Option.bind_eq_some_iff.mp h
  have consumedID := (sameSession_lastConsumption (Outcome.toOption_eq_some.mp hconsumed)).id
  obtain ⟨stoppedID, stopped⟩ := stopTransactionWith_ok (Outcome.toOption_eq_some.mp hstopped)
  exact ⟨stoppedID.trans consumedID, stopped⟩

/-- The charging profiles are deleted after the stopped transaction has been saved. -/
theorem exists_stoppedTransaction
    (h : attempt.failure context isSoftStop = some .deletingChargingProfiles) :
    ∃ transaction, attempt.stoppedTransaction context isSoftStop = some transaction := by
  unfold StopAttempt.failure at h
  split at h
  · cases h
  · cases h
  · rename_i transaction consumption _ consumed
    have reached : attempt.failureToStop context isSoftStop transaction =
        some .deletingChargingProfiles := by
      split at h
      · cases h
      · exact h
    unfold StopAttempt.failureToStop at reached
    split at reached
    · cases reached
    · rename_i after stopped
      refine ⟨after, ?_⟩
      rw [StopAttempt.stoppedTransaction, consumed]
      exact Outcome.toOption_eq_some.mpr stopped

/-- **A failed step has changed nothing** just when what was written before it was there. -/
theorem sameSessions_storeAfter_iff
    (running : store.transactions.find attempt.transaction.id = some attempt.transaction)
    (notStopped : attempt.transaction.stop = none)
    (failed : attempt.failure context isSoftStop ≠ none) :
    Store.SameSessions store
        (attempt.storeAfter context isSoftStop store (attempt.failure context isSoftStop)) ↔
      attempt.KeepsSessions context isSoftStop store := by
  unfold StopAttempt.KeepsSessions
  cases hfailure : attempt.failure context isSoftStop with
  | none => exact absurd hfailure failed
  | some failure =>
    cases failure with
    | savingChargingStation => exact iff_of_true (.refl store) trivial
    | addingConsumption =>
        constructor
        · intro same
          exact (Store.runtimeData_save_iff store attempt.freed).mp same.runtimeData
        · intro freed
          exact ⟨(Store.runtimeData_save_iff store attempt.freed).mpr freed, rfl, rfl⟩
    | savingTransaction =>
        constructor
        · intro same
          refine ⟨(Store.runtimeData_save_iff store attempt.freed).mp same.runtimeData, ?_⟩
          intro consumption hconsumption
          have saved := same.consumptions
          dsimp only [StopAttempt.storeAfter, StopAttempt.addConsumption,
            StopAttempt.freeConnector] at saved
          rw [Option.mem_def.mp hconsumption] at saved
          exact Collection.save_eq_self_iff.mp saved
        · rintro ⟨freed, stored⟩
          refine ⟨(Store.runtimeData_save_iff store attempt.freed).mpr freed, rfl, ?_⟩
          dsimp only [StopAttempt.storeAfter, StopAttempt.addConsumption,
            StopAttempt.freeConnector]
          cases hconsumption : attempt.consumption context isSoftStop with
          | none => rfl
          | some consumption =>
              exact Collection.save_eq_self_iff.mpr (stored consumption hconsumption)
    | deletingChargingProfiles =>
        refine iff_of_false (fun same => ?_) id
        obtain ⟨transaction, hstopped⟩ := exists_stoppedTransaction hfailure
        obtain ⟨sameID, stopped⟩ := stoppedTransaction_spec hstopped
        have saved := same.transactions
        dsimp only [StopAttempt.storeAfter, StopAttempt.saveStopped, StopAttempt.addConsumption,
          StopAttempt.freeConnector] at saved
        rw [hstopped] at saved
        -- The stored transaction runs, and the saved one is stopped.
        have stored := Collection.save_eq_self_iff.mp saved
        rw [TransactionStorage.id_transactionMDB, sameID, running, Option.some.injEq] at stored
        have stoppedMDB := TransactionStorage.isSome_stop_transactionMDB transaction
        rw [← stored, notStopped, stopped] at stoppedMDB
        cases stoppedMDB

/-- An `INVALID` stop has left the session as it was, so that a retry does what it would
have done without the first attempt; and a stopped transaction is left alone. -/
structure StopsCleanly (context : StopContext) (headers : OCPPHeader)
    (stopTransaction : OCPPStopTransactionRequest) (isSoftStop isStoppedByCentralSystem : Bool)
    (store : Store) : Prop where
  kept :
    (handleStopTransaction context headers stopTransaction isSoftStop isStoppedByCentralSystem
      store).1 = .invalid →
    Store.SameSessions store
      (handleStopTransaction context headers stopTransaction isSoftStop
        isStoppedByCentralSystem store).2
  retried :
    (handleStopTransaction context headers stopTransaction isSoftStop isStoppedByCentralSystem
      store).1 = .invalid →
    ∀ context' headers',
      let once := handleStopTransaction context' headers' stopTransaction isSoftStop
        isStoppedByCentralSystem store
      let again := handleStopTransaction context' headers' stopTransaction isSoftStop
        isStoppedByCentralSystem
        (handleStopTransaction context headers stopTransaction isSoftStop
          isStoppedByCentralSystem store).2
      once.1 = again.1 ∧ Store.SameTransactions once.2 again.2
  stopped : ∀ transaction,
    store.transactions.find stopTransaction.transactionId = some transaction →
    transaction.stop.isSome →
    Store.SameTransactions store
      (handleStopTransaction context headers stopTransaction isSoftStop
        isStoppedByCentralSystem store).2

/-- **An `INVALID` stop and its retry.**  The session is as it was just when, of a request
that passes the checks, nothing has been written before a step fails that was not there
already. -/
theorem stopsCleanly_iff (context : StopContext) (headers : OCPPHeader)
    (stopTransaction : OCPPStopTransactionRequest) (isSoftStop isStoppedByCentralSystem : Bool)
    (store : Store) :
    StopsCleanly context headers stopTransaction isSoftStop isStoppedByCentralSystem store ↔
      ∀ attempt, checkStopTransaction context headers stopTransaction isStoppedByCentralSystem
          store = .ok (some attempt) →
        attempt.KeepsSessions context isSoftStop store := by
  have of_attempt {attempt : StopAttempt}
      (checked : checkStopTransaction context headers stopTransaction isStoppedByCentralSystem
        store = .ok (some attempt)) (failed : attempt.failure context isSoftStop ≠ none) :
      Store.SameSessions store
          (attempt.storeAfter context isSoftStop store (attempt.failure context isSoftStop)) ↔
        attempt.KeepsSessions context isSoftStop store := by
    obtain ⟨-, found, notStopped⟩ := checkStopTransaction_ok checked
    have sameID := Collection.key_of_find found
    exact sameSessions_storeAfter_iff (sameID ▸ found) notStopped failed
  constructor
  · intro clean attempt checked
    by_cases failed : attempt.failure context isSoftStop = none
    · unfold StopAttempt.KeepsSessions
      rw [failed]
      trivial
    · have kept := clean.kept
      rw [handleStopTransaction_of_attempt checked, if_neg failed] at kept
      exact (of_attempt checked failed).mp (kept rfl)
  · intro keeps
    have kept : (handleStopTransaction context headers stopTransaction isSoftStop
        isStoppedByCentralSystem store).1 = .invalid →
        Store.SameSessions store (handleStopTransaction context headers stopTransaction
          isSoftStop isStoppedByCentralSystem store).2 := by
      cases hcheck : checkStopTransaction context headers stopTransaction
          isStoppedByCentralSystem store with
      | error error =>
          rw [handleStopTransaction_of_error hcheck]
          exact fun _ => .refl store
      | ok checked =>
        cases checked with
        | none =>
            rw [handleStopTransaction_of_bypass hcheck]
            rintro ⟨⟩
        | some attempt =>
            rw [handleStopTransaction_of_attempt hcheck]
            by_cases failed : attempt.failure context isSoftStop = none
            · rw [if_pos failed]
              rintro ⟨⟩
            · exact fun _ => (of_attempt hcheck failed).mpr (keeps attempt hcheck)
    refine ⟨kept, fun invalid context' headers' => ?_, fun transaction found stopped => ?_⟩
    · exact handleStopTransaction_congr (kept invalid).sameTransactions
    · -- The checks reject the request, or it is bypassed.
      cases hcheck : checkStopTransaction context headers stopTransaction
          isStoppedByCentralSystem store with
      | error error =>
          rw [handleStopTransaction_of_error hcheck]
          exact (Store.SameSessions.refl store).sameTransactions
      | ok checked =>
        cases checked with
        | none =>
            rw [handleStopTransaction_of_bypass hcheck]
            exact (Store.SameSessions.refl store).sameTransactions
        | some attempt =>
            obtain ⟨-, found', notStopped⟩ := checkStopTransaction_ok hcheck
            cases found.symm.trans found'
            rw [notStopped] at stopped
            cases stopped

/-- A station with a session of a roaming user on its connector. -/
def exampleStore : Store :=
  { chargingStations :=
      Collection.empty.save
        { id := "CS-1"
          connectors := [{ connectorId := 1, currentType := some .AC, currentTransactionID := 7 }] }
    transactions :=
      Collection.empty.save
        { id := 7
          chargeBoxID := "CS-1"
          connectorId := 1
          tagID := "TAG-1"
          userIssuer := some false
          meterStart := 0
          timestamp := 0 }
    consumptions := Collection.empty }

def exampleHeaders : OCPPHeader :=
  { chargeBoxIdentity := "CS-1"
    chargingStation := exampleStore.chargingStations.find "CS-1" }

/-- The roaming platform cannot be reached. -/
def exampleContext : StopContext :=
  { isAuthorizedToStopTransaction := fun _ _ _ => .ok {}
    getUserByTagID := fun _ => .ok none
    accessControl := true
    roaming := fun _ _ => .error "Roaming exception occurred" }

def exampleRequest : OCPPStopTransactionRequest :=
  { meterStop := 2000, timestamp := 3600000, transactionId := 7 }

/-- The stop fails with the roaming, when the connector has been freed and the last
consumption has been saved. -/
theorem not_stopsCleanly_roaming :
    ¬ StopsCleanly exampleContext exampleHeaders exampleRequest false false exampleStore := by
  intro clean
  have kept := (clean.kept (by decide +kernel)).consumptions
  have saved : (handleStopTransaction exampleContext exampleHeaders exampleRequest false false
      exampleStore).2.consumptions ≠ exampleStore.consumptions := by
    decide +kernel
  exact saved kept

end OCPPService

end EvServer
