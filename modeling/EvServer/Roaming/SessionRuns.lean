import EvServer.Lib.Runs
import EvServer.Roaming.SessionAccount

/-!
# Runs of updates of a session

Updates come in any order and as often as the platform likes; one that throws writes nothing.
-/

namespace EvServer.Emsp

open EvServer.Emsp.OCPIUtilsService

variable {store store' : SessionStore} {session : OCPISession}

namespace SessionUpdate

/-- An update that is taken into account can be accounted for. -/
def IsAccountable (sessionID : String) (store : SessionStore) (update : SessionUpdate) : Prop :=
  ∀ session ∈ update.sessionOf sessionID store,
    ∀ transaction ∈ (transactionOf update.context store session.withDefaults).toOption,
      isStale transaction session.withDefaults = false →
        Accountable store transaction session.withDefaults

instance (sessionID : String) (store : SessionStore) (update : SessionUpdate) :
    Decidable (update.IsAccountable sessionID store) := by
  unfold IsAccountable
  infer_instance

variable {sessionID : String} {update : SessionUpdate}

theorem handle_of_some (h : update.sessionOf sessionID store = some session) :
    update.handle sessionID store = updateTransaction update.context store session := by
  cases update with
  | put context body =>
      change EMSPSessionsEndpoint.putSessionRequest context store sessionID body = _
      unfold EMSPSessionsEndpoint.putSessionRequest
      change (if _ then _ else _) = some session at h
      split at h
      · rename_i unset
        rw [if_pos unset, ← Option.some.inj h]
        rfl
      · rename_i isSet
        rw [if_neg isSet]
        split at h
        · cases h
        · rename_i same
          rw [if_neg same, ← Option.some.inj h]
          rfl
  | patch context body =>
      obtain ⟨transaction, known, rfl⟩ := Option.map_eq_some_iff.mp h
      change EMSPSessionsEndpoint.patchSessionRequest context store sessionID body = _
      rw [EMSPSessionsEndpoint.patchSessionRequest, known]
      rfl

theorem handle_of_none (h : update.sessionOf sessionID store = none) :
    ∃ message, update.handle sessionID store = .error message := by
  cases update with
  | put context body =>
      change ∃ message, EMSPSessionsEndpoint.putSessionRequest context store sessionID body = _
      unfold EMSPSessionsEndpoint.putSessionRequest
      change (if _ then _ else _) = none at h
      split at h
      · cases h
      · rename_i isSet
        rw [if_neg isSet]
        split at h
        · rename_i other
          rw [if_pos other]
          exact ⟨_, rfl⟩
        · cases h
  | patch context body =>
      have unknown : store.transaction = none := Option.map_eq_none_iff.mp h
      change ∃ message, EMSPSessionsEndpoint.patchSessionRequest context store sessionID body = _
      rw [EMSPSessionsEndpoint.patchSessionRequest, unknown]
      exact ⟨_, rfl⟩

end SessionUpdate

namespace SessionStore

variable {sessionID : String} {updates : List SessionUpdate} {chargingStations : ChargingStations}

/-- One update for the session. -/
def Updates (sessionID : String) (store : SessionStore) (update : SessionUpdate)
    (store' : SessionStore) : Prop :=
  store' = update.run sessionID store

/-- **What one update preserves.** -/
theorem accounts_of_updates {update : SessionUpdate} (accounts : store.Accounts)
    (accountable : update.IsAccountable sessionID store)
    (updates : store.Updates sessionID update store') : store'.Accounts := by
  obtain rfl := updates
  unfold SessionUpdate.run
  cases hsession : update.sessionOf sessionID store with
  | none =>
      obtain ⟨message, thrown⟩ := SessionUpdate.handle_of_none hsession
      rw [thrown]
      exact accounts
  | some session =>
      rw [SessionUpdate.handle_of_some hsession]
      cases h : updateTransaction update.context store session with
      | error message => exact accounts
      | ok store' =>
          exact accounts_updateTransaction accounts
            (fun transaction found => accountable session hsession transaction
              (Outcome.toOption_eq_some.mpr found)) h

/-- A session that nothing has been reported of. -/
def ofStations (chargingStations : ChargingStations) : SessionStore :=
  { chargingStations := chargingStations }

theorem accounts_ofStations (chargingStations : ChargingStations) :
    (ofStations chargingStations).Accounts :=
  ⟨⟨rfl, rfl, rfl⟩, fun _ known => nomatch known⟩

/-- **Every part of the energy and of the cost is counted once** in every run of updates that can
be accounted for, and none of them throws once the transaction is known. -/
theorem countsOnce_of_run
    (run : Transition.Run
      (Transition.guarded (fun store update => update.IsAccountable sessionID store)
        (Updates sessionID)) (ofStations chargingStations) updates store) :
    store.CountsOnce ∧ (store.transaction.isSome → ∀ (update : SessionUpdate) (session : OCPISession),
      update.sessionOf sessionID store = some session → session.validateSession = true →
        ∃ store', update.handle sessionID store = .ok store') := by
  have accounts : store.Accounts :=
    run.invariant (accounts_ofStations chargingStations) fun _ _ _ accounts step =>
      accounts_of_updates accounts step.1 step.2
  refine ⟨accounts.once, fun known update session hsession valid => ?_⟩
  rw [SessionUpdate.handle_of_some hsession]
  exact exists_updateTransaction accounts known valid

/-- A station of the platform. -/
def platformStations : ChargingStations :=
  Collection.empty.save { id := "CS", locationID := "L", evseUid := "E"
                          connectors := [{ id := "1", connectorId := 1 }] }

/-- What the platform reports of a session after some minutes: its energy and its cost. -/
def report (minutes : ℤ) (kwh total_cost : ℚ) : SessionUpdate :=
  .put { getUser := fun _ => some "driver" }
    { id := some "S"
      start_datetime := some 0
      kwh := some kwh
      auth_id := some "T"
      auth_method := some "WHITELIST"
      location := some { id := some "L", evses := some [{ uid := some "E" }] }
      currency := some "EUR"
      total_cost := some total_cost
      status := some .active
      last_updated := some (minutes * 60000) }

/-- The platform reports that the session is completed. -/
def complete (minutes : ℤ) (kwh total_cost : ℚ) : SessionUpdate :=
  .patch { getUser := fun _ => some "driver" }
    { kwh := some (some kwh)
      total_cost := some (some total_cost)
      status := some (some .completed)
      last_updated := some (some (minutes * 60000)) }

/-- A session that is reported from its start to its end, with a pause. -/
def reported : List SessionUpdate :=
  [report 0 0 0, report 1 5 1, report 2 5 1, complete 3 7 2]

theorem countsOnce_of_run_reported :
    (reported.foldl (SessionUpdate.run "S") (ofStations platformStations)).savedWh = 7000 ∧
      (reported.foldl (SessionUpdate.run "S") (ofStations platformStations)).CountsOnce := by
  have first : Transition.Run
      (Transition.guarded (fun store update => SessionUpdate.IsAccountable "S" store update)
        (Updates "S")) (ofStations platformStations) [report 0 0 0] _ :=
    .single ⟨by decide +kernel, rfl⟩
  have second := first.snoc (a := report 1 5 1) ⟨by decide +kernel, rfl⟩
  have third := second.snoc (a := report 2 5 1) ⟨by decide +kernel, rfl⟩
  have last := third.snoc (a := complete 3 7 2) ⟨by decide +kernel, rfl⟩
  exact ⟨by decide +kernel, (countsOnce_of_run last).1⟩

/-- **Energy is counted twice**: after 5 kWh the platform reports 3 kWh, and then 6 kWh. -/
theorem counts_twice : ∃ updates store,
    Transition.Run (Updates "S") (ofStations platformStations) updates store ∧
      store.savedWh = 8000 ∧ highestWh store.accepted = 6000 := by
  have first : Transition.Run (Updates "S") (ofStations platformStations) [report 0 0 0] _ :=
    .single rfl
  have second := first.snoc (a := report 1 5 1) rfl
  have third := second.snoc (a := report 2 3 1) rfl
  have last := third.snoc (a := report 3 6 2) rfl
  exact ⟨_, _, last, by decide +kernel, by decide +kernel⟩

end SessionStore

end EvServer.Emsp
