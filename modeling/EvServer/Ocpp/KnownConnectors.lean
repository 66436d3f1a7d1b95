import EvServer.Rest.OccupiedConnectors

/-!
# The connectors that a station has reported

A boot moves the connectors of a station into its backup, where an earlier one may have been
consumed in part only, and a status notification moves one back or creates it.  Whatever the
order, a station knows each of its connectors once, and it forgets none; a connector that is
not reported stays as it is, with the data of its session.
-/

namespace EvServer

namespace ChargingStation

/-- The IDs of the connectors, with those of the backup. -/
def connectorIds (chargingStation : ChargingStation) : List ℕ :=
  chargingStation.allConnectors.map Connector.connectorId

/-- The second station knows the connectors of the first one, and those whose IDs are to be
kept are the same. -/
structure Keeps (kept : ℕ → Prop) (chargingStation chargingStation' : ChargingStation) :
    Prop where
  id : chargingStation'.id = chargingStation.id
  known : ∀ connectorId ∈ chargingStation.connectorIds,
    connectorId ∈ chargingStation'.connectorIds
  connectors : ∀ connector ∈ chargingStation.allConnectors, kept connector.connectorId →
    connector ∈ chargingStation'.allConnectors

variable {kept kept' : ℕ → Prop} {chargingStation chargingStation' : ChargingStation}

theorem Keeps.refl (chargingStation : ChargingStation) :
    Keeps kept chargingStation chargingStation where
  id := rfl
  known _ mem := mem
  connectors _ mem _ := mem

theorem Keeps.trans {between : ChargingStation} (first : Keeps kept chargingStation between)
    (second : Keeps kept between chargingStation') :
    Keeps kept chargingStation chargingStation' where
  id := second.id.trans first.id
  known connectorId mem := second.known connectorId (first.known connectorId mem)
  connectors connector mem keep :=
    second.connectors connector (first.connectors connector mem keep) keep

theorem Keeps.mono (keeps : Keeps kept chargingStation chargingStation')
    (sub : ∀ connectorId, kept' connectorId → kept connectorId) :
    Keeps kept' chargingStation chargingStation' where
  id := keeps.id
  known := keeps.known
  connectors connector mem keep := keeps.connectors connector mem (sub _ keep)

/-- The same connectors in another order, or the same backup. -/
theorem Keeps.of_perm (same : chargingStation'.id = chargingStation.id)
    (perm : chargingStation'.allConnectors.Perm chargingStation.allConnectors) :
    Keeps kept chargingStation chargingStation' where
  id := same
  known _ mem := (perm.map Connector.connectorId).mem_iff.mpr mem
  connectors _ mem _ := perm.mem_iff.mpr mem

theorem mem_updateConnector_of_ne {connectorID : ℕ} {f : Connector → Connector}
    {connectors : List Connector} {connector : Connector} (mem : connector ∈ connectors)
    (ne : connector.connectorId ≠ connectorID) :
    connector ∈ OCPPUtils.updateConnector connectorID f connectors := by
  induction connectors with
  | nil => cases mem
  | cons first rest ih =>
      rw [OCPPUtils.updateConnector]
      rcases List.mem_cons.mp mem with rfl | later
      · rw [if_neg ne]
        exact List.mem_cons_self
      · split
        · exact List.mem_cons_of_mem _ later
        · exact List.mem_cons_of_mem _ (ih later)

/-- One connector is updated. -/
theorem connectorIds_updateConnector {connectorID : ℕ} {f : Connector → Connector}
    (same : ∀ connector, connector.connectorId = connectorID →
      (f connector).connectorId = connectorID) (chargingStation : ChargingStation) :
    connectorIds { chargingStation with
        connectors := OCPPUtils.updateConnector connectorID f chargingStation.connectors } =
      chargingStation.connectorIds := by
  unfold connectorIds allConnectors
  rw [List.map_append, List.map_append, OCPPUtils.map_connectorId_updateConnector same]

theorem keeps_updateConnector {connectorID : ℕ} {f : Connector → Connector}
    (same : ∀ connector, connector.connectorId = connectorID →
      (f connector).connectorId = connectorID) (chargingStation : ChargingStation) :
    Keeps (· ≠ connectorID) chargingStation { chargingStation with
      connectors := OCPPUtils.updateConnector connectorID f chargingStation.connectors } where
  id := rfl
  known connectorId mem := by
    rw [connectorIds_updateConnector same]
    exact mem
  connectors connector mem ne := by
    rcases List.mem_append.mp mem with current | backup
    · exact List.mem_append_left _ (mem_updateConnector_of_ne current ne)
    · exact List.mem_append_right _ backup

/-- Each connector has its own ID. -/
def Apart (chargingStation : ChargingStation) : Prop := chargingStation.connectorIds.Nodup

end ChargingStation

open ChargingStation

namespace OCPPService

variable {kept : ℕ → Prop} {chargingStation chargingStation' : ChargingStation}

/-! ## Status notifications -/

/-- A connector that the station reports is taken from its backup, or is new. -/
theorem keeps_addConnector (chargingStation : ChargingStation) (connectorId : ℕ) :
    Keeps (· ≠ connectorId) chargingStation (addConnector chargingStation connectorId).1 := by
  unfold addConnector
  cases hbackup : getLastSeenConnectorFromID chargingStation connectorId with
  | some connector =>
      obtain ⟨-, sameID⟩ := getLastSeenConnectorFromID_eq_some hbackup
      -- The others stay where they are.
      have others : ∀ other ∈ chargingStation.allConnectors, other.connectorId ≠ connectorId →
          other ∈ chargingStation.connectors ++ [connector] ++
            chargingStation.backupConnectors.filter fun backupConnector =>
              backupConnector.connectorId ≠ connector.connectorId := by
        intro other mem ne
        rcases List.mem_append.mp mem with current | backup
        · exact List.mem_append_left _ (List.mem_append_left _ current)
        · refine List.mem_append_right _ (List.mem_filter.mpr ⟨backup, ?_⟩)
          rw [sameID]
          exact decide_eq_true ne
      refine ⟨rfl, fun id mem => ?_, others⟩
      obtain ⟨other, hother, rfl⟩ := List.mem_map.mp mem
      rcases eq_or_ne other.connectorId connectorId with same | ne
      · rw [same, ← sameID]
        exact List.mem_map_of_mem (List.mem_append_left _
          (List.mem_append_right _ List.mem_cons_self))
      · exact List.mem_map_of_mem (others other hother ne)
  | none =>
      have all : ∀ other ∈ chargingStation.allConnectors,
          other ∈ chargingStation.connectors ++ [({
            connectorId := connectorId, status := .unavailable, power := some 0 } : Connector)] ++
              chargingStation.backupConnectors := by
        intro other mem
        rcases List.mem_append.mp mem with current | backup
        · exact List.mem_append_left _ (List.mem_append_left _ current)
        · exact List.mem_append_right _ backup
      refine ⟨rfl, fun id mem => ?_, fun other mem _ => all other mem⟩
      obtain ⟨other, hother, rfl⟩ := List.mem_map.mp mem
      exact List.mem_map_of_mem (all other hother)

/-- What a status notification does to the connectors of its station, before it is saved. -/
theorem keeps_checkAndGetConnector {context : NotificationContext}
    {statusNotification : OCPPStatusNotificationRequest} {connector : Connector}
    (apart : chargingStation.Apart)
    (h : checkAndGetConnectorFromStatusNotification context chargingStation statusNotification =
      .ok (some (chargingStation', connector))) :
    chargingStation'.Apart ∧
      Keeps (· ≠ statusNotification.connectorId) chargingStation chargingStation' ∧
      connector.connectorId = statusNotification.connectorId := by
  obtain ⟨sameID, ⟨rfl, -⟩ | ⟨absent, added, hadded, enriched⟩⟩ := checkAndGetConnector_cases h
  · exact ⟨apart, .refl _, sameID⟩
  have apartAdded : (addConnector chargingStation statusNotification.connectorId).1.Apart :=
    nodup_addConnector apart absent
  have keeps := keeps_addConnector chargingStation statusNotification.connectorId
  rw [hadded] at apartAdded keeps
  rcases enriched with rfl | ⟨template, chargePoints, rfl⟩
  · exact ⟨apartAdded, keeps, sameID⟩
  · have same : ∀ other : Connector, other.connectorId = statusNotification.connectorId →
        (enrichConnector template other).connectorId = statusNotification.connectorId :=
      fun _ same => same
    have enriched := keeps_updateConnector same added
    refine ⟨?_, keeps.trans ⟨enriched.id, enriched.known, enriched.connectors⟩, sameID⟩
    exact (congrArg List.Nodup (connectorIds_updateConnector same added)).mpr apartAdded

/-- The runtime data of the connector is cleared, at most. -/
theorem keeps_checkAndUpdateLastCompletedTransaction {context : NotificationContext}
    {statusNotification : OCPPStatusNotificationRequest} {connector : Connector}
    {store store' : Store} {result : Except String ChargingStation}
    (h : checkAndUpdateLastCompletedTransaction context chargingStation statusNotification
      connector store = (result, store')) :
    store'.chargingStations = store.chargingStations ∧
      ∀ updated, result = .ok updated → (updated.Apart ↔ chargingStation.Apart) ∧
        Keeps (· ≠ connector.connectorId) chargingStation updated := by
  -- The last transaction is one of the connector.
  have cleared (lastTransaction : Transaction)
      (hlast : TransactionStorage.getLastTransactionFromChargingStation store chargingStation.id
        connector.connectorId = some lastTransaction) :
      ((OCPPUtils.clearChargingStationConnectorRuntimeData chargingStation
          lastTransaction.connectorId).Apart ↔ chargingStation.Apart) ∧
        Keeps (· ≠ connector.connectorId) chargingStation
          (OCPPUtils.clearChargingStationConnectorRuntimeData chargingStation
            lastTransaction.connectorId) := by
    obtain ⟨-, ofConnector⟩ :=
      TransactionStorage.getLastTransactionFromChargingStation_eq_some hlast
    have same : ∀ other : Connector, other.connectorId = connector.connectorId →
        (OCPPUtils.clearRuntimeData other).connectorId = connector.connectorId :=
      fun _ same => same
    rw [ofConnector]
    exact ⟨iff_of_eq (congrArg List.Nodup (connectorIds_updateConnector same chargingStation)),
      keeps_updateConnector same chargingStation⟩
  rcases checkAndUpdateLastCompletedTransaction_cases h with
    ⟨-, rfl, rfl⟩ | ⟨-, lastTransaction, hlast, ⟨-, rfl, rfl⟩ | ⟨-, completed, hcomplete, rfl⟩⟩
  · refine ⟨rfl, fun updated same => ?_⟩
    cases same
    exact ⟨Iff.rfl, .refl _⟩
  · refine ⟨rfl, fun updated ok => ?_⟩
    cases ok
    exact cleared lastTransaction hlast
  · have same : store.SameBut lastTransaction.id store' :=
      (changes_completeLastTransaction context _ lastTransaction).of_eq hcomplete
    refine ⟨same.chargingStations, fun updated ok => ?_⟩
    obtain ⟨_, -, rfl⟩ := Outcome.map_eq_ok.mp ok
    exact cleared lastTransaction hlast

/-- The status is written, and the connectors are sorted. -/
theorem keeps_updateConnectorFromStatusNotification
    (statusNotification : OCPPStatusNotificationRequest) (chargingStation : ChargingStation) :
    ((updateConnectorFromStatusNotification statusNotification statusNotification.connectorId
        chargingStation).Apart ↔ chargingStation.Apart) ∧
      Keeps (· ≠ statusNotification.connectorId) chargingStation
        (updateConnectorFromStatusNotification statusNotification
          statusNotification.connectorId chargingStation) := by
  have same : ∀ connector : Connector,
      connector.connectorId = statusNotification.connectorId →
        (updateConnectorStatus statusNotification connector).connectorId =
          statusNotification.connectorId := fun _ _ => rfl
  have sorted : (updateConnectorFromStatusNotification statusNotification
      statusNotification.connectorId chargingStation).allConnectors.Perm
        (allConnectors { chargingStation with
          connectors := OCPPUtils.updateConnector statusNotification.connectorId
            (updateConnectorStatus statusNotification) chargingStation.connectors }) :=
    (List.perm_insertionSort _ _).append_right _
  constructor
  · refine (sorted.map Connector.connectorId).nodup_iff.trans ?_
    exact iff_of_eq (congrArg List.Nodup (connectorIds_updateConnector same chargingStation))
  · exact (keeps_updateConnector same chargingStation).trans (.of_perm rfl sorted)

/-! ## Boot notifications -/

/-- A boot backs up all the connectors when none of them is backed up already. -/
theorem backUpConnectors_of_apart {connectors backupConnectors : List Connector}
    (apart : ((connectors ++ backupConnectors).map Connector.connectorId).Nodup) :
    backUpConnectors connectors backupConnectors = backupConnectors ++ connectors := by
  unfold backUpConnectors
  induction connectors generalizing backupConnectors with
  | nil => exact (List.append_nil _).symm
  | cons first rest ih =>
      have new : ¬ backupConnectors.any fun backupConnector =>
          backupConnector.connectorId = first.connectorId := by
        intro old
        obtain ⟨backup, mem, same⟩ := List.any_eq_true.mp old
        rw [List.cons_append, List.map_cons, List.nodup_cons] at apart
        refine apart.1 (List.mem_map.mpr ⟨backup, List.mem_append_right _ mem, ?_⟩)
        exact of_decide_eq_true same
      rw [List.foldl_cons, if_neg new, ih, List.append_assoc, List.singleton_append]
      have perm : (first :: rest ++ backupConnectors).Perm
          (rest ++ (backupConnectors ++ [first])) := by
        rw [List.cons_append, ← List.append_assoc]
        exact (List.perm_append_singleton first _).symm
      exact ((perm.map Connector.connectorId).nodup_iff).mp apart

theorem keeps_enrichChargingStationFromBootNotification
    (bootNotification : OCPPBootNotificationRequest) (apart : chargingStation.Apart) :
    (enrichChargingStationFromBootNotification bootNotification chargingStation).Apart ∧
      Keeps kept chargingStation
        (enrichChargingStationFromBootNotification bootNotification chargingStation) := by
  have backedUp : (enrichChargingStationFromBootNotification bootNotification
      chargingStation).allConnectors.Perm chargingStation.allConnectors := by
    change (backUpConnectors chargingStation.connectors chargingStation.backupConnectors).Perm _
    rw [backUpConnectors_of_apart apart]
    exact List.perm_append_comm
  exact ⟨((backedUp.map Connector.connectorId).nodup_iff).mpr apart, .of_perm rfl backedUp⟩

end OCPPService

/-! ## Runs -/

namespace Store

open OCPPService

/-- The stations know each of their connectors once. -/
def ConnectorsApart (store : Store) : Prop :=
  ∀ chargingStation ∈ store.chargingStations.docs, chargingStation.Apart

/-- The stations know their connectors, each once, and those to be kept are the same. -/
structure KeepsConnectors (kept : String → ℕ → Prop) (store store' : Store) : Prop where
  apart : store'.ConnectorsApart
  keeps : ∀ chargeBoxID chargingStation,
    store.chargingStations.find chargeBoxID = some chargingStation →
      ∃ chargingStation', store'.chargingStations.find chargeBoxID = some chargingStation' ∧
        chargingStation.Keeps (kept chargeBoxID) chargingStation'

variable {kept kept' : String → ℕ → Prop} {store store' : Store}

theorem KeepsConnectors.of_same (apart : store.ConnectorsApart)
    (same : store'.chargingStations = store.chargingStations) :
    KeepsConnectors kept store store' where
  apart := by
    unfold ConnectorsApart
    rw [same]
    exact apart
  keeps chargeBoxID chargingStation found :=
    ⟨chargingStation, by rw [same]; exact found, .refl _⟩

theorem KeepsConnectors.trans {between : Store} (first : KeepsConnectors kept store between)
    (second : KeepsConnectors kept between store') : KeepsConnectors kept store store' where
  apart := second.apart
  keeps chargeBoxID chargingStation found := by
    obtain ⟨station, found, keeps⟩ := first.keeps chargeBoxID chargingStation found
    obtain ⟨station', found', keeps'⟩ := second.keeps chargeBoxID station found
    exact ⟨station', found', keeps.trans keeps'⟩

theorem KeepsConnectors.mono (keeps : KeepsConnectors kept store store')
    (sub : ∀ chargeBoxID connectorId, kept' chargeBoxID connectorId →
      kept chargeBoxID connectorId) : KeepsConnectors kept' store store' where
  apart := keeps.apart
  keeps chargeBoxID chargingStation found := by
    obtain ⟨station, found, keeps⟩ := keeps.keeps chargeBoxID chargingStation found
    exact ⟨station, found, keeps.mono (sub chargeBoxID)⟩

/-- A station is saved, which is new or knows what it has known. -/
theorem KeepsConnectors.save {saved : ChargingStation} (apart : store.ConnectorsApart)
    (same : store'.chargingStations = store.chargingStations.save saved)
    (savedApart : saved.Apart)
    (known : ∀ chargingStation, store.chargingStations.find saved.id = some chargingStation →
      chargingStation.Keeps (kept saved.id) saved) : KeepsConnectors kept store store' where
  apart := by
    intro chargingStation mem
    rw [same] at mem
    rcases Collection.mem_save mem with rfl | mem
    · exact savedApart
    · exact apart chargingStation mem
  keeps := by
    intro chargeBoxID chargingStation found
    rw [same]
    rcases eq_or_ne chargeBoxID saved.id with rfl | other
    · exact ⟨saved, Collection.find_save_self, known chargingStation found⟩
    · exact ⟨chargingStation, (Collection.find_save_of_ne other).trans found, .refl _⟩

/-- **A status notification** keeps the connectors that it does not report. -/
theorem ConnectorsApart.statusNotification (apart : store.ConnectorsApart)
    (context : NotificationContext) {headers : OCPPHeader}
    (statusNotification : OCPPStatusNotificationRequest)
    (station : headers.chargingStation = store.chargingStations.find headers.chargeBoxIdentity) :
    KeepsConnectors (fun chargeBoxID connectorId =>
        ¬ (chargeBoxID = headers.chargeBoxIdentity ∧
          connectorId = statusNotification.connectorId)) store
      (handleStatusNotification context headers statusNotification store).2 := by
  generalize left : (handleStatusNotification context headers statusNotification store).2 = store'
  rcases handleStatusNotification_cases left with
    rfl | ⟨chargingStation, request, reported, connector, result, between, hstation, valid, -,
      hfound, hlast, saved⟩
  · exact .of_same apart rfl
  have found := station.symm.trans hstation
  have sameStation : chargingStation.id = headers.chargeBoxIdentity :=
    Collection.key_of_find found
  obtain ⟨reportedApart, reportedKeeps, sameID⟩ := keeps_checkAndGetConnector
    (apart chargingStation (Collection.mem_of_find found)) hfound
  obtain ⟨same, completed⟩ := keeps_checkAndUpdateLastCompletedTransaction hlast
  rcases saved with ⟨rfl, -⟩ | ⟨updated, ok, rfl⟩
  · exact .of_same apart same
  obtain ⟨updatedApart, updatedKeeps⟩ := completed updated ok
  rw [sameID] at updatedKeeps
  obtain ⟨savedApart, savedKeeps⟩ := keeps_updateConnectorFromStatusNotification request updated
  refine .save apart (congrArg (Collection.save _) same)
    (savedApart.mpr (updatedApart.mpr reportedApart)) ?_
  intro stored hstored
  have keeps := (reportedKeeps.trans updatedKeeps).trans savedKeeps
  rw [keeps.id, sameStation, found] at hstored
  cases hstored
  refine keeps.mono fun connectorId keep => ?_
  rw [validateStatusNotification_ok valid]
  intro same
  exact keep ⟨keeps.id.trans sameStation, same⟩

/-- **A boot notification** keeps all connectors. -/
theorem ConnectorsApart.bootNotification (apart : store.ConnectorsApart)
    (context : NotificationContext) {headers : OCPPHeader}
    (bootNotification : OCPPBootNotificationRequest)
    (station : headers.chargingStation = store.chargingStations.find headers.chargeBoxIdentity) :
    KeepsConnectors kept store
      (handleBootNotification context headers bootNotification store).2 := by
  unfold handleBootNotification
  rw [Handler.handle_snd]
  cases hget : getChargingStationFromBootNotification context headers bootNotification with
  | error error => exact .of_same apart rfl
  | ok chargingStation =>
    -- What is stored under the ID of the station is the station, if anything is.
    have stored : chargingStation.Apart ∧ ∀ found,
        store.chargingStations.find chargingStation.id = some found → found = chargingStation := by
      rcases getChargingStationFromBootNotification_ok hget with known | ⟨new, sameID, none⟩
      · have found := station.symm.trans known
        refine ⟨apart _ (Collection.mem_of_find found), fun other hother => ?_⟩
        rw [Collection.key_of_find found, found] at hother
        exact (Option.some.inj hother).symm
      · have apart : chargingStation.Apart := by
          rw [Apart, connectorIds, none]
          exact List.nodup_nil
        refine ⟨apart, fun other hother => ?_⟩
        rw [sameID, ← station, new] at hother
        cases hother
    rw [Handler.ofExcept_ok_bind]
    cases context.saveChargingStationFirmwareStatus chargingStation with
    | error error => exact .of_same apart rfl
    | ok _ =>
      rw [Handler.ofExcept_ok_bind]
      have ⟨bootedApart, keeps⟩ := @keeps_enrichChargingStationFromBootNotification
        (kept chargingStation.id) chargingStation bootNotification stored.1
      generalize enrichChargingStationFromBootNotification bootNotification chargingStation =
        booted at bootedApart keeps
      have known (found : ChargingStation)
          (hfound : store.chargingStations.find booted.id = some found) :
          found.Keeps (kept booted.id) booted := by
        rw [keeps.id] at hfound ⊢
        rw [stored.2 found hfound]
        exact keeps
      cases context.chargingStationTemplate booted with
      | error error => exact .of_same apart rfl
      | ok template =>
        rw [Handler.ofExcept_ok_bind]
        unfold ChargingStationStorage.saveChargingStation
        cases context.database .saveChargingStation with
        | error error => exact .of_same apart rfl
        | ok _ =>
          rw [Handler.write_ok_bind]
          cases template with
          | none =>
              cases context.saveBootNotification <;> exact .save apart rfl bootedApart known
          | some template =>
              -- The template says nothing about the connectors.
              have appliedApart : (applyTemplate template booted).Apart := bootedApart
              have applied (found : ChargingStation)
                  (hfound : store.chargingStations.find booted.id = some found) :
                  found.Keeps (kept booted.id) (applyTemplate template booted) :=
                ⟨(known found hfound).id, (known found hfound).known,
                  (known found hfound).connectors⟩
              cases context.saveBootNotification <;> exact .save apart rfl appliedApart applied

end Store

namespace StationEvent

/-- A boot or a status notification. -/
def IsNotification : StationEvent → Prop
  | .statusNotification _ _ _ => True
  | .bootNotification _ _ _ => True
  | _ => False

/-- A status notification for the connector. -/
def Reports (chargeBoxID : String) (connectorId : ℕ) : StationEvent → Prop
  | .statusNotification _ chargeBoxIdentity notification =>
      chargeBoxIdentity = chargeBoxID ∧ notification.connectorId = connectorId
  | _ => False

end StationEvent

namespace Store

variable {kept : String → ℕ → Prop} {store store' : Store}

/-- A status notification for the connector is applied: it is neither ignored nor does it
fail. -/
def Applies (store : Store) (event : StationEvent) (chargeBoxID : String) (connectorId : ℕ) :
    Prop :=
  event.Reports chargeBoxID connectorId ∧
    (store.afterEvent event).chargingStations ≠ store.chargingStations

/-- **The step lemma.**  The connectors are kept for which no notification is applied. -/
theorem ConnectorsApart.afterEvent (apart : store.ConnectorsApart) {event : StationEvent}
    (isNotification : event.IsNotification)
    (notApplied : ∀ chargeBoxID connectorId, kept chargeBoxID connectorId →
      ¬ store.Applies event chargeBoxID connectorId) :
    KeepsConnectors kept store (store.afterEvent event) := by
  cases event with
  | statusNotification context chargeBoxIdentity statusNotification =>
      by_cases same : (store.afterEvent (.statusNotification context chargeBoxIdentity
          statusNotification)).chargingStations = store.chargingStations
      · exact .of_same apart same
      · have headers : (store.headers chargeBoxIdentity).chargingStation =
            store.chargingStations.find (store.headers chargeBoxIdentity).chargeBoxIdentity := rfl
        refine (apart.statusNotification context statusNotification headers).mono ?_
        rintro chargeBoxID connectorId keep ⟨rfl, rfl⟩
        exact notApplied _ _ keep ⟨⟨rfl, rfl⟩, same⟩
  | bootNotification context chargeBoxIdentity bootNotification =>
      exact apart.bootNotification context bootNotification rfl
  | _ => cases isNotification

/-- The run lemma. -/
theorem ConnectorsApart.run (apart : store.ConnectorsApart) {events : List StationEvent}
    {Guard : Store → StationEvent → Prop}
    (admits : ∀ store event, Guard store event → event.IsNotification ∧
      ∀ chargeBoxID connectorId, kept chargeBoxID connectorId →
        ¬ store.Applies event chargeBoxID connectorId)
    (run : Transition.Run (Transition.guarded Guard Serves) store events store') :
    KeepsConnectors kept store store' := by
  induction run with
  | refl => exact .of_same apart rfl
  | snoc _ step ih =>
      obtain ⟨guard, rfl⟩ := step
      obtain ⟨isNotification, notApplied⟩ := admits _ _ guard
      exact ih.trans (ih.apart.afterEvent isNotification notApplied)

/-- **The connectors of a station.**  After any boot and status notifications the IDs of the
connectors and of the backup are pairwise distinct, no ID is lost, and a connector is what it
was, with the data of its session, until a status notification for it is applied. -/
theorem connectors_of_run {events : List StationEvent} (apart : store.ConnectorsApart)
    (run : Transition.Run (Transition.guarded (fun _ event => event.IsNotification) Serves) store
      events store') :
    (∀ chargingStation ∈ store'.chargingStations.docs,
      ((chargingStation.connectors ++ chargingStation.backupConnectors).map
        Connector.connectorId).Nodup) ∧
    (∀ chargeBoxID chargingStation,
      store.chargingStations.find chargeBoxID = some chargingStation →
        ∃ chargingStation', store'.chargingStations.find chargeBoxID = some chargingStation' ∧
          ∀ connector ∈ chargingStation.connectors ++ chargingStation.backupConnectors,
            ∃ connector' ∈ chargingStation'.connectors ++ chargingStation'.backupConnectors,
              connector'.connectorId = connector.connectorId) ∧
    ∀ chargeBoxID chargingStation,
      store.chargingStations.find chargeBoxID = some chargingStation →
        ∀ connector ∈ chargingStation.connectors ++ chargingStation.backupConnectors,
          Transition.Run (Transition.guarded (fun store event => event.IsNotification ∧
              ¬ store.Applies event chargeBoxID connector.connectorId) Serves) store
            events store' →
          ∃ chargingStation', store'.chargingStations.find chargeBoxID = some chargingStation' ∧
            connector ∈ chargingStation'.connectors ++ chargingStation'.backupConnectors := by
  have keeps : KeepsConnectors (fun _ _ => False) store store' :=
    apart.run (fun _ _ isNotification => ⟨isNotification, fun _ _ => False.elim⟩) run
  refine ⟨keeps.apart, ?_, ?_⟩
  · intro chargeBoxID chargingStation found
    obtain ⟨chargingStation', found', keeps⟩ := keeps.keeps chargeBoxID chargingStation found
    refine ⟨chargingStation', found', fun connector mem => ?_⟩
    exact List.mem_map.mp (keeps.known connector.connectorId (List.mem_map_of_mem mem))
  · intro chargeBoxID chargingStation found connector mem run
    have keeps : KeepsConnectors
        (fun box id => box = chargeBoxID ∧ id = connector.connectorId) store store' := by
      refine apart.run (fun store event guard => ⟨guard.1, ?_⟩) run
      rintro _ _ ⟨rfl, rfl⟩
      exact guard.2
    obtain ⟨chargingStation', found', keeps⟩ := keeps.keeps chargeBoxID chargingStation found
    exact ⟨chargingStation', found', keeps.connectors connector mem ⟨rfl, rfl⟩⟩

/-- The station of the example boots. -/
def exampleBoot : StationEvent :=
  .bootNotification {} "CS-1" { chargePointVendor := "", chargePointModel := "" }

/-- It reports its second connector. -/
def exampleReport : StationEvent :=
  .statusNotification {} "CS-1" { connectorId := 2, status := .available }

/-- Transaction 7 runs on connector 1 when the station boots, reports connector 2 and boots
again. -/
theorem connectors_of_run_booted :
    ∃ store' : Store, ∃ chargingStation ∈ store'.chargingStations.docs,
      chargingStation.backupConnectors.map
          (fun connector => (connector.connectorId, connector.currentTransactionID)) =
        [(1, 7), (2, 0)] ∧
      ((chargingStation.connectors ++ chargingStation.backupConnectors).map
        Connector.connectorId).Nodup := by
  have apart : (exampleStation.afterEvent exampleStart).ConnectorsApart := by
    have apart : ∀ chargingStation ∈
        (exampleStation.afterEvent exampleStart).chargingStations.docs,
          (chargingStation.allConnectors.map Connector.connectorId).Nodup := by
      decide +kernel
    exact apart
  have run : Transition.Run (Transition.guarded (fun _ event => event.IsNotification) Serves)
      (exampleStation.afterEvent exampleStart) [exampleBoot, exampleReport, exampleBoot]
      ((((exampleStation.afterEvent exampleStart).afterEvent exampleBoot).afterEvent
        exampleReport).afterEvent exampleBoot) :=
    .snoc (.snoc (.single ⟨trivial, rfl⟩) ⟨trivial, rfl⟩) ⟨trivial, rfl⟩
  have backup : ∃ chargingStation ∈ ((((exampleStation.afterEvent exampleStart).afterEvent
      exampleBoot).afterEvent exampleReport).afterEvent exampleBoot).chargingStations.docs,
      chargingStation.backupConnectors.map
          (fun connector => (connector.connectorId, connector.currentTransactionID)) =
        [(1, 7), (2, 0)] := by
    decide +kernel
  obtain ⟨chargingStation, mem, backup⟩ := backup
  exact ⟨_, chargingStation, mem, backup, (connectors_of_run apart run).1 chargingStation mem⟩

end Store

end EvServer
