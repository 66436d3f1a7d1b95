import EvServer.Lib.Copies
import EvServer.Rest.StationCopies

/-!
# Older copies of a charging station

The requests of a station, the soft stops of users and the task that closes transactions each
read the station, do other work and save it with all its connectors.  Reading is a step of its
own here, and so is all that a handler does with its copy, so that handlers read and save in
every order; the transactions and the consumptions may change at any time in between.

A handler that saves an older copy restores what another one has changed on another connector.
In the runs in which no handler acts on a copy read before a handler about another connector
changed the station, each one changes the connector that it is about, and no other one.
-/

namespace EvServer

/-- What is asked about a connector of a station that has been read.  A soft stop comes with the
transaction that has been read before. -/
inductive StationRequest
  | startTransaction (context : StartContext) (startTransaction : OCPPStartTransactionRequest)
  | meterValues (context : MeterValuesHandlerContext) (meterValues : OCPPMeterValuesRequest)
  | stopTransaction (context : StopContext) (stopTransaction : OCPPStopTransactionRequest)
  | statusNotification (context : NotificationContext)
      (statusNotification : OCPPStatusNotificationRequest)
  /-- `handleTransactionSoftStop`. -/
  | softStop (context : TransactionServiceContext) (transaction : Transaction)
  /-- One transaction of the `CloseTransactionsInProgressTask`, which comes with its station. -/
  | closeTransaction (context : TransactionServiceContext) (transaction : Transaction)

namespace StationRequest

open OCPPService

/-- What the handler of the request leaves in the store. -/
def handle (chargingStation : ChargingStation) (store : Store) : StationRequest → Store
  | .startTransaction context request =>
      (handleStartTransaction context 2 ⟨chargingStation.id, some chargingStation⟩ request store).2
  | .meterValues context request =>
      (handleMeterValuesRequest context ⟨chargingStation.id, some chargingStation⟩ request store).2
  | .stopTransaction context request =>
      (handleStopTransaction context ⟨chargingStation.id, some chargingStation⟩ request false false
        store).2
  | .statusNotification context request =>
      (handleStatusNotification context ⟨chargingStation.id, some chargingStation⟩ request store).2
  | .softStop context transaction =>
      match Utils.getConnectorFromID chargingStation transaction.connectorId with
      | none => store
      | some connector =>
          (TransactionService.continueSoftStop context transaction none chargingStation connector
            store).2
  | .closeTransaction context transaction =>
      (TransactionService.softStopTransaction context transaction (some chargingStation)
        chargingStation store).2

/-- The connector that the request is about: the one that it names, or that of its
transaction. -/
def connectorId (chargingStation : ChargingStation) (store : Store) : StationRequest → Option ℕ
  | .startTransaction _ request => some request.connectorId
  | .meterValues _ request => connectorOfMeterValues chargingStation request store
  | .stopTransaction _ request => store.connectorOfTransaction request.transactionId
  | .statusNotification _ request => some request.connectorId
  | .softStop _ transaction => TransactionService.connectorOfSoftStop transaction store
  | .closeTransaction _ transaction => store.connectorOfTransaction transaction.id

/-- **Every handler** writes its copy back, the connector apart that it is about. -/
theorem writesBack (request : StationRequest) (chargingStation : ChargingStation)
    (store : Store) :
    WritesBack chargingStation (request.connectorId chargingStation store) store
      (request.handle chargingStation store) := by
  cases request with
  | startTransaction context request => exact writesBack_start rfl
  | meterValues context request => exact writesBack_meterValues context rfl request
  | stopTransaction context request => exact writesBack_stop context rfl request false false
  | statusNotification context request => exact writesBack_statusNotification rfl
  | softStop context transaction =>
      unfold handle
      dsimp only
      split
      · exact .same rfl
      · exact TransactionService.writesBack_continueSoftStop context transaction none _
  | closeTransaction context transaction =>
      exact TransactionService.writesBack_softStopTransaction context transaction _

end StationRequest

/-! ## The system -/

/-- The copy of a station that a handler has read.  The connectors that other handlers have
changed since are there for the proofs; no step depends on them. -/
structure StationCopy where
  chargingStation : ChargingStation
  changed : List ℕ := []

/-- The database, and the copies of the handlers. -/
structure CopiesState (P : Type) where
  store : Store
  copy : P → Option StationCopy := fun _ => none

/-- A step of the handlers in `P`, or of others. -/
inductive CopiesEvent (P : Type)
  | read (p : P) (chargeBoxIdentity : String)
  | serve (p : P) (request : StationRequest)
  /-- The handler throws or crashes before it does anything. -/
  | abort (p : P)
  | deleteTransactions (context : TransactionServiceContext) (transactionsIDs : List ℕ)
  /-- Transactions and consumptions are saved or deleted. -/
  | save (transactions : Collection Transaction.id) (consumptions : Collection Consumption.key)

/-- The copy after connectors of a station have been changed. -/
def StationCopy.note (chargeBoxID : String) (changed : List ℕ) (copy : StationCopy) :
    StationCopy :=
  if copy.chargingStation.id = chargeBoxID then
    { copy with changed := changed ++ copy.changed }
  else copy

/-- The copy as one of a record. -/
def StationCopy.record (copy : StationCopy) :
    Copies.Copy String ℕ (Option (Option Connector × Option Connector)) where
  key := copy.chargingStation.id
  cells connectorId := some (copy.chargingStation.connectorOf connectorId)
  written := { connectorId | connectorId ∈ copy.changed }

theorem StationCopy.note_nil (chargeBoxID : String) (copy : StationCopy) :
    copy.note chargeBoxID [] = copy := by
  unfold StationCopy.note
  split <;> rfl

theorem StationCopy.record_note (chargeBoxID : String) (connectorId : ℕ) (copy : StationCopy) :
    (copy.note chargeBoxID [connectorId]).record = copy.record.note chargeBoxID connectorId := by
  unfold StationCopy.note Copies.Copy.note
  by_cases same : copy.chargingStation.id = chargeBoxID
  · rw [if_pos same, if_pos (show copy.record.key = chargeBoxID from same)]
    refine Copies.Copy.ext rfl rfl (Set.ext fun other => ?_)
    exact List.mem_cons
  · rw [if_neg same, if_neg (show copy.record.key ≠ chargeBoxID from same)]

namespace CopiesState

variable {P : Type} [DecidableEq P]

def setCopy (s : CopiesState P) (p : P) (copy : Option StationCopy) : CopiesState P :=
  { s with copy := Function.update s.copy p copy }

/-- The handler does its work with the copy. -/
def serve (s : CopiesState P) (p : P) (copy : StationCopy) (request : StationRequest) :
    CopiesState P :=
  let store := request.handle copy.chargingStation s.store
  let changed :=
    if store.chargingStations = s.store.chargingStations then []
    else (request.connectorId copy.chargingStation s.store).toList
  { store := store
    copy := fun q =>
      if q = p then none
      else (s.copy q).map (StationCopy.note copy.chargingStation.id changed) }

/-- The state after an event; `none` when it cannot happen. -/
def next (s : CopiesState P) : CopiesEvent P → Option (CopiesState P)
  | .read p chargeBoxIdentity =>
      (s.store.chargingStations.find chargeBoxIdentity).map fun chargingStation =>
        s.setCopy p (some { chargingStation := chargingStation })
  | .serve p request => (s.copy p).map fun copy => s.serve p copy request
  | .abort p => some (s.setCopy p none)
  | .deleteTransactions context transactionsIDs =>
      some { s with
        store := (TransactionService.deleteTransactions context transactionsIDs s.store).2 }
  | .save transactions consumptions =>
      some { s with
        store := { s.store with transactions := transactions, consumptions := consumptions } }

/-- A step of the system. -/
def Step (s : CopiesState P) (event : CopiesEvent P) (s' : CopiesState P) : Prop :=
  s.next event = some s'

omit [DecidableEq P] in
/-- The event is what a handler does about the connector. -/
def Concerns (chargeBoxID : String) (connectorId : ℕ) (s : CopiesState P) :
    CopiesEvent P → Prop
  | .serve p request => ∃ copy ∈ s.copy p, copy.chargingStation.id = chargeBoxID ∧
      request.connectorId copy.chargingStation s.store = some connectorId
  | .read .. | .abort _ | .deleteTransactions .. | .save .. => False

omit [DecidableEq P] in
/-- **The condition on a run**: since the copy has been read that a handler acts on, no handler
about another connector has changed the station. -/
def NotOverwritten (s : CopiesState P) : CopiesEvent P → Prop
  | .serve p request => ∀ copy ∈ s.copy p, ∀ connectorId ∈ copy.changed,
      request.connectorId copy.chargingStation s.store = some connectorId
  | .read .. | .abort _ | .deleteTransactions .. | .save .. => True

/-! ## The stations as records, their connectors as cells -/

/-- The stations, with what is stored of their connectors. -/
def records (s : CopiesState P) :
    Copies.State P String ℕ (Option (Option Connector × Option Connector)) where
  cells := s.store.connectorOf
  copy p := (s.copy p).map StationCopy.record

variable {s s' : CopiesState P} {event : CopiesEvent P}

omit [DecidableEq P] in
/-- What is not about stations leaves the records. -/
theorem records_eq {store : Store} (same : store.chargingStations = s.store.chargingStations) :
    records { s with store := store } = s.records := by
  unfold records
  congr 1
  funext chargeBoxID connectorId
  rw [Store.connectorOf, Store.connectorOf, same]

theorem records_setCopy (s : CopiesState P) (p : P) (copy : Option StationCopy) :
    (s.setCopy p copy).records =
      { s.records with
        copy := Function.update s.records.copy p (copy.map StationCopy.record) } := by
  unfold records setCopy
  congr 1
  funext q
  by_cases same : q = p
  · subst same
    simp only [Function.update_self]
  · simp only [Function.update_of_ne same]

omit [DecidableEq P] in
/-- A deletion leaves the stations. -/
theorem chargingStations_deleteTransactions (context : TransactionServiceContext)
    (transactionsIDs : List ℕ) (store : Store) :
    (TransactionService.deleteTransactions context transactionsIDs store).2.chargingStations =
      store.chargingStations := by
  rcases TransactionService.deleteTransactions_apply context transactionsIDs store with
    same | ⟨-, consumptions, after⟩
  · rw [same]
  · rw [after]

/-- A handler that does not change the stations drops its copy. -/
theorem records_serve_of_same {p : P} {copy : StationCopy} {request : StationRequest}
    (same : (request.handle copy.chargingStation s.store).chargingStations =
      s.store.chargingStations) :
    (s.serve p copy request).records =
      { s.records with copy := Function.update s.records.copy p none } := by
  unfold records serve
  dsimp only
  rw [if_pos same]
  congr 1
  · funext chargeBoxID connectorId
    rw [Store.connectorOf, Store.connectorOf, same]
  · funext q
    by_cases isP : q = p
    · subst isP
      rw [if_pos rfl, Function.update_self, Option.map_none]
    · rw [if_neg isP, Function.update_of_ne isP, Option.map_map]
      refine congrArg (Option.map · (s.copy q)) (funext fun other => ?_)
      exact congrArg StationCopy.record (StationCopy.note_nil _ other)

/-- A handler that changes a station writes a cell of its record. -/
theorem records_serve_of_saved {p : P} {copy : StationCopy} {request : StationRequest}
    {saved : ChargingStation} {about : ℕ}
    (isAbout : request.connectorId copy.chargingStation s.store = some about)
    (id : saved.id = copy.chargingStation.id)
    (changes : (request.handle copy.chargingStation s.store).chargingStations ≠
      s.store.chargingStations)
    (after : (request.handle copy.chargingStation s.store).chargingStations =
      s.store.chargingStations.save saved) :
    (s.serve p copy request).records =
      { cells := Function.update s.records.cells copy.record.key
          fun other => some (saved.connectorOf other)
        copy := fun q => if q = p then none
          else (s.records.copy q).map (Copies.Copy.note copy.record.key about) } := by
  unfold records serve
  dsimp only
  rw [if_neg changes, isAbout, Option.toList_some]
  congr 1
  · funext chargeBoxID
    change _ = Function.update s.store.connectorOf copy.chargingStation.id _ chargeBoxID
    rw [← id]
    rcases eq_or_ne chargeBoxID saved.id with rfl | other
    · rw [Function.update_self]
      funext connectorId
      rw [Store.connectorOf, after, Collection.find_save_self, Option.map_some]
    · rw [Function.update_of_ne other]
      funext connectorId
      rw [Store.connectorOf, Store.connectorOf, after, Collection.find_save_of_ne other]
  · funext q
    split
    · rfl
    · rw [Option.map_map, Option.map_map]
      refine congrArg (Option.map · (s.copy q)) (funext fun other => ?_)
      exact StationCopy.record_note _ about other

/-- **The refinement.**  A step under the condition reads, forgets or writes a record, or it does
not change the records; it writes the cell that it concerns. -/
theorem refines_step (notOverwritten : s.NotOverwritten event) (step : Step s event s') :
    ∃ label, Copies.Step s.records label s'.records ∧
      ∀ chargeBoxID connectorId, label = some (chargeBoxID, connectorId) →
        s.Concerns chargeBoxID connectorId event := by
  cases event with
  | read p chargeBoxIdentity =>
      obtain ⟨chargingStation, found, rfl⟩ := Option.map_eq_some_iff.mp step
      refine ⟨none, ?_, nofun⟩
      have isRead : StationCopy.record { chargingStation := chargingStation } =
          ⟨chargeBoxIdentity, s.records.cells chargeBoxIdentity, ∅⟩ := by
        have sameID : chargingStation.id = chargeBoxIdentity := Collection.key_of_find found
        refine Copies.Copy.ext sameID (funext fun connectorId => ?_) ?_
        · change _ = (s.store.chargingStations.find chargeBoxIdentity).map _
          rw [found]
          rfl
        · exact Set.eq_empty_of_forall_notMem fun _ mem => List.not_mem_nil mem
      rw [records_setCopy, Option.map_some, isRead]
      exact .read s.records p chargeBoxIdentity
  | serve p request =>
      obtain ⟨copy, has, rfl⟩ := Option.map_eq_some_iff.mp step
      by_cases same : (request.handle copy.chargingStation s.store).chargingStations =
          s.store.chargingStations
      · refine ⟨none, ?_, nofun⟩
        rw [records_serve_of_same same]
        exact .drop s.records p
      · cases request.writesBack copy.chargingStation s.store with
        | same unchanged => exact absurd unchanged same
        | @saved saved about isAbout id after keeps =>
            refine ⟨some (copy.chargingStation.id, about), ?_, ?_⟩
            · rw [records_serve_of_saved isAbout id same after]
              refine .write s.records _ (congrArg (Option.map StationCopy.record) has) ?_ ?_
              · intro other mem
                exact Option.some.inj ((notOverwritten copy has other mem).symm.trans isAbout)
              · exact fun other ne upToDate => keeps other ne upToDate.symm
            · intro chargeBoxID connectorId isCell
              cases isCell
              exact ⟨copy, has, rfl, isAbout⟩
  | abort p =>
      cases step
      refine ⟨none, ?_, nofun⟩
      rw [records_setCopy]
      exact .drop s.records p
  | deleteTransactions context transactionsIDs =>
      cases step
      refine ⟨none, ?_, nofun⟩
      rw [records_eq (chargingStations_deleteTransactions context transactionsIDs s.store)]
      exact .skip s.records
  | save transactions consumptions =>
      cases step
      exact ⟨none, .skip s.records, nofun⟩

/-! ## Runs -/

/-- **No update of a connector is lost.**  In the runs under the condition, what is stored of a
connector stays what it is as long as no handler acts that is about it. -/
theorem connectorOf_of_run {s₀ : CopiesState P} {events later : List (CopiesEvent P)}
    (idle : ∀ p, s₀.copy p = none)
    (run : Transition.Run (Transition.guarded NotOverwritten Step) s₀ events s)
    (chargeBoxID : String) (connectorId : ℕ)
    (after : Transition.Run (Transition.guarded (fun s event => s.NotOverwritten event ∧
      ¬ s.Concerns chargeBoxID connectorId event) Step) s later s') :
    s'.store.connectorOf chargeBoxID connectorId =
      s.store.connectorOf chargeBoxID connectorId := by
  have upToDate : Copies.UpToDate s.records := by
    have reaches : ∃ labels, Transition.Run Copies.Step s₀.records labels s.records := by
      refine run.simulate records ?_
      rintro t event r ⟨notOverwritten, step⟩
      obtain ⟨label, refined, -⟩ := refines_step notOverwritten step
      exact ⟨label, refined⟩
    obtain ⟨labels, reaches⟩ := reaches
    refine reaches.invariant (Copies.UpToDate.of_idle fun p => ?_) fun _ _ _ h step => h.step step
    exact congrArg (Option.map StationCopy.record) (idle p)
  -- No step writes the cell of the connector.
  have others : ∃ labels, Transition.Run (Transition.guarded
      (fun _ label => label ≠ some (chargeBoxID, connectorId)) Copies.Step) s.records labels
        s'.records := by
    refine after.simulate records ?_
    rintro t event r ⟨⟨notOverwritten, notConcerned⟩, step⟩
    obtain ⟨label, refined, concerns⟩ := refines_step notOverwritten step
    exact ⟨label, fun isCell => notConcerned (concerns _ _ isCell), refined⟩
  obtain ⟨labels, others⟩ := others
  exact upToDate.cells_run others

/-! ## A transaction that is restored -/

/-- A transaction of connector 2 that has not been stopped. -/
def secondTransaction : Transaction where
  id := 82
  chargeBoxID := "CS-71"
  connectorId := 2
  tagID := "TAG-1"
  meterStart := 0
  timestamp := 0

/-- Transaction 72 runs on connector 1; connector 2 is free. -/
def sharedStation : Store where
  chargingStations :=
    Collection.empty.save
      { id := "CS-71"
        connectors :=
          [{ connectorId := 1, status := .charging, currentTransactionID := 72 },
            { connectorId := 2 }] }
  transactions :=
    (Collection.empty.save
      { id := 72
        chargeBoxID := "CS-71"
        connectorId := 1
        tagID := "TAG-1"
        meterStart := 0
        timestamp := 0 }).save secondTransaction
  consumptions := Collection.empty

/-- The station stops the transaction of connector 1. -/
def firstStop : StationRequest :=
  .stopTransaction OCPPService.exampleStartContext.stopContext
    { transactionId := 72, meterStop := 1000, timestamp := 3600000 }

/-- A user stops that of connector 2. -/
def secondStop : StationRequest := .softStop Store.exampleUserContext secondTransaction

/-- The transaction that connector 1 carries. -/
def carriedTransaction (s : CopiesState Bool) : Option ℕ :=
  ((s.store.connectorOf "CS-71" 1).bind Prod.fst).map Connector.currentTransactionID

instance (s : CopiesState P) (event : CopiesEvent P) : Decidable (s.NotOverwritten event) :=
  match event with
  | .serve p request => inferInstanceAs (Decidable (∀ copy ∈ s.copy p,
      ∀ connectorId ∈ copy.changed,
        request.connectorId copy.chargingStation s.store = some connectorId))
  | .read .. | .abort _ | .deleteTransactions .. | .save .. => isTrue trivial

instance (chargeBoxID : String) (connectorId : ℕ) (s : CopiesState P) (event : CopiesEvent P) :
    Decidable (s.Concerns chargeBoxID connectorId event) :=
  match event with
  | .serve p request => inferInstanceAs (Decidable (∃ copy ∈ s.copy p,
      copy.chargingStation.id = chargeBoxID ∧
        request.connectorId copy.chargingStation s.store = some connectorId))
  | .read .. | .abort _ | .deleteTransactions .. | .save .. => isFalse not_false

/-- The two stops follow one another: connector 1 stays free. -/
theorem connectorOf_of_run_shared :
    ∃ s s' : CopiesState Bool,
      Transition.Run (Transition.guarded NotOverwritten Step) { store := sharedStation }
        [.read true "CS-71", .serve true firstStop] s ∧
      Transition.Run (Transition.guarded (fun s event => s.NotOverwritten event ∧
        ¬ s.Concerns "CS-71" 1 event) Step) s
        [.read false "CS-71", .serve false secondStop] s' ∧
      s.carriedTransaction = some 0 ∧
      s'.store.connectorOf "CS-71" 1 = s.store.connectorOf "CS-71" 1 := by
  have reached : ((Transition.follow next (fun s event _ => s.NotOverwritten event)
      ({ store := sharedStation } : CopiesState Bool)
      [.read true "CS-71", .serve true firstStop]).map fun s => (s.carriedTransaction,
        (Transition.follow next
          (fun s event _ => s.NotOverwritten event ∧ ¬ s.Concerns "CS-71" 1 event) s
          [.read false "CS-71", .serve false secondStop]).isSome)) = some (some 0, true) := by
    decide +kernel
  obtain ⟨s, hs, found⟩ := Option.map_eq_some_iff.mp reached
  obtain ⟨free, follows⟩ := Prod.mk.inj found
  obtain ⟨s', hs'⟩ := Option.isSome_iff_exists.mp follows
  have run : Transition.Run (Transition.guarded NotOverwritten Step) _ _ s :=
    .of_follow (fun _ _ _ computed admitted => ⟨admitted, computed⟩) hs
  have after : Transition.Run (Transition.guarded (fun s event => s.NotOverwritten event ∧
      ¬ s.Concerns "CS-71" 1 event) Step) s _ s' :=
    .of_follow (fun _ _ _ computed admitted => ⟨admitted, computed⟩) hs'
  exact ⟨s, s', run, after, free, connectorOf_of_run (fun _ => rfl) run "CS-71" 1 after⟩

/-- The user's request has read the station before: connector 1 carries transaction 72 again. -/
theorem not_connectorOf_of_run :
    ¬ ∀ (s₀ s s' : CopiesState Bool) (events : List (CopiesEvent Bool))
        (event : CopiesEvent Bool), (∀ p, s₀.copy p = none) →
      Transition.Run Step s₀ events s → Step s event s' →
      ∀ chargeBoxID connectorId, ¬ s.Concerns chargeBoxID connectorId event →
        s'.store.connectorOf chargeBoxID connectorId =
          s.store.connectorOf chargeBoxID connectorId := by
  have reached : ((Transition.follow next (fun _ _ _ => True)
      ({ store := sharedStation } : CopiesState Bool)
      [.read false "CS-71", .read true "CS-71", .serve true firstStop]).map fun s =>
        (s.carriedTransaction, decide (s.Concerns "CS-71" 1 (.serve false secondStop)),
          (s.next (.serve false secondStop)).map carriedTransaction)) =
        some (some 0, false, some (some 72)) := by
    decide +kernel
  obtain ⟨s, hs, found⟩ := Option.map_eq_some_iff.mp reached
  obtain ⟨free, found⟩ := Prod.mk.inj found
  obtain ⟨notConcerned, restored⟩ := Prod.mk.inj found
  obtain ⟨s', step, restored⟩ := Option.map_eq_some_iff.mp restored
  intro claimed
  have run : Transition.Run Step _ _ s := .of_follow (fun _ _ _ computed _ => computed) hs
  have same := claimed _ s s' _ _ (fun _ => rfl) run step "CS-71" 1
    (of_decide_eq_false notConcerned)
  unfold carriedTransaction at free restored
  rw [same, free] at restored
  cases restored

end CopiesState

end EvServer
