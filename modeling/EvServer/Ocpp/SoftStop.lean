import EvServer.Billing.Interleaving
import EvServer.Ocpp.StopFailure

/-!
# Soft stops (`OCPPService.softStopTransaction`)

A soft stop starts from a copy of a running transaction that was read before.  It has the
handler of `StopTransaction` stop the transaction, and when that refuses, for whatever
reason, it stops its own copy and saves it.

The state is the store, where each handler and each soft stop of the one transaction is,
and where each billing task is.  A handler reads the transaction once and saves it at its
end, and so does a soft stop with its copy; what comes in between is a step of its own, so
that they interleave in every order.  The number of stops that have been saved is there
for the proofs; no step depends on it.
-/

namespace EvServer

/-- The copy that a soft stop starts from, with the charging station that is joined to it,
and the number of stops saved when it was read. -/
structure SoftStop where
  transaction : Transaction
  chargeBox : Option ChargingStation
  seen : ℕ
  deriving DecidableEq

namespace OCPPService

/-- What `softStopTransaction` checks first. -/
def canSoftStop (chargingStation : Option ChargingStation) (organization siteArea : Bool) : Bool :=
  chargingStation.isSome && !(organization && !siteArea)

/-- The header of the nested stop. -/
def softStopHeader (transaction : Transaction) (chargingStation : Option ChargingStation) :
    OCPPHeader :=
  { chargeBoxIdentity := transaction.chargeBoxID, chargingStation := chargingStation }

/-- The request of the nested stop, which is that of the stop of the copy, too. -/
def softStopRequest (transaction : Transaction) : OCPPStopTransactionRequest :=
  { transactionId := transaction.id
    chargeBoxID := transaction.chargeBoxID
    idTag := transaction.tagID
    timestamp := (transaction.lastConsumption.map (·.timestamp)).getD transaction.timestamp
    meterStop := (transaction.lastConsumption.map (·.value)).getD transaction.meterStart }

/-- The users of the stop of the copy: they are looked for when the copy comes with its
charging station. -/
def getSoftStopUsers (context : StopContext) (transaction : Transaction) :
    Option ChargingStation → Except String StopUsers
  | some chargeBox =>
      checkAuthorizeStopTransactionAndGetUsers context chargeBox transaction transaction.tagID true
  | none => .ok {}

/-- The stop of the copy, after the nested stop has been refused.  Without a charging
station the inactivity is judged as on one without connectors. -/
def stopCopy (context : StopContext) (transaction : Transaction)
    (chargeBox : Option ChargingStation) : Except String Transaction :=
  (getSoftStopUsers context transaction chargeBox).map fun users =>
    OCPPUtils.updateTransactionWithStopTransaction transaction
      (chargeBox.getD { id := transaction.chargeBoxID }) (softStopRequest transaction)
      (users.alternateUser.or users.user) transaction.tagID true

end OCPPService

/-- The transaction that the handler gets to save: it does so before it deletes the charging
profiles. -/
def StopAttempt.transactionToSave (attempt : StopAttempt) (context : StopContext)
    (isSoftStop : Bool) : Option Transaction :=
  match attempt.failure context isSoftStop with
  | none | some .deletingChargingProfiles => attempt.stoppedTransaction context isSoftStop
  | some .savingChargingStation | some .addingConsumption | some .savingTransaction => none

/-- Where a stop is: of a `StopTransaction` of the station, or a soft stop. -/
inductive StopPc
  | idle
  /-- A soft stop has its copy. -/
  | copied (softStop : SoftStop)
  /-- The handler has read the transaction, and it has passed the checks. -/
  | checked (softStop : Option SoftStop) (attempt : StopAttempt) (seen : ℕ)
  /-- The handler is to save the stopped transaction; whether it answers `ACCEPTED` after
  that. -/
  | stopped (softStop : Option SoftStop) (transaction : Transaction) (accepts : Bool) (seen : ℕ)
  /-- The nested stop has been refused. -/
  | refused (softStop : SoftStop)
  /-- The soft stop is to save its own copy. -/
  | rebuilt (softStop : SoftStop) (transaction : Transaction)

/-- Where a billing task is. -/
inductive StoppedTaskPc
  | idle
  | loaded (copy : Transaction)
  | billed (copy : Transaction)
  deriving DecidableEq

/-- A step of a stop in `P` or of a billing task in `T`. -/
inductive StopEvent (P T : Type)
  /-- The task or the REST request reads the running transaction. -/
  | readCopy (p : P) (chargeBox : Option ChargingStation)
  | softStop (p : P) (context : StopContext) (chargingStation : Option ChargingStation)
      (organization siteArea : Bool)
  | stopTransaction (p : P) (context : StopContext) (headers : OCPPHeader)
      (stopTransaction : OCPPStopTransactionRequest) (isStoppedByCentralSystem : Bool)
  /-- The handler frees the connector, adds the last consumption and stops its copy. -/
  | prepare (p : P) (context : StopContext)
  | saveStopped (p : P)
  | stopCopy (p : P) (context : StopContext)
  | saveCopy (p : P)
  /-- The stop throws or crashes. -/
  | abort (p : P)
  | load (t : T)
  | billTransaction (t : T) (check : Except String Unit)
      (billInvoiceItem : Option (Except String String))
  | saveTransactionBillingData (t : T)

structure StopState (P T : Type) where
  store : Store
  party : P → StopPc := fun _ => .idle
  task : T → StoppedTaskPc := fun _ => .idle
  /-- The stops saved so far. -/
  stops : ℕ := 0

namespace StopState

variable {P T : Type}

/-- The stored transaction. -/
def transaction (s : StopState P T) (id : ℕ) : Option Transaction := s.store.transactions.find id

variable [DecidableEq P] [DecidableEq T]

def setParty (s : StopState P T) (p : P) (pc : StopPc) : StopState P T :=
  { s with party := Function.update s.party p pc }

def setTask (s : StopState P T) (t : T) (pc : StoppedTaskPc) : StopState P T :=
  { s with task := Function.update s.task t pc }

/-- Save a transaction. -/
def save (s : StopState P T) (transaction : Transaction) : StopState P T :=
  { s with
    store := StopAttempt.saveStopped (some transaction) s.store
    stops := s.stops + 1 }

/-- The nested stop is refused; a stop of the station is over. -/
def refuse (s : StopState P T) (p : P) (softStop : Option SoftStop) : StopState P T :=
  s.setParty p (softStop.elim .idle .refused)

/-- The handler checks the request. -/
def check (s : StopState P T) (p : P) (softStop : Option SoftStop) (context : StopContext)
    (headers : OCPPHeader) (stopTransaction : OCPPStopTransactionRequest)
    (isStoppedByCentralSystem : Bool) : StopState P T :=
  match OCPPService.checkStopTransaction context headers stopTransaction isStoppedByCentralSystem
    s.store with
  | .ok (some attempt) => s.setParty p (.checked softStop attempt s.stops)
  -- Bypassed
  | .ok none => s.setParty p .idle
  | .error _ => s.refuse p softStop

/-- The handler gets to the save of the stopped transaction, or fails before it. -/
def prepare (s : StopState P T) (p : P) (softStop : Option SoftStop) (attempt : StopAttempt)
    (seen : ℕ) (context : StopContext) : StopState P T :=
  let isSoftStop := softStop.isSome
  let failure := attempt.failure context isSoftStop
  match attempt.transactionToSave context isSoftStop with
  | some transaction =>
      { s.setParty p (.stopped softStop transaction failure.isNone seen) with
        store := attempt.storeAfter context isSoftStop s.store (some .savingTransaction) }
  | none =>
      { s.refuse p softStop with store := attempt.storeAfter context isSoftStop s.store failure }

/-- The state after an event about the transaction `id`; `none` when it cannot happen. -/
def next (id : ℕ) (s : StopState P T) : StopEvent P T → Option (StopState P T)
  | .readCopy p chargeBox =>
      match s.party p, s.transaction id with
      | .idle, some transaction =>
          if transaction.stop.isNone then
            some (s.setParty p (.copied ⟨transaction, chargeBox, s.stops⟩))
          else none
      | _, _ => none
  | .softStop p context chargingStation organization siteArea =>
      match s.party p with
      | .copied softStop =>
          if OCPPService.canSoftStop chargingStation organization siteArea then
            some (s.check p (some softStop) context
              (OCPPService.softStopHeader softStop.transaction chargingStation)
              (OCPPService.softStopRequest softStop.transaction) false)
          else some (s.setParty p .idle)
      | _ => none
  | .stopTransaction p context headers stopTransaction isStoppedByCentralSystem =>
      match s.party p with
      | .idle =>
          if stopTransaction.transactionId = id then
            some (s.check p none context headers stopTransaction isStoppedByCentralSystem)
          else none
      | _ => none
  | .prepare p context =>
      match s.party p with
      | .checked softStop attempt seen => some (s.prepare p softStop attempt seen context)
      | _ => none
  | .saveStopped p =>
      match s.party p with
      | .stopped softStop transaction accepts _ =>
          some ((if accepts then s.setParty p .idle else s.refuse p softStop).save transaction)
      | _ => none
  | .stopCopy p context =>
      match s.party p with
      | .refused softStop =>
          match OCPPService.stopCopy context softStop.transaction softStop.chargeBox with
          | .ok transaction => some (s.setParty p (.rebuilt softStop transaction))
          | .error _ => some (s.setParty p .idle)
      | _ => none
  | .saveCopy p =>
      match s.party p with
      | .rebuilt _ transaction => some ((s.setParty p .idle).save transaction)
      | _ => none
  | .abort p => some (s.setParty p .idle)
  | .load t =>
      match s.transaction id with
      | some transaction =>
          if BillTransactionAsyncTask.canBill transaction then
            some (s.setTask t (.loaded transaction))
          else none
      | none => none
  | .billTransaction t check billInvoiceItem =>
      match s.task t with
      | .loaded copy =>
          match StripeBillingIntegration.billTransaction check billInvoiceItem with
          | .ok stop => some (s.setTask t (.billed (OCPPUtils.setBillingStop copy stop)))
          | .error _ => some (s.setTask t .idle)
      | _ => none
  | .saveTransactionBillingData t =>
      match s.task t, s.transaction id with
      | .billed copy, some stored =>
          some
            { s.setTask t .idle with
              store :=
                { s.store with
                  transactions := s.store.transactions.save
                    (TransactionStorage.saveTransactionBillingData stored copy.billingData) } }
      | _, _ => none

/-- A step of the system. -/
def Step (id : ℕ) (s : StopState P T) (event : StopEvent P T) (s' : StopState P T) : Prop :=
  s.next id event = some s'

end StopState

end EvServer
