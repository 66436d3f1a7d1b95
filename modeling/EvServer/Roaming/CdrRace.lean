import EvServer.Roaming.CdrAttempts

/-!
# Concurrent attempts to send a CDR

Any number of parties send the CDR of one transaction at the same time: handlers of status
notifications, pushes of administrators, and the task.  A step of a party is what it does up
to the next access to the database, to the lock or to a platform; the lock is exclusive.

A status notification and an administrator read the transaction before they ask for the
lock, and the task reads it again once it has the lock.  A status notification saves the
transaction after it has released the lock.
-/

namespace EvServer

/-- How far a party has got. -/
inductive CdrPc
  | idle
  /-- The task has found the transaction. -/
  | selected
  /-- The task has the lock. -/
  | acquired
  /-- The part about OCPI is next; `updated` says that the copy is going to be saved. -/
  | checkOcpi (copy : RoamingTransaction) (updated : Bool)
  /-- The part about OICP is next. -/
  | checkOicp (copy : RoamingTransaction) (updated : Bool)
  /-- The party has the lock, and has checked that its copy carries no CDR. -/
  | locked (platform : RoamingPlatform) (copy : RoamingTransaction) (updated : Bool)
  /-- The copy is to be saved under the lock. -/
  | posted (platform : RoamingPlatform) (copy : RoamingTransaction)
  | releasing (platform : RoamingPlatform) (copy : RoamingTransaction) (updated : Bool)
  /-- An exception has been thrown under the lock. -/
  | failing
  /-- A status notification is about to save the transaction. -/
  | saving (copy : RoamingTransaction)
  | done
  deriving DecidableEq, Repr

/-- What a step of a party leaves. -/
structure CdrTurn (P : Type) where
  pc : CdrPc
  store : CdrStore
  lock : Option P

/-- The parties, with the store and the lock of the transaction. -/
structure CdrRace (P : Type) where
  store : CdrStore
  lock : Option P
  pc : P → CdrPc

namespace CdrAttempt

variable {P : Type} (attempt : CdrAttempt)

/-- What a party does with the transaction that it reads first. -/
def begin (stored : RoamingTransaction) : CdrPc :=
  match attempt.sender with
  | .statusNotification =>
      match stored.stop.map attempt.context.completeStop with
      | some (.ok (stop, updated)) => .checkOcpi { stored with stop := some stop } updated
      | _ => .done
  | .manualPush =>
      if attempt.context.checks.isOk && stored.issuer &&
          (stored.oicpSession.isSome || stored.ocpiSession.isSome) then .checkOcpi stored false
      else .done
  | .task =>
      if attempt.context.ocpiActive && OCPIPushCdrsTask.finds stored then .selected else .done

/-- The lock is acquired when nobody has it. -/
def acquire (s : CdrRace P) (p : P) (taken otherwise : CdrPc) : CdrTurn P :=
  if s.lock.isNone then ⟨taken, s.store, some p⟩ else ⟨otherwise, s.store, s.lock⟩

/-- The copy has been dealt with. -/
def finish (copy : RoamingTransaction) (updated : Bool) : CdrPc :=
  if updated then .saving copy else .done

/-- The check of the copy before a CDR is sent, where an administrator gets an exception when
there is a CDR. -/
def check (s : CdrRace P) (p : P) (session hasCdr : Bool) (locked skipped : CdrPc) : CdrTurn P :=
  if session && !hasCdr then acquire s p locked skipped
  else if session && attempt.sender = .manualPush then ⟨.done, s.store, s.lock⟩
  else ⟨skipped, s.store, s.lock⟩

/-- What is done under the lock. -/
def process (platform : RoamingPlatform) (copy : RoamingTransaction) :
    CdrHandler RoamingTransaction :=
  if platform = .oicp ∧ attempt.sender = .manualPush then
    OCPPUtils.processOICPTransaction attempt.context copy
  else OCPPUtils.processTransactionRoamingEnd attempt.context copy

/-- After the CDR has been posted: a status notification saves at its end. -/
def processed (platform : RoamingPlatform) : Except String RoamingTransaction → CdrPc
  | .error _ => .failing
  | .ok copy =>
      if attempt.sender = .statusNotification then .releasing platform copy true
      else .posted platform copy

/-- What is saved under the lock. -/
def save (platform : RoamingPlatform) (copy : RoamingTransaction) : CdrHandler Unit :=
  match platform with
  | .ocpi => TransactionStorage.saveTransactionOcpiData copy.ocpiData
  | .oicp => TransactionStorage.saveTransactionOicpData copy.oicpData

/-- After the lock has been released. -/
def released (platform : RoamingPlatform) (copy : RoamingTransaction) (updated : Bool) : CdrPc :=
  if platform = .ocpi ∧ attempt.sender ≠ .task then .checkOicp copy updated
  else finish copy updated

/-- The step of a party. -/
def turn (s : CdrRace P) (p : P) : CdrPc → Option (CdrTurn P)
  | .idle => some ⟨attempt.begin s.store.transaction, s.store, s.lock⟩
  | .selected => some (acquire s p .acquired .done)
  | .acquired =>
      if s.store.transaction.ocpiCdr.isNone && attempt.context.checks.isOk then
        some ⟨.locked .ocpi s.store.transaction false, s.store, s.lock⟩
      else some ⟨.failing, s.store, s.lock⟩
  | .checkOcpi copy updated =>
      some (attempt.check s p copy.ocpiSession.isSome copy.hasOcpiCdrID
        (.locked .ocpi copy updated) (.checkOicp copy updated))
  | .checkOicp copy updated =>
      some (attempt.check s p copy.oicpSession.isSome copy.hasOicpCdrID
        (.locked .oicp copy updated) (finish copy updated))
  | .locked platform copy _ =>
      let (result, store) := attempt.process platform copy s.store
      some ⟨attempt.processed platform result, store, s.lock⟩
  | .posted platform copy =>
      some ⟨.releasing platform copy false, (save platform copy s.store).2, s.lock⟩
  | .releasing platform copy updated =>
      some ⟨attempt.released platform copy updated, s.store, none⟩
  | .failing => some ⟨.done, s.store, none⟩
  | .saving copy =>
      some ⟨.done, (TransactionStorage.saveRoamingTransaction copy s.store).2, s.lock⟩
  | .done => none

end CdrAttempt

namespace CdrRace

variable {P : Type}

/-- The transaction, and nobody who sends its CDR. -/
def start (transaction : RoamingTransaction) : CdrRace P :=
  ⟨{ transaction := transaction }, none, fun _ => .idle⟩

variable [DecidableEq P]

/-- The state after a step of the party `p`. -/
def next (parties : P → CdrAttempt) (s : CdrRace P) (p : P) : Option (CdrRace P) :=
  ((parties p).turn s p (s.pc p)).map fun turn =>
    ⟨turn.store, turn.lock, Function.update s.pc p turn.pc⟩

def Step (parties : P → CdrAttempt) (s : CdrRace P) (p : P) (s' : CdrRace P) : Prop :=
  s.next parties p = some s'

end CdrRace

end EvServer
