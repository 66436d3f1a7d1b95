import EvServer.Billing.TransactionBilling
import EvServer.Lib.Runs

/-!
# The handlers of one stopped transaction

The state is the stored transaction, where each handler and each billing task is, and who
has the lock of the user to be billed.  A handler works on a copy that it has read; a task
reads the transaction when it has the lock.  Each access to the store is a step of its
own, and so is each call of the billing, so the steps of any number of handlers and tasks
interleave in every order.

Two counters are there for the proofs: how many results of the billing have been stored,
which a handler remembers from its read, and how often a transaction has been billed.  No
step depends on either.
-/

namespace EvServer

/-- The handlers that save the whole transaction after its stop. -/
inductive HandlerKind
  /-- `checkAndUpdateLastCompletedTransactionFromStatusNotification`. -/
  | statusNotification
  /-- `BillPendingTransactionTask`. -/
  | pendingTask
  deriving DecidableEq, Repr

namespace HandlerKind

/-- The extra inactivity of the copy: the copy and whether it has been updated; `none` when
the handler leaves the transaction alone. -/
def prepare (kind : HandlerKind) (notification : StatusNotification) (copy : Transaction) :
    Except String (Option (Transaction × Bool)) :=
  match kind with
  | .statusNotification =>
      if copy.stop.isSome then
        (OCPPService.checkAndComputeTransactionExtraInactivity notification copy).map some
      else .ok none
  | .pendingTask =>
      if BillPendingTransactionTask.canClose copy then
        .ok (some (BillPendingTransactionTask.closeExtraInactivity copy, true))
      else .ok none

/-- The billing of the copy: the copy, whether it has been updated, and whether a task has
been created. -/
def bill (kind : HandlerKind) (billingImpl : Option BillingIntegration) (copy : Transaction) :
    Except String (Transaction × Bool × Bool) :=
  match kind with
  | .statusNotification => OCPPService.checkAndBillTransaction billingImpl copy
  | .pendingTask =>
      (OCPPUtils.processTransactionBilling billingImpl copy .end).map fun (copy, created) =>
        (copy, true, created)

end HandlerKind

/-- Where a handler is.  `seen` is the number of results stored when it read. -/
inductive HandlerPc
  | idle
  /-- The transaction has been read. -/
  | loaded (kind : HandlerKind) (copy : Transaction) (seen : ℕ)
  /-- The extra inactivity has been dealt with. -/
  | prepared (kind : HandlerKind) (copy : Transaction) (updated : Bool) (seen : ℕ)
  /-- The billing has answered. -/
  | billed (copy : Transaction) (updated : Bool) (seen : ℕ)
  deriving DecidableEq, Repr

/-- Where a billing task is. -/
inductive TaskPc
  /-- Not created. -/
  | absent
  | waiting
  /-- With the lock. -/
  | locked
  /-- The transaction has been read, and may be billed. -/
  | loaded (copy : Transaction)
  /-- The transaction has been billed. -/
  | billed (copy : Transaction)
  /-- Before the release of the lock. -/
  | releasing
  /-- Crashed with the lock. -/
  | crashed
  deriving DecidableEq, Repr

/-- A step of a handler in `H` or of a task in `T`. -/
inductive BillingEvent (H T : Type)
  | read (h : H) (kind : HandlerKind)
  | prepare (h : H) (notification : StatusNotification)
  /-- The billing is called; a task that it creates is `t`. -/
  | bill (h : H) (t : T) (createAndSaveAsyncTasks : Except String Unit)
  | save (h : H) (roamingUpdated : Bool)
  /-- The handler throws or crashes. -/
  | abort (h : H)
  | lock (t : T)
  | load (t : T)
  | billTransaction (t : T) (check : Except String Unit)
      (billInvoiceItem : Option (Except String String))
  | store (t : T)
  | release (t : T)
  | crash (t : T)

/-- The handlers, the tasks and the store. -/
structure BillingState (H T : Type) where
  stored : Transaction
  handler : H → HandlerPc
  task : T → TaskPc
  lockedBy : Option T
  /-- The results of the billing stored so far. -/
  results : ℕ
  /-- The calls of `billTransaction` so far. -/
  runs : ℕ

namespace BillingState

variable {H T : Type}

/-- A stopped transaction, before anybody deals with it. -/
def start (transaction : Transaction) : BillingState H T :=
  ⟨transaction, fun _ => .idle, fun _ => .absent, none, 0, 0⟩

variable [DecidableEq H] [DecidableEq T]

def setHandler (s : BillingState H T) (h : H) (pc : HandlerPc) : BillingState H T :=
  { s with handler := Function.update s.handler h pc }

def setTask (s : BillingState H T) (t : T) (pc : TaskPc) : BillingState H T :=
  { s with task := Function.update s.task t pc }

/-- The billing of the tenant, when the creation of a task has the given outcome. -/
def withTasks (billingImpl : Option BillingIntegration)
    (createAndSaveAsyncTasks : Except String Unit) : Option BillingIntegration :=
  billingImpl.map fun billingImpl =>
    { billingImpl with
      endTransaction := StripeBillingIntegration.endTransaction createAndSaveAsyncTasks }

/-- The state after an event; `none` when it cannot happen. -/
def next (billingImpl : Option BillingIntegration) (s : BillingState H T) :
    BillingEvent H T → Option (BillingState H T)
  | .read h kind =>
      match s.handler h with
      | .idle => some (s.setHandler h (.loaded kind s.stored s.results))
      | _ => none
  | .prepare h notification =>
      match s.handler h with
      | .loaded kind copy seen =>
          match kind.prepare notification copy with
          | .ok (some (copy, updated)) => some (s.setHandler h (.prepared kind copy updated seen))
          | _ => some (s.setHandler h .idle)
      | _ => none
  | .bill h t createAndSaveAsyncTasks =>
      match s.handler h, s.task t with
      | .prepared kind copy updated seen, .absent =>
          match kind.bill (withTasks billingImpl createAndSaveAsyncTasks) copy with
          | .ok (copy, billingUpdated, created) =>
              some ((s.setHandler h (.billed copy (updated || billingUpdated) seen)).setTask t
                (if created then .waiting else .absent))
          | .error _ => some (s.setHandler h .idle)
      | _, _ => none
  | .save h roamingUpdated =>
      match s.handler h with
      | .billed copy updated _ =>
          some
            { s.setHandler h .idle with
              stored := if updated || roamingUpdated then TransactionStorage.transactionMDB copy
                else s.stored }
      | _ => none
  | .abort h => some (s.setHandler h .idle)
  | .lock t =>
      match s.task t, s.lockedBy with
      | .waiting, none => some { s.setTask t .locked with lockedBy := some t }
      | _, _ => none
  | .load t =>
      match s.task t with
      | .locked =>
          some (s.setTask t
            (if BillTransactionAsyncTask.canBill s.stored then .loaded s.stored else .releasing))
      | _ => none
  | .billTransaction t check billInvoiceItem =>
      match s.task t with
      | .loaded copy =>
          match StripeBillingIntegration.billTransaction check billInvoiceItem with
          | .ok stop =>
              some { s.setTask t (.billed (OCPPUtils.setBillingStop copy stop)) with
                runs := s.runs + 1 }
          | .error _ => some { s.setTask t .releasing with runs := s.runs + 1 }
      | _ => none
  | .store t =>
      match s.task t with
      | .billed copy =>
          some
            { s.setTask t .releasing with
              stored := TransactionStorage.saveTransactionBillingData s.stored copy.billingData
              results := s.results + 1 }
      | _ => none
  -- A process that has listed the task before may run it again.
  | .release t =>
      match s.task t with
      | .releasing => some { s.setTask t .waiting with lockedBy := none }
      | _ => none
  | .crash t =>
      match s.task t with
      | .absent | .waiting => none
      | _ => some (s.setTask t .crashed)

end BillingState

end EvServer
