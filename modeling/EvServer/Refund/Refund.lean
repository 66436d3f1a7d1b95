import EvServer.Lib.Query
import EvServer.Lib.Runs
import Mathlib.Data.Prod.Lex
import Mathlib.Data.String.Basic
import Mathlib.Order.WithBot

/-!
# Refunds (`TransactionService`, `SapConcurRefundIntegration`)

A refund request reads the transactions of its list, keeps those that are not refunded,
creates an expense report, and then creates an entry of the report for each of them, up to
ten at a time; the ID of an entry is stored with its transaction after the entry has been
created.  The synchronisation task reads the transactions whose refund is submitted, looks
each report up, and stores what has become of it.

Each access to the store and each call of Concur is a step of its own, and every call can
fail.  Users approve and delete reports in Concur at any time; an entry goes with its
report.  The refund is never quick: no caller asks for that.
-/

namespace EvServer

inductive RefundStatus
  | submitted
  | notSubmitted
  | cancelled
  | approved
  deriving DecidableEq, Repr

structure TransactionRefundData where
  refundId : String
  refundedAt : ℤ
  reportId : Option String := none
  status : Option RefundStatus := none
  deriving DecidableEq, Repr

/-- The transaction is refunded, as a refund request checks it. -/
def TransactionRefundData.isRefunded (refundData : TransactionRefundData) : Bool :=
  refundData.refundId ≠ "" && refundData.status ≠ some .cancelled

/-- A transaction, as far as the refund reads and writes it. -/
structure RefundTransaction where
  id : ℕ
  userID : String
  refundData : Option TransactionRefundData := none
  deriving DecidableEq, Repr

namespace RefundTransaction

def alreadyRefunded (transaction : RefundTransaction) : Bool :=
  transaction.refundData.any TransactionRefundData.isRefunded

/-- The filter of the synchronisation task. -/
def isSubmitted (transaction : RefundTransaction) : Bool :=
  transaction.refundData.any fun refundData => refundData.status = some .submitted

/-- The order of the synchronisation task. -/
def rank (transaction : RefundTransaction) : String ×ₗ WithBot String :=
  toLex (transaction.userID, transaction.refundData.bind (·.reportId))

end RefundTransaction

/-- The transactions of a tenant. -/
abbrev RefundTransactions := Collection RefundTransaction.id

/-- `$set` the refund data, without an upsert. -/
def TransactionStorage.saveTransactionRefundData (transactions : RefundTransactions) (id : ℕ)
    (refundData : TransactionRefundData) : RefundTransactions :=
  match transactions.find id with
  | some transaction => transactions.save { transaction with refundData := some refundData }
  | none => transactions

/-! ## Concur -/

/-- A report: there is none of that ID, it is open, approved, or deleted. -/
inductive ReportState
  | unknown
  | open
  | approved
  | deleted
  deriving DecidableEq, Repr

/-- `getExpenseReport` finds the report. -/
def ReportState.found : ReportState → Bool
  | .open | .approved => true
  | .unknown | .deleted => false

/-- An entry of a report: its ID, and the ID of the transaction in `Custom1`. -/
structure ExpenseEntry where
  reportID : String
  id : String
  transactionID : ℕ
  deriving DecidableEq, Repr

/-- What comes back from the creation of an entry. -/
inductive EntryAnswer
  | created (id : String)
  /-- The entry has been created, but the answer does not arrive. -/
  | lost (id : String)
  /-- No entry is created, because its location is unknown or the call fails. -/
  | refused
  deriving DecidableEq, Repr

/-! ## The requests and the task -/

inductive WorkerPc
  | waiting
  | started
  /-- The entry has been created and still has to be stored. -/
  | created (entryId : String)
  | refunded
  | failed
  deriving DecidableEq, Repr

/-- The refund of one transaction of a request. -/
structure RefundWorker where
  transaction : RefundTransaction
  pc : WorkerPc := .waiting
  deriving DecidableEq, Repr

namespace RefundWorker

/-- It counts for the concurrency. -/
def isRunning (worker : RefundWorker) : Bool :=
  match worker.pc with
  | .started | .created _ => true
  | _ => false

/-- The entry that it has created and still has to store. -/
def unsaved (expenseReportId : String) (worker : RefundWorker) : Option ExpenseEntry :=
  match worker.pc with
  | .created entryId => some ⟨expenseReportId, entryId, worker.transaction.id⟩
  | _ => none

end RefundWorker

inductive RequestPc
  | idle
  /-- The IDs that are left, and the transactions to refund so far. -/
  | reading (transactionsIDs : List ℕ) (transactionsToRefund : List RefundTransaction)
  | refunding (expenseReportId : String) (workers : List RefundWorker)
  deriving DecidableEq, Repr

namespace RequestPc

/-- The entry that worker `i` has created and still has to store. -/
def unsaved (i : ℕ) : RequestPc → Option ExpenseEntry
  | .refunding expenseReportId workers =>
      workers[i]?.bind fun worker => worker.unsaved expenseReportId
  | _ => none

/-- The workers of the request. -/
def workers : RequestPc → List RefundWorker
  | .refunding _ workers => workers
  | _ => []

/-- The entries that its workers have created and still have to store. -/
def unsavedEntries : RequestPc → List ExpenseEntry
  | .refunding expenseReportId workers =>
      workers.filterMap fun worker => worker.unsaved expenseReportId
  | _ => []

/-- The transactions that the request has read to refund them. -/
def transactions : RequestPc → List RefundTransaction
  | .idle => []
  | .reading _ transactionsToRefund => transactionsToRefund
  | .refunding _ workers => workers.map (·.transaction)

end RequestPc

inductive SynchronizePc
  | idle
  | processing (transactions : List RefundTransaction)
  /-- The status of the first transaction has changed and still has to be stored. -/
  | updating (transaction : RefundTransaction) (refundData : TransactionRefundData)
      (rest : List RefundTransaction)
  deriving DecidableEq, Repr

/-- The transactions that it has read and still has to deal with. -/
def SynchronizePc.copies : SynchronizePc → List RefundTransaction
  | .idle => []
  | .processing transactions => transactions
  | .updating transaction _ rest => transaction :: rest

/-- A step of a request in `R`, of the synchronisation task, or of a user of Concur. -/
inductive RefundEvent (R : Type)
  | receive (r : R) (transactionsIDs : List ℕ)
  /-- The next transaction of the list is read and checked. -/
  | getTransaction (r : R) (canRefundTransaction : Bool)
  | createExpenseReport (r : R) (answer : Option String)
  | startWorker (r : R) (i : ℕ)
  | createExpenseReportEntry (r : R) (i : ℕ) (answer : EntryAnswer)
  | saveTransactionRefundData (r : R) (i : ℕ) (now : ℤ) (saved : Bool)
  | respond (r : R)
  /-- The request throws, or its process crashes. -/
  | abort (r : R)
  /-- The task reads the submitted transactions. -/
  | getTransactions
  /-- The task looks the report of its first transaction up. -/
  | getExpenseReport (answered : Bool)
  | saveRefundStatus (saved : Bool)
  | abortTask
  | approveReport (reportID : String)
  | deleteReport (reportID : String)

structure RefundState (R : Type) where
  transactions : RefundTransactions
  request : R → RequestPc := fun _ => .idle
  task : SynchronizePc := .idle
  reports : String → ReportState := fun _ => .unknown
  entries : List ExpenseEntry := []

namespace RefundState

variable {R : Type}

/-- The entry that worker `i` of a request has created and still has to store. -/
def unsaved (s : RefundState R) (r : R) (i : ℕ) : Option ExpenseEntry :=
  (s.request r).unsaved i

/-- The refund data stored for a transaction. -/
def refundData (s : RefundState R) (transactionID : ℕ) : Option TransactionRefundData :=
  (s.transactions.find transactionID).bind (·.refundData)

/-- The transaction is stored as refunded. -/
def isRefunded (s : RefundState R) (transactionID : ℕ) : Bool :=
  (s.refundData transactionID).any TransactionRefundData.isRefunded

/-- The entries of a transaction that are not cancelled: their report exists. -/
def liveEntries (s : RefundState R) (transactionID : ℕ) : List ExpenseEntry :=
  s.entries.filter fun entry =>
    entry.transactionID = transactionID && (s.reports entry.reportID).found

variable [DecidableEq R]

def setRequest (s : RefundState R) (r : R) (pc : RequestPc) : RefundState R :=
  { s with request := Function.update s.request r pc }

def setReport (s : RefundState R) (reportID : String) (report : ReportState) : RefundState R :=
  { s with reports := Function.update s.reports reportID report }

/-- Worker `i` of the request goes on; its transaction stays. -/
def setWorker (s : RefundState R) (r : R) (expenseReportId : String)
    (workers : List RefundWorker) (i : ℕ) (transaction : RefundTransaction) (pc : WorkerPc) :
    RefundState R :=
  s.setRequest r (.refunding expenseReportId (workers.set i ⟨transaction, pc⟩))

/-- The report of `transaction` has been looked up (`updateRefundStatus`). -/
def lookedUp (s : RefundState R) (transaction : RefundTransaction)
    (refundData : TransactionRefundData) (rest : List RefundTransaction) : SynchronizePc :=
  match refundData.reportId.elim .unknown s.reports with
  | .approved => .updating transaction { refundData with status := some .approved } rest
  | .open => .processing rest
  | .unknown | .deleted =>
      .updating transaction { refundData with status := some .cancelled } rest

/-- The state after an event; `none` when it cannot happen. -/
def next (s : RefundState R) : RefundEvent R → Option (RefundState R)
  | .receive r transactionsIDs =>
      match s.request r with
      | .idle => some (s.setRequest r (.reading transactionsIDs []))
      | _ => none
  | .getTransaction r canRefundTransaction =>
      match s.request r with
      | .reading (transactionId :: transactionsIDs) transactionsToRefund =>
          match s.transactions.find transactionId with
          -- The log of the missing transaction reads its user, and throws.
          | none => some (s.setRequest r .idle)
          | some transaction =>
              if transaction.alreadyRefunded then
                some (s.setRequest r (.reading transactionsIDs transactionsToRefund))
              else if canRefundTransaction then
                some (s.setRequest r
                  (.reading transactionsIDs (transactionsToRefund ++ [transaction])))
              else
                some (s.setRequest r .idle)
      | _ => none
  | .createExpenseReport r answer =>
      match s.request r, answer with
      -- The timezone of the report is that of the first transaction.
      | .reading [] [], _ => some (s.setRequest r .idle)
      | .reading [] _, none => some (s.setRequest r .idle)
      | .reading [] transactions, some expenseReportId =>
          -- Concur gives a report an ID of its own.
          if s.reports expenseReportId = .unknown then
            some ((s.setRequest r (.refunding expenseReportId
              (transactions.map fun transaction => { transaction }))).setReport
                expenseReportId .open)
          else none
      | _, _ => none
  | .startWorker r i =>
      match s.request r with
      | .refunding expenseReportId workers =>
          match workers[i]? with
          | some ⟨transaction, .waiting⟩ =>
              if workers.countP RefundWorker.isRunning < 10 then
                some (s.setWorker r expenseReportId workers i transaction .started)
              else none
          | _ => none
      | _ => none
  | .createExpenseReportEntry r i answer =>
      match s.request r with
      | .refunding expenseReportId workers =>
          match workers[i]?, answer with
          | some ⟨transaction, .started⟩, .created entryId =>
              -- Concur takes entries for the reports it has, and gives each an ID.
              if (s.reports expenseReportId).found ∧ entryId ≠ "" then
                some { s.setWorker r expenseReportId workers i transaction (.created entryId) with
                  entries := s.entries ++ [⟨expenseReportId, entryId, transaction.id⟩] }
              else none
          | some ⟨transaction, .started⟩, .lost entryId =>
              if (s.reports expenseReportId).found ∧ entryId ≠ "" then
                some { s.setWorker r expenseReportId workers i transaction .failed with
                  entries := s.entries ++ [⟨expenseReportId, entryId, transaction.id⟩] }
              else none
          | some ⟨transaction, .started⟩, .refused =>
              some (s.setWorker r expenseReportId workers i transaction .failed)
          | _, _ => none
      | _ => none
  | .saveTransactionRefundData r i now saved =>
      match s.request r with
      | .refunding expenseReportId workers =>
          match workers[i]? with
          | some ⟨transaction, .created entryId⟩ =>
              if saved then
                some { s.setWorker r expenseReportId workers i transaction .refunded with
                  transactions := TransactionStorage.saveTransactionRefundData s.transactions
                    transaction.id
                    { refundId := entryId
                      status := some .submitted
                      reportId := some expenseReportId
                      refundedAt := now } }
              else some (s.setWorker r expenseReportId workers i transaction .failed)
          | _ => none
      | _ => none
  | .respond r =>
      match s.request r with
      | .refunding _ workers =>
          if workers.all fun worker => worker.pc = .refunded || worker.pc = .failed then
            some (s.setRequest r .idle)
          else none
      | _ => none
  | .abort r => some (s.setRequest r .idle)
  | .getTransactions =>
      -- The lock of the task keeps a second one out.
      match s.task with
      | .idle =>
          some { s with
            task := .processing (s.transactions.query RefundTransaction.isSubmitted
              RefundTransaction.rank) }
      | _ => none
  | .getExpenseReport answered =>
      match s.task with
      | .processing (transaction :: rest) =>
          match transaction.refundData with
          | some refundData =>
              if answered then
                some { s with task := s.lookedUp transaction refundData rest }
              else some { s with task := .processing rest }
          | none => some { s with task := .processing rest }
      | .processing [] => some { s with task := .idle }
      | _ => none
  | .saveRefundStatus saved =>
      match s.task with
      | .updating transaction refundData rest =>
          if saved then
            some { s with
              task := .processing rest
              transactions := TransactionStorage.saveTransactionRefundData s.transactions
                transaction.id refundData }
          else some { s with task := .processing rest }
      | _ => none
  | .abortTask => some { s with task := .idle }
  | .approveReport reportID =>
      if s.reports reportID = .open then some (s.setReport reportID .approved) else none
  | .deleteReport reportID =>
      if (s.reports reportID).found then some (s.setReport reportID .deleted) else none

/-- A step of the system. -/
def Step (s : RefundState R) (event : RefundEvent R) (s' : RefundState R) : Prop :=
  s.next event = some s'

end RefundState

end EvServer
