import EvServer.Refund.Refund

/-!
# A transaction is refunded once

An entry that has been created stands for its transaction in one of two places: with the
worker that still has to store it, or in the store.  If an entry is created only while the
transaction has neither, and every entry that is created gets stored, then no transaction
has two, and the synchronisation task never overwrites what a request has stored since.
-/

namespace EvServer

/-- What can become of a report: Concur does not forget it, and it does not come back. -/
def ReportState.Later (before after : ReportState) : Prop :=
  before ≠ .unknown → after ≠ .unknown ∧ (after.found → before.found)

theorem ReportState.Later.refl (report : ReportState) : report.Later report :=
  fun known => ⟨known, id⟩

theorem ReportState.Later.deleted {after : ReportState} (later : ReportState.deleted.Later after) :
    after = .deleted := by
  obtain ⟨known, found⟩ := later (by decide)
  cases after with
  | unknown => exact absurd rfl known
  | «open» | approved => cases found rfl
  | deleted => rfl

theorem TransactionStorage.find_saveTransactionRefundData (transactions : RefundTransactions)
    (id k : ℕ) (refundData : TransactionRefundData) :
    (saveTransactionRefundData transactions id refundData).find k =
      if k = id then
        (transactions.find id).map fun transaction =>
          { transaction with refundData := some refundData }
      else transactions.find k := by
  unfold saveTransactionRefundData
  split
  · rename_i transaction found
    have same : transaction.id = id := Collection.key_of_find found
    rw [found]
    split
    · rename_i equal
      rw [equal, ← same]
      exact @Collection.find_save_self _ _ RefundTransaction.id _ _ _
    · rename_i other
      exact Collection.find_save_of_ne fun equal => other (equal.trans same)
  · rename_i missing
    split
    · rename_i equal
      rw [equal, missing, Option.map_none]
    · rfl

namespace RequestPc

variable {pc : RequestPc} {entry : ExpenseEntry} {expenseReportId : String}
variable {workers : List RefundWorker} {worker : RefundWorker} {i j : ℕ}

theorem mem_unsavedEntries : entry ∈ pc.unsavedEntries ↔ ∃ i, pc.unsaved i = some entry := by
  cases pc with
  | idle | reading => simp [unsavedEntries, unsaved]
  | refunding expenseReportId workers =>
      rw [unsavedEntries, List.mem_filterMap]
      constructor
      · rintro ⟨worker, mem, created⟩
        obtain ⟨i, at_i⟩ := List.mem_iff_getElem?.mp mem
        exact ⟨i, Option.bind_eq_some_iff.mpr ⟨worker, at_i, created⟩⟩
      · rintro ⟨i, found⟩
        obtain ⟨worker, at_i, created⟩ := Option.bind_eq_some_iff.mp found
        exact ⟨worker, List.mem_of_getElem? at_i, created⟩

theorem unsaved_eq_none (none_unsaved : pc.unsavedEntries = []) (i : ℕ) : pc.unsaved i = none := by
  refine Option.eq_none_iff_forall_not_mem.mpr fun entry created => ?_
  have mem : entry ∈ pc.unsavedEntries := mem_unsavedEntries.mpr ⟨i, created⟩
  rw [none_unsaved] at mem
  cases mem

/-- A worker that goes on leaves the others alone. -/
theorem unsaved_set (at_i : i < workers.length) :
    (refunding expenseReportId (workers.set i worker)).unsaved j =
      if j = i then worker.unsaved expenseReportId
      else (refunding expenseReportId workers).unsaved j := by
  change ((workers.set i worker)[j]?.bind _) = _
  rw [List.getElem?_set]
  by_cases same : i = j
  · rw [if_pos same, if_pos (same ▸ at_i), if_pos same.symm]
    rfl
  · rw [if_neg same, if_neg (Ne.symm same)]
    rfl

end RequestPc

namespace RefundState

variable {R : Type}

/-- The entry is stored with its transaction, which is refunded. -/
def IsStored (s : RefundState R) (entry : ExpenseEntry) : Prop :=
  ∃ refundData, s.refundData entry.transactionID = some refundData ∧ refundData.isRefunded ∧
    refundData.refundId = entry.id ∧ refundData.reportId = some entry.reportID

/-- The entries of Concur, those that have been created and those that are stored. -/
structure Ledger (s : RefundState R) : Prop where
  known : ∀ entry ∈ s.entries, s.reports entry.reportID ≠ .unknown
  one : ∀ transactionID, (s.liveEntries transactionID).length ≤ 1
  /-- An entry is stored, or a worker still has to store it. -/
  accounted : ∀ entry ∈ s.entries, (s.reports entry.reportID).found →
    s.IsStored entry ∨ ∃ r i, s.unsaved r i = some entry
  unsaved : ∀ r i entry, s.unsaved r i = some entry →
    entry ∈ s.entries ∧ entry.id ≠ "" ∧ (s.transactions.find entry.transactionID).isSome ∧
      s.isRefunded entry.transactionID = false
  /-- One worker at a time creates an entry of a transaction. -/
  exclusive : ∀ r i r' i' entry entry', s.unsaved r i = some entry →
    s.unsaved r' i' = some entry' → entry.transactionID = entry'.transactionID → r = r' ∧ i = i'
  stored : ∀ transactionID refundData, s.refundData transactionID = some refundData →
    refundData.refundId ≠ "" ∧
      ∃ reportID, refundData.reportId = some reportID ∧ s.reports reportID ≠ .unknown

/-- What the task has read is still stored. -/
structure FreshTask (s : RefundState R) : Prop where
  copies : ∀ copy ∈ s.task.copies, s.transactions.find copy.id = some copy ∧ copy.alreadyRefunded
  distinct : (s.task.copies.map RefundTransaction.id).Nodup
  /-- A refund is cancelled when its report has been deleted. -/
  outcome : ∀ transaction refundData rest, s.task = .updating transaction refundData rest →
    ∃ before, transaction.refundData = some before ∧ refundData.refundId = before.refundId ∧
      refundData.reportId = before.reportId ∧
      (refundData.status = some .cancelled →
        ∃ reportID, before.reportId = some reportID ∧ s.reports reportID = .deleted)

/-- What the requests have read is stored. -/
def ReadsStored (s : RefundState R) : Prop :=
  ∀ r, ∀ transaction ∈ (s.request r).transactions, (s.transactions.find transaction.id).isSome

structure Consistent (s : RefundState R) : Prop where
  ledger : s.Ledger
  task : s.FreshTask
  requests : s.ReadsStored

variable {s s' : RefundState R} {entry : ExpenseEntry}

theorem mem_liveEntries {transactionID : ℕ} :
    entry ∈ s.liveEntries transactionID ↔
      entry ∈ s.entries ∧ entry.transactionID = transactionID ∧
        (s.reports entry.reportID).found := by
  rw [liveEntries, List.mem_filter, Bool.and_eq_true, decide_eq_true_eq]

theorem IsStored.isRefunded (stored : s.IsStored entry) : s.isRefunded entry.transactionID := by
  obtain ⟨refundData, found, refunded, -⟩ := stored
  rw [RefundState.isRefunded, found]
  exact refunded

/-- The entry of a transaction that a worker still has to store is the only one. -/
theorem Ledger.eq_of_unsaved (inv : s.Ledger) {r : R} {i : ℕ} {entry' : ExpenseEntry}
    (created : s.unsaved r i = some entry) (mem : entry' ∈ s.entries)
    (found : (s.reports entry'.reportID).found)
    (same : entry'.transactionID = entry.transactionID) : entry' = entry := by
  rcases inv.accounted entry' mem found with stored | ⟨r', i', created'⟩
  · have refunded := stored.isRefunded
    rw [same, (inv.unsaved r i entry created).2.2.2] at refunded
    cases refunded
  · obtain ⟨rfl, rfl⟩ := inv.exclusive r' i' r i entry' entry created' created same
    rw [created'] at created
    exact Option.some.inj created

/-- The ledger stays when only the reports go on. -/
theorem Ledger.frame (inv : s.Ledger) (transactions : s'.transactions = s.transactions)
    (entries : s'.entries = s.entries) (unsaved : ∀ r i, s'.unsaved r i = s.unsaved r i)
    (later : ∀ reportID, (s.reports reportID).Later (s'.reports reportID)) : s'.Ledger := by
  have refundData (transactionID : ℕ) : s'.refundData transactionID = s.refundData transactionID := by
    rw [RefundState.refundData, transactions, RefundState.refundData]
  constructor
  · intro entry mem
    rw [entries] at mem
    exact (later _ (inv.known entry mem)).1
  · intro transactionID
    have still : s'.liveEntries transactionID =
        (s.liveEntries transactionID).filter fun entry => (s'.reports entry.reportID).found := by
      rw [liveEntries, liveEntries, entries, List.filter_filter]
      refine List.filter_congr fun entry mem => ?_
      have before := (later _ (inv.known entry mem)).2
      cases found : (s'.reports entry.reportID).found with
      | false => simp
      | true => simp [before found]
    rw [still]
    exact (List.length_filter_le _ _).trans (inv.one transactionID)
  · intro entry mem found
    rw [entries] at mem
    refine (inv.accounted entry mem ((later _ (inv.known entry mem)).2 found)).imp ?_ ?_
    · rintro ⟨data, stored, rest⟩
      exact ⟨data, (refundData _).trans stored, rest⟩
    · rintro ⟨r, i, created⟩
      exact ⟨r, i, (unsaved r i).trans created⟩
  · intro r i entry created
    rw [unsaved] at created
    rw [entries, transactions, RefundState.isRefunded, refundData]
    exact inv.unsaved r i entry created
  · intro r i r' i' entry entry' created created'
    rw [unsaved] at created created'
    exact inv.exclusive r i r' i' entry entry' created created'
  · intro transactionID data stored
    rw [refundData] at stored
    obtain ⟨named, reportID, is, known⟩ := inv.stored transactionID data stored
    exact ⟨named, reportID, is, (later _ known).1⟩

/-- An entry is created for a transaction that has none. -/
theorem Ledger.create (inv : s.Ledger) {r : R} {i : ℕ}
    (transactions : s'.transactions = s.transactions)
    (entries : s'.entries = s.entries ++ [entry]) (reports : s'.reports = s.reports)
    (before : s.unsaved r i = none) (created : s'.unsaved r i = some entry)
    (others : ∀ r' i', s'.unsaved r' i' = s.unsaved r' i' ∨ r' = r ∧ i' = i)
    (found : (s.reports entry.reportID).found) (named : entry.id ≠ "")
    (exists_transaction : (s.transactions.find entry.transactionID).isSome)
    (notRefunded : s.isRefunded entry.transactionID = false)
    (free : ∀ r' i' entry', s.unsaved r' i' = some entry' →
      entry'.transactionID ≠ entry.transactionID) : s'.Ledger := by
  have refundData (transactionID : ℕ) : s'.refundData transactionID = s.refundData transactionID := by
    rw [RefundState.refundData, transactions, RefundState.refundData]
  have isRefunded (transactionID : ℕ) : s'.isRefunded transactionID = s.isRefunded transactionID := by
    rw [RefundState.isRefunded, refundData, RefundState.isRefunded]
  have noLive : ∀ entry' ∈ s.entries, (s.reports entry'.reportID).found →
      entry'.transactionID ≠ entry.transactionID := by
    intro entry' mem found' same
    rcases inv.accounted entry' mem found' with stored | ⟨r', i', created'⟩
    · have refunded := stored.isRefunded
      rw [same, notRefunded] at refunded
      cases refunded
    · exact free r' i' entry' created' same
  have unsaved_or {r' : R} {i' : ℕ} {entry' : ExpenseEntry}
      (created' : s'.unsaved r' i' = some entry') :
      s.unsaved r' i' = some entry' ∨ r' = r ∧ i' = i ∧ entry' = entry := by
    rcases others r' i' with same | ⟨rfl, rfl⟩
    · exact .inl (same.symm.trans created')
    · rw [created] at created'
      exact .inr ⟨rfl, rfl, (Option.some.inj created').symm⟩
  constructor
  · intro entry' mem
    rw [reports]
    rw [entries] at mem
    rcases List.mem_append.mp mem with mem | mem
    · exact inv.known entry' mem
    · rw [List.mem_singleton.mp mem]
      intro unknown
      rw [unknown] at found
      cases found
  · intro transactionID
    rw [liveEntries, entries, reports, List.filter_append]
    by_cases same : entry.transactionID = transactionID
    · have nothing : s.entries.filter (fun entry' => entry'.transactionID = transactionID &&
          (s.reports entry'.reportID).found) = [] := by
        refine List.filter_eq_nil_iff.mpr fun entry' mem live => ?_
        rw [Bool.and_eq_true, decide_eq_true_eq] at live
        exact noLive entry' mem live.2 (live.1.trans same.symm)
      rw [nothing, List.nil_append]
      exact List.length_filter_le _ [entry]
    · rw [List.filter_cons_of_neg (by simp [same]), List.filter_nil, List.append_nil]
      exact inv.one transactionID
  · intro entry' mem found'
    rw [entries] at mem
    rw [reports] at found'
    rcases List.mem_append.mp mem with mem | mem
    · rcases inv.accounted entry' mem found' with ⟨data, stored, rest⟩ | ⟨r', i', created'⟩
      · exact .inl ⟨data, (refundData _).trans stored, rest⟩
      · refine .inr ⟨r', i', ?_⟩
        rcases others r' i' with same | ⟨rfl, rfl⟩
        · exact same.trans created'
        · rw [before] at created'
          cases created'
    · rw [List.mem_singleton.mp mem]
      exact .inr ⟨r, i, created⟩
  · intro r' i' entry' created'
    rw [entries, transactions, isRefunded]
    rcases unsaved_or created' with earlier | ⟨-, -, rfl⟩
    · obtain ⟨mem, rest⟩ := inv.unsaved r' i' entry' earlier
      exact ⟨List.mem_append_left _ mem, rest⟩
    · exact ⟨List.mem_append_right _ (List.mem_singleton_self _), named, exists_transaction,
        notRefunded⟩
  · intro r₁ i₁ r₂ i₂ entry₁ entry₂ created₁ created₂ same
    rcases unsaved_or created₁ with earlier₁ | ⟨rfl, rfl, rfl⟩
    · rcases unsaved_or created₂ with earlier₂ | ⟨rfl, rfl, rfl⟩
      · exact inv.exclusive r₁ i₁ r₂ i₂ entry₁ entry₂ earlier₁ earlier₂ same
      · exact absurd same (free r₁ i₁ entry₁ earlier₁)
    · rcases unsaved_or created₂ with earlier₂ | ⟨rfl, rfl, rfl⟩
      · exact absurd same.symm (free r₂ i₂ entry₂ earlier₂)
      · exact ⟨rfl, rfl⟩
  · intro transactionID data stored
    rw [refundData] at stored
    rw [reports]
    exact inv.stored transactionID data stored

/-- Refund data that stand for the entry of the transaction are stored. -/
theorem Ledger.save (inv : s.Ledger) {transactionID : ℕ} {data : TransactionRefundData}
    (transactions : s'.transactions =
      TransactionStorage.saveTransactionRefundData s.transactions transactionID data)
    (entries : s'.entries = s.entries) (reports : s'.reports = s.reports)
    (unsaved : ∀ r i entry, s'.unsaved r i = some entry ↔
      s.unsaved r i = some entry ∧ entry.transactionID ≠ transactionID)
    (named : data.refundId ≠ "" ∧
      ∃ reportID, data.reportId = some reportID ∧ s.reports reportID ≠ .unknown)
    (exists_transaction : (s.transactions.find transactionID).isSome)
    (stands : ∀ entry ∈ s.entries, (s.reports entry.reportID).found →
      entry.transactionID = transactionID →
      data.isRefunded ∧ data.refundId = entry.id ∧ data.reportId = some entry.reportID) :
    s'.Ledger := by
  obtain ⟨transaction, found⟩ := Option.isSome_iff_exists.mp exists_transaction
  have saved : s'.refundData transactionID = some data := by
    rw [RefundState.refundData, transactions, TransactionStorage.find_saveTransactionRefundData,
      if_pos rfl, found]
    rfl
  have find_of_ne {k : ℕ} (other : k ≠ transactionID) :
      s'.transactions.find k = s.transactions.find k := by
    rw [transactions, TransactionStorage.find_saveTransactionRefundData, if_neg other]
  have refundData_of_ne {k : ℕ} (other : k ≠ transactionID) : s'.refundData k = s.refundData k := by
    rw [RefundState.refundData, find_of_ne other, RefundState.refundData]
  constructor
  · rw [entries, reports]
    exact inv.known
  · intro k
    rw [liveEntries, entries, reports]
    exact inv.one k
  · intro entry mem live
    rw [entries] at mem
    rw [reports] at live
    rcases eq_or_ne entry.transactionID transactionID with same | other
    · exact .inl ⟨data, same ▸ saved, stands entry mem live same⟩
    · rcases inv.accounted entry mem live with ⟨refundData, stored, rest⟩ | ⟨r, i, created⟩
      · exact .inl ⟨refundData, (refundData_of_ne other).trans stored, rest⟩
      · exact .inr ⟨r, i, (unsaved r i entry).mpr ⟨created, other⟩⟩
  · intro r i entry created
    obtain ⟨earlier, other⟩ := (unsaved r i entry).mp created
    rw [entries, find_of_ne other, RefundState.isRefunded, refundData_of_ne other]
    exact inv.unsaved r i entry earlier
  · intro r i r' i' entry entry' created created'
    exact inv.exclusive r i r' i' entry entry' ((unsaved r i entry).mp created).1
      ((unsaved r' i' entry').mp created').1
  · intro k refundData stored
    rw [reports]
    rcases eq_or_ne k transactionID with rfl | other
    · rw [saved] at stored
      cases stored
      exact named
    · rw [refundData_of_ne other] at stored
      exact inv.stored k refundData stored

/-- A copy of the task stands for what is stored. -/
theorem FreshTask.isRefunded (inv : s.FreshTask) {copy : RefundTransaction}
    (mem : copy ∈ s.task.copies) : s.isRefunded copy.id := by
  obtain ⟨found, refunded⟩ := inv.copies copy mem
  rw [RefundState.isRefunded, RefundState.refundData, found]
  exact refunded

/-- The task stays when its transactions do. -/
theorem FreshTask.frame (inv : s.FreshTask) (task : s'.task = s.task)
    (find : ∀ copy ∈ s.task.copies, s'.transactions.find copy.id = s.transactions.find copy.id)
    (later : ∀ reportID, (s.reports reportID).Later (s'.reports reportID)) : s'.FreshTask := by
  constructor
  · intro copy mem
    rw [task] at mem
    rw [find copy mem]
    exact inv.copies copy mem
  · rw [task]
    exact inv.distinct
  · intro transaction refundData rest updating
    rw [task] at updating
    obtain ⟨before, read, id, report, cancelled⟩ := inv.outcome transaction refundData rest updating
    refine ⟨before, read, id, report, fun status => ?_⟩
    obtain ⟨reportID, is, deleted⟩ := cancelled status
    exact ⟨reportID, is, (deleted ▸ later reportID).deleted⟩

/-- The task goes on with some of the transactions it has read. -/
theorem FreshTask.processing (inv : s.FreshTask) {rest : List RefundTransaction}
    (task : s'.task = .processing rest) (sublist : rest.Sublist s.task.copies)
    (find : ∀ copy ∈ rest, s'.transactions.find copy.id = s.transactions.find copy.id) :
    s'.FreshTask := by
  constructor
  · intro copy mem
    rw [task] at mem
    rw [find copy mem]
    exact inv.copies copy (sublist.subset mem)
  · rw [task]
    exact inv.distinct.sublist (sublist.map _)
  · intro transaction refundData rest' updating
    rw [task] at updating
    cases updating

/-- A report goes on. -/
theorem Consistent.setReport (inv : s.Consistent) {reportID : String} {report : ReportState}
    (later : (s.reports reportID).Later report) : (s.setReport reportID report).Consistent := by
  have reports (id : String) :
      (s.reports id).Later ((s.setReport reportID report).reports id) := by
    change (s.reports id).Later (Function.update s.reports reportID report id)
    rw [Function.update_apply]
    split
    · rename_i same
      exact same ▸ later
    · exact .refl _
  exact ⟨inv.ledger.frame rfl rfl (fun _ _ => rfl) reports,
    inv.task.frame rfl (fun _ _ => rfl) reports, inv.requests⟩

/-- The task starts with what is stored. -/
theorem Consistent.getTransactions (inv : s.Consistent) :
    Consistent
      { s with
        task := .processing (s.transactions.query RefundTransaction.isSubmitted
          RefundTransaction.rank) } := by
  refine ⟨inv.ledger.frame rfl rfl (fun _ _ => rfl) fun _ => .refl _, ⟨?_, ?_, ?_⟩, inv.requests⟩
  · intro copy mem
    obtain ⟨mem, submitted⟩ := Collection.mem_query.mp mem
    have found : s.transactions.find copy.id = some copy := Collection.find_of_mem mem
    refine ⟨found, ?_⟩
    obtain ⟨data, read, status⟩ := (Option.any_eq_true _ _).mp submitted
    have stored : s.refundData copy.id = some data := by
      rw [refundData, found]
      exact read
    have named := (inv.ledger.stored copy.id data stored).1
    rw [RefundTransaction.alreadyRefunded, read, Option.any_some, TransactionRefundData.isRefunded,
      of_decide_eq_true status, decide_eq_true named]
    rfl
  · exact Collection.nodup_query _ _ _
  · rintro _ _ _ ⟨⟩

/-- The task ends. -/
theorem Consistent.idleTask (inv : s.Consistent) : Consistent { s with task := .idle } := by
  refine ⟨inv.ledger.frame rfl rfl (fun _ _ => rfl) fun _ => .refl _, ⟨?_, ?_, ?_⟩, inv.requests⟩
  · rintro _ ⟨⟩
  · exact List.nodup_nil
  · rintro _ _ _ ⟨⟩

/-- The task has looked a report up. -/
theorem Consistent.lookedUp (inv : s.Consistent) {transaction : RefundTransaction}
    {data : TransactionRefundData} {rest : List RefundTransaction}
    (task : s.task = .processing (transaction :: rest)) (read : transaction.refundData = some data) :
    Consistent { s with task := s.lookedUp transaction data rest } := by
  have copies : s.task.copies = transaction :: rest := by
    rw [task]
    rfl
  have stored : s.refundData transaction.id = some data := by
    rw [refundData, (inv.task.copies transaction (by rw [copies]; exact List.mem_cons_self)).1]
    exact read
  obtain ⟨reportID, is, known⟩ := (inv.ledger.stored transaction.id data stored).2
  have updating (status : RefundStatus)
      (cancelled : status = .cancelled → s.reports reportID = .deleted) :
      FreshTask
        { s with task := .updating transaction { data with status := some status } rest } := by
    refine ⟨fun copy mem => inv.task.copies copy (copies ▸ mem), ?_, ?_⟩
    · have distinct := inv.task.distinct
      rw [copies] at distinct
      exact distinct
    · rintro _ _ _ ⟨⟩
      exact ⟨data, read, rfl, rfl, fun same => ⟨reportID, is, cancelled (Option.some.inj same)⟩⟩
  refine ⟨inv.ledger.frame rfl rfl (fun _ _ => rfl) fun _ => .refl _, ?_, inv.requests⟩
  have looked : data.reportId.elim .unknown s.reports = s.reports reportID := by
    rw [is]
    rfl
  unfold RefundState.lookedUp
  rw [looked]
  cases report : s.reports reportID with
  | unknown => exact absurd report known
  | «open» =>
      exact inv.task.processing rfl (copies ▸ List.sublist_cons_self _ _) fun _ _ => rfl
  | approved => exact updating .approved (by rintro ⟨⟩)
  | deleted => exact updating .cancelled fun _ => report

/-- The task stores the status of a refund. -/
theorem Consistent.saveRefundStatus (inv : s.Consistent) {transaction : RefundTransaction}
    {data : TransactionRefundData} {rest : List RefundTransaction}
    (task : s.task = .updating transaction data rest) :
    Consistent
      { s with
        task := .processing rest
        transactions := TransactionStorage.saveTransactionRefundData s.transactions
          transaction.id data } := by
  have copies : s.task.copies = transaction :: rest := by
    rw [task]
    rfl
  have mem : transaction ∈ s.task.copies := by
    rw [copies]
    exact List.mem_cons_self
  obtain ⟨found, refunded⟩ := inv.task.copies transaction mem
  obtain ⟨before, read, id, report, cancelled⟩ := inv.task.outcome transaction data rest task
  have stored : s.refundData transaction.id = some before := by
    rw [refundData, found]
    exact read
  obtain ⟨named, known⟩ := inv.ledger.stored transaction.id before stored
  have isStored : (s.transactions.find transaction.id).isSome := by rw [found]; rfl
  refine ⟨inv.ledger.save rfl rfl rfl (fun r i entry => ?_)
    (by rw [id, report]; exact ⟨named, known⟩) isStored ?_, ?_, ?_⟩
  · refine (and_iff_left_of_imp fun created same => ?_).symm
    have refunded := inv.task.isRefunded mem
    rw [← same, (inv.ledger.unsaved r i entry created).2.2.2] at refunded
    cases refunded
  · intro entry mem' live same
    rcases inv.ledger.accounted entry mem' live with ⟨data', stored', rest'⟩ | ⟨r, i, created⟩
    · rw [same, stored] at stored'
      cases stored'
      refine ⟨?_, id.trans rest'.2.1, report.trans rest'.2.2⟩
      rw [TransactionRefundData.isRefunded, Bool.and_eq_true, decide_eq_true_eq, decide_eq_true_eq]
      refine ⟨id ▸ named, fun status => ?_⟩
      -- The report of a refund that is cancelled has been deleted.
      obtain ⟨reportID, is, deleted⟩ := cancelled status
      rw [is, Option.some.injEq] at rest'
      rw [← rest'.2.2, deleted] at live
      cases live
    · have refunded := inv.task.isRefunded mem
      rw [← same, (inv.ledger.unsaved r i entry created).2.2.2] at refunded
      cases refunded
  · have distinct := inv.task.distinct
    rw [copies, List.map_cons, List.nodup_cons] at distinct
    refine inv.task.processing rfl (copies ▸ List.sublist_cons_self _ _) fun copy mem' => ?_
    refine (TransactionStorage.find_saveTransactionRefundData ..).trans (if_neg fun same => ?_)
    exact distinct.1 (same ▸ List.mem_map_of_mem mem')
  · intro r transaction' mem'
    change ((TransactionStorage.saveTransactionRefundData _ _ _).find _).isSome
    rw [TransactionStorage.find_saveTransactionRefundData]
    split
    · rw [Option.isSome_map]
      exact isStored
    · exact inv.requests r transaction' mem'

variable [DecidableEq R]

/-- An entry is created only for a transaction that is not stored as refunded, and that no
worker has an entry to store for; and every entry that is created gets stored. -/
def StoresEntries (s : RefundState R) : RefundEvent R → Prop
  | .createExpenseReportEntry r i (.created _) =>
      ∀ worker ∈ (s.request r).workers[i]?, s.isRefunded worker.transaction.id = false ∧
        ∀ r', ∀ entry ∈ (s.request r').unsavedEntries,
          entry.transactionID ≠ worker.transaction.id
  | .createExpenseReportEntry _ _ (.lost _) => False
  | .saveTransactionRefundData _ _ _ saved => saved
  | .abort r => (s.request r).unsavedEntries = []
  | _ => True

theorem unsaved_setRequest {r r' : R} {pc : RequestPc} {i : ℕ} :
    (s.setRequest r pc).unsaved r' i = if r' = r then pc.unsaved i else s.unsaved r' i := by
  change (Function.update s.request r pc r').unsaved i = _
  rw [Function.update_apply]
  split <;> rfl

/-- A request goes on without an entry, with transactions that are stored. -/
theorem Consistent.setRequest (inv : s.Consistent) {r : R} {pc : RequestPc}
    (unsaved : ∀ i, pc.unsaved i = s.unsaved r i)
    (reads : ∀ transaction ∈ pc.transactions,
      (s.transactions.find transaction.id).isSome) : (s.setRequest r pc).Consistent where
  ledger := by
    refine inv.ledger.frame rfl rfl (fun r' i => ?_) fun _ => .refl _
    rw [unsaved_setRequest]
    split
    · rename_i same
      rw [same, unsaved]
    · rfl
  task := inv.task.frame rfl (fun _ _ => rfl) fun _ => .refl _
  requests := by
    intro r' transaction mem
    change transaction ∈ (Function.update s.request r pc r').transactions at mem
    rw [Function.update_apply] at mem
    split at mem
    · exact reads transaction mem
    · exact inv.requests r' transaction mem

section Worker

variable {r : R} {i : ℕ} {expenseReportId : String} {workers : List RefundWorker}
variable {transaction : RefundTransaction} {old pc : WorkerPc}

omit [DecidableEq R] in
theorem unsaved_of_refunding (refunding : s.request r = .refunding expenseReportId workers)
    (at_i : workers[i]? = some ⟨transaction, old⟩) :
    s.unsaved r i = (⟨transaction, old⟩ : RefundWorker).unsaved expenseReportId := by
  rw [unsaved, refunding, RequestPc.unsaved, at_i]
  rfl

theorem unsaved_setWorker (refunding : s.request r = .refunding expenseReportId workers)
    (at_i : workers[i]? = some ⟨transaction, old⟩) (pc : WorkerPc) (r' : R) (i' : ℕ) :
    (s.setWorker r expenseReportId workers i transaction pc).unsaved r' i' =
      if r' = r ∧ i' = i then (⟨transaction, pc⟩ : RefundWorker).unsaved expenseReportId
      else s.unsaved r' i' := by
  have bound : i < workers.length := (List.getElem?_eq_some_iff.mp at_i).1
  rw [setWorker, unsaved_setRequest]
  by_cases same : r' = r
  · rw [if_pos same, RequestPc.unsaved_set bound, same]
    by_cases here : i' = i
    · rw [if_pos here, if_pos ⟨rfl, here⟩]
    · rw [if_neg here, if_neg fun both => here both.2, unsaved, refunding]
  · rw [if_neg same, if_neg fun both => same both.1]

/-- The transactions of the workers stay. -/
theorem ReadsStored.setWorker (inv : s.ReadsStored)
    (refunding : s.request r = .refunding expenseReportId workers)
    (at_i : workers[i]? = some ⟨transaction, old⟩) :
    (s.setWorker r expenseReportId workers i transaction pc).ReadsStored := by
  intro r' transaction' mem
  change transaction' ∈ (Function.update s.request r _ r').transactions at mem
  have of_mem : ∀ worker ∈ workers, (s.transactions.find worker.transaction.id).isSome := by
    intro worker mem
    refine inv r worker.transaction ?_
    rw [refunding]
    exact List.mem_map_of_mem mem
  rw [Function.update_apply] at mem
  split at mem
  · obtain ⟨worker, mem', rfl⟩ := List.mem_map.mp mem
    rcases List.mem_or_eq_of_mem_set mem' with earlier | rfl
    · exact of_mem worker earlier
    · exact of_mem ⟨transaction, old⟩ (List.mem_of_getElem? at_i)
  · exact inv r' transaction' mem

/-- A worker goes on without an entry. -/
theorem Consistent.setWorker (inv : s.Consistent)
    (refunding : s.request r = .refunding expenseReportId workers)
    (at_i : workers[i]? = some ⟨transaction, old⟩)
    (before : (⟨transaction, old⟩ : RefundWorker).unsaved expenseReportId = none)
    (after : (⟨transaction, pc⟩ : RefundWorker).unsaved expenseReportId = none) :
    (s.setWorker r expenseReportId workers i transaction pc).Consistent where
  ledger := by
    refine inv.ledger.frame rfl rfl (fun r' i' => ?_) fun _ => .refl _
    rw [unsaved_setWorker refunding at_i]
    split
    · rename_i here
      rw [here.1, here.2, unsaved_of_refunding refunding at_i, before, after]
    · rfl
  task := inv.task.frame rfl (fun _ _ => rfl) fun _ => .refl _
  requests := inv.requests.setWorker refunding at_i

/-- An entry is created, for a transaction that has none. -/
theorem Consistent.create (inv : s.Consistent) {entryId : String}
    (refunding : s.request r = .refunding expenseReportId workers)
    (at_i : workers[i]? = some ⟨transaction, .started⟩)
    (found : (s.reports expenseReportId).found) (named : entryId ≠ "")
    (fresh : s.StoresEntries (.createExpenseReportEntry r i (.created entryId))) :
    Consistent
      { s.setWorker r expenseReportId workers i transaction (.created entryId) with
        entries := s.entries ++ [⟨expenseReportId, entryId, transaction.id⟩] } := by
  have mem : transaction ∈ (s.request r).transactions := by
    rw [refunding]
    exact List.mem_map_of_mem (List.mem_of_getElem? at_i)
  obtain ⟨notRefunded, free⟩ := fresh ⟨transaction, .started⟩ (by rw [refunding]; exact at_i)
  have unsaved' := unsaved_setWorker refunding at_i (.created entryId)
  refine ⟨inv.ledger.create (r := r) (i := i) rfl rfl rfl ?_ ?_ ?_ found named
    (inv.requests r transaction mem) notRefunded ?_, inv.task.frame rfl (fun _ _ => rfl)
    fun _ => .refl _, inv.requests.setWorker refunding at_i⟩
  · exact unsaved_of_refunding refunding at_i
  · refine (unsaved' r i).trans ?_
    rw [if_pos ⟨rfl, rfl⟩]
    rfl
  · intro r' i'
    refine (em (r' = r ∧ i' = i)).symm.imp_left fun elsewhere => ?_
    exact (unsaved' r' i').trans (if_neg elsewhere)
  · intro r' i' entry created
    exact free r' entry (RequestPc.mem_unsavedEntries.mpr ⟨i', created⟩)

/-- The entry of a worker is stored. -/
theorem Consistent.save (inv : s.Consistent) {entryId : String} {now : ℤ}
    (refunding : s.request r = .refunding expenseReportId workers)
    (at_i : workers[i]? = some ⟨transaction, .created entryId⟩) :
    Consistent
      { s.setWorker r expenseReportId workers i transaction .refunded with
        transactions := TransactionStorage.saveTransactionRefundData s.transactions transaction.id
          ⟨entryId, now, some expenseReportId, some .submitted⟩ } := by
  have created : s.unsaved r i = some ⟨expenseReportId, entryId, transaction.id⟩ :=
    unsaved_of_refunding refunding at_i
  obtain ⟨mem, named, isStored, notRefunded⟩ := inv.ledger.unsaved r i _ created
  have unsaved' := unsaved_setWorker refunding at_i .refunded
  have find_isSome {k : ℕ} (before : (s.transactions.find k).isSome) :
      ((TransactionStorage.saveTransactionRefundData s.transactions transaction.id
        ⟨entryId, now, some expenseReportId, some .submitted⟩).find k).isSome := by
    rw [TransactionStorage.find_saveTransactionRefundData]
    split
    · rw [Option.isSome_map]
      exact isStored
    · exact before
  refine ⟨inv.ledger.save rfl rfl rfl ?_ ?_ isStored ?_, ?_, ?_⟩
  · intro r' i' entry
    change (s.setWorker r expenseReportId workers i transaction .refunded).unsaved r' i' = _ ↔ _
    rw [unsaved']
    constructor
    · intro created'
      split at created'
      · cases created'
      · rename_i elsewhere
        exact ⟨created', fun same =>
          elsewhere (inv.ledger.exclusive r' i' r i entry _ created' created same)⟩
    · rintro ⟨created', other⟩
      rw [if_neg]
      · exact created'
      · rintro ⟨rfl, rfl⟩
        rw [created] at created'
        cases created'
        exact other rfl
  · exact ⟨named, expenseReportId, rfl, inv.ledger.known _ mem⟩
  · intro entry mem' found same
    have is := inv.ledger.eq_of_unsaved created mem' found same
    rw [is]
    refine ⟨?_, rfl, rfl⟩
    rw [TransactionRefundData.isRefunded, decide_eq_true named]
    rfl
  · refine inv.task.frame rfl (fun copy mem' => ?_) fun _ => .refl _
    refine (TransactionStorage.find_saveTransactionRefundData ..).trans (if_neg fun same => ?_)
    have refunded := inv.task.isRefunded mem'
    rw [same, notRefunded] at refunded
    cases refunded
  · intro r' transaction' mem'
    exact find_isSome (inv.requests.setWorker refunding at_i r' transaction' mem')

end Worker

/-- A request goes on without its transactions. -/
theorem Consistent.setRequest_idle (inv : s.Consistent) {r : R}
    (nothing : ∀ i, s.unsaved r i = none) : (s.setRequest r .idle).Consistent :=
  inv.setRequest (fun i => (nothing i).symm) (by rintro _ ⟨⟩)

omit [DecidableEq R] in
/-- The task leaves transactions out. -/
theorem Consistent.skip (inv : s.Consistent) {rest : List RefundTransaction}
    (sublist : rest.Sublist s.task.copies) : Consistent { s with task := .processing rest } :=
  ⟨inv.ledger.frame rfl rfl (fun _ _ => rfl) fun _ => .refl _,
    inv.task.processing rfl sublist fun _ _ => rfl, inv.requests⟩

/-- **A step keeps the invariant**, if it stores the entries that it creates. -/
theorem Consistent.step (inv : s.Consistent) {event : RefundEvent R} (stores : s.StoresEntries event)
    (step : s.Step event s') : s'.Consistent := by
  unfold Step at step
  cases event with
  | receive r transactionsIDs =>
      simp only [next] at step
      split at step
      · rename_i idle
        cases step
        refine inv.setRequest (fun i => ?_) (by rintro _ ⟨⟩)
        rw [unsaved, idle]
        rfl
      · cases step
  | getTransaction r canRefundTransaction =>
      simp only [next] at step
      split at step
      · rename_i transactionId transactionsIDs transactionsToRefund reading
        have nothing (i : ℕ) : s.unsaved r i = none := by
          rw [unsaved, reading]
          rfl
        have reads := inv.requests r
        rw [reading] at reads
        split at step
        · cases step
          exact inv.setRequest_idle nothing
        · rename_i transaction found
          split at step
          · cases step
            exact inv.setRequest (fun i => (nothing i).symm) reads
          · split at step
            · cases step
              refine inv.setRequest (fun i => (nothing i).symm) fun transaction' mem => ?_
              rcases List.mem_append.mp mem with mem | mem
              · exact reads transaction' mem
              · rw [List.mem_singleton.mp mem, Collection.key_of_find found, found]
                rfl
            · cases step
              exact inv.setRequest_idle nothing
      · cases step
  | createExpenseReport r answer =>
      simp only [next] at step
      split at step
      · rename_i reading
        cases step
        refine inv.setRequest_idle fun i => ?_
        rw [unsaved, reading]
        rfl
      · rename_i reading
        cases step
        refine inv.setRequest_idle fun i => ?_
        rw [unsaved, reading]
        rfl
      · rename_i transactions expenseReportId nonempty reading
        split at step
        · rename_i unknown
          cases step
          refine Consistent.setReport (inv.setRequest (fun i => ?_) fun transaction mem => ?_)
            fun known => absurd unknown known
          · rw [unsaved, reading, RequestPc.unsaved, List.getElem?_map]
            cases transactions[i]? <;> rfl
          · have reads := inv.requests r transaction
            rw [reading] at reads
            obtain ⟨worker, created, rfl⟩ := List.mem_map.mp mem
            obtain ⟨transaction', read, rfl⟩ := List.mem_map.mp created
            exact reads read
        · cases step
      · cases step
  | startWorker r i =>
      simp only [next] at step
      split at step
      · rename_i expenseReportId workers refunding
        split at step
        · rename_i transaction at_i
          split at step
          · cases step
            exact inv.setWorker refunding at_i rfl rfl
          · cases step
        · cases step
      · cases step
  | createExpenseReportEntry r i answer =>
      simp only [next] at step
      split at step
      · rename_i expenseReportId workers refunding
        split at step
        · rename_i transaction entryId at_i
          obtain ⟨⟨found, named⟩, step⟩ := Option.ite_none_right_eq_some.mp step
          cases step
          exact inv.create refunding at_i found named stores
        · cases stores
        · rename_i transaction at_i
          cases step
          exact inv.setWorker refunding at_i rfl rfl
        · cases step
      · cases step
  | saveTransactionRefundData r i now saved =>
      simp only [next] at step
      split at step
      · rename_i expenseReportId workers refunding
        split at step
        · rename_i transaction entryId at_i
          rw [if_pos (show saved = true from stores)] at step
          cases step
          exact inv.save refunding at_i
        · cases step
      · cases step
  | respond r =>
      simp only [next] at step
      split at step
      · rename_i expenseReportId workers refunding
        split at step
        · rename_i finished
          cases step
          refine inv.setRequest_idle (RequestPc.unsaved_eq_none ?_)
          rw [refunding, RequestPc.unsavedEntries, List.filterMap_eq_nil_iff]
          intro worker mem
          have done := List.all_eq_true.mp finished worker mem
          rw [Bool.or_eq_true, decide_eq_true_eq, decide_eq_true_eq] at done
          rcases done with pc | pc
          all_goals
            rw [RefundWorker.unsaved, pc]
        · cases step
      · cases step
  | abort r =>
      cases step
      exact inv.setRequest_idle (RequestPc.unsaved_eq_none stores)
  | getTransactions =>
      simp only [next] at step
      split at step
      · cases step
        exact inv.getTransactions
      · cases step
  | getExpenseReport answered =>
      simp only [next] at step
      split at step
      · rename_i transaction rest processing
        have skipped : Consistent { s with task := .processing rest } := by
          refine inv.skip ?_
          rw [processing]
          exact List.sublist_cons_self _ _
        split at step
        · rename_i data read
          split at step
          · cases step
            exact inv.lookedUp processing read
          · cases step
            exact skipped
        · cases step
          exact skipped
      · cases step
        exact inv.idleTask
      · cases step
  | saveRefundStatus saved =>
      simp only [next] at step
      split at step
      · rename_i transaction data rest updating
        split at step
        · cases step
          exact inv.saveRefundStatus updating
        · cases step
          refine inv.skip ?_
          rw [updating]
          exact List.sublist_cons_self _ _
      · cases step
  | abortTask =>
      cases step
      exact inv.idleTask
  | approveReport reportID =>
      simp only [next] at step
      split at step
      · rename_i isOpen
        cases step
        exact inv.setReport fun _ => ⟨by decide, fun _ => by rw [isOpen]; rfl⟩
      · cases step
  | deleteReport reportID =>
      simp only [next] at step
      split at step
      · cases step
        exact inv.setReport fun _ => ⟨by decide, by rintro ⟨⟩⟩
      · cases step

omit [DecidableEq R] in
/-- Before any refund. -/
theorem consistent_start {transactions : RefundTransactions}
    (notRefunded : ∀ transaction ∈ transactions.docs, transaction.refundData = none) :
    ({ transactions } : RefundState R).Consistent := by
  have nothing (transactionID : ℕ) :
      ({ transactions } : RefundState R).refundData transactionID = none := by
    change (transactions.find transactionID).bind _ = none
    cases found : transactions.find transactionID with
    | none => rfl
    | some transaction => exact notRefunded transaction (Collection.mem_of_find found)
  refine ⟨⟨?_, fun _ => by simp [liveEntries], ?_, ?_, ?_, ?_⟩, ⟨?_, List.nodup_nil, ?_⟩, ?_⟩
  · rintro _ ⟨⟩
  · rintro _ ⟨⟩
  · rintro _ _ _ ⟨⟩
  · rintro _ _ _ _ _ _ ⟨⟩
  · intro transactionID refundData stored
    rw [nothing] at stored
    cases stored
  · rintro _ ⟨⟩
  · rintro _ _ _ ⟨⟩
  · rintro _ _ ⟨⟩

/-- A transaction to be refunded. -/
def exampleTransactions : RefundTransactions := Collection.empty.save { id := 1, userID := "U" }

/-- A request reads the transactions and creates a report. -/
def exampleRequest (r : Fin 2) (transactionsIDs : List ℕ) (reportID : String) :
    List (RefundEvent (Fin 2)) :=
  .receive r transactionsIDs :: transactionsIDs.map (fun _ => .getTransaction r true) ++
    [.createExpenseReport r (some reportID)]

/-- Worker `i` creates an entry. -/
def exampleEntry (r : Fin 2) (i : ℕ) (entryId : String) : List (RefundEvent (Fin 2)) :=
  [.startWorker r i, .createExpenseReportEntry r i (.created entryId)]

instance : DecidableRel (StoresEntries (R := Fin 2)) := fun s event =>
  match event with
  | .createExpenseReportEntry r i (.created _) =>
      inferInstanceAs (Decidable (∀ worker ∈ (s.request r).workers[i]?,
        s.isRefunded worker.transaction.id = false ∧
          ∀ r', ∀ entry ∈ (s.request r').unsavedEntries,
            entry.transactionID ≠ worker.transaction.id))
  | .createExpenseReportEntry _ _ (.lost _) => isFalse id
  | .saveTransactionRefundData _ _ _ saved => inferInstanceAs (Decidable (saved = true))
  | .abort r => inferInstanceAs (Decidable ((s.request r).unsavedEntries = []))
  | .createExpenseReportEntry _ _ .refused | .receive .. | .getTransaction ..
  | .createExpenseReport .. | .startWorker .. | .respond _ | .getTransactions
  | .getExpenseReport _ | .saveRefundStatus _ | .abortTask | .approveReport _
  | .deleteReport _ => isTrue trivial

end RefundState

end EvServer
