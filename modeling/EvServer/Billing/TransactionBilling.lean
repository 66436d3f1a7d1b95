import EvServer.Ocpp.Frames
import EvServer.Ocpp.StopTransaction
import EvServer.Ocpp.TransactionStorage

/-!
# Billing a transaction (`processTransactionBilling`, `StripeBillingIntegration`)

A transaction is marked for billing when it stops and is handed to an asynchronous task
once its extra inactivity is known.  The handler of a status notification finds the
latter out, for the last transaction of its connector; a scheduled task does so for the
transactions that have stayed `PENDING`.  Both work on a copy of the transaction that
they read before and save as a whole afterwards.
-/

namespace EvServer

/-- `BillingIntegration`, as far as it is told about a single transaction.  At the end it
also says whether it created a task. -/
structure BillingIntegration where
  startTransaction : Transaction → Except String Bool
  stopTransaction : Transaction → Except String BillingDataTransactionStop
  endTransaction : Transaction → Except String (BillingDataTransactionStop × Bool)

namespace StripeBillingIntegration

/-- `StripeBillingIntegration.endTransaction`; `createAndSaveAsyncTasks` is the outcome of
creating the task. -/
def endTransaction (createAndSaveAsyncTasks : Except String Unit) (transaction : Transaction) :
    Except String (BillingDataTransactionStop × Bool) :=
  let stop := transaction.billingData.bind TransactionBillingData.stop
  if ¬ transaction.billingData.any TransactionBillingData.withBillingActive then
    .ok ({ status := .unbilled }, false)
  else
    match stop with
    -- Preserve the previous state unchanged
    | some { status := .billed, invoiceID } => .ok ({ status := .billed, invoiceID }, false)
    | some { status := .unbilled, invoiceID } => .ok ({ status := .unbilled, invoiceID }, false)
    | _ =>
        if transaction.stop.any TransactionStop.extraInactivityComputed then do
          createAndSaveAsyncTasks
          return ({ status := .pending }, true)
        else .ok (stop.getD { status := .pending }, false)

/-- `StripeBillingIntegration.billTransaction`, by the outcome of its checks and that of
`billInvoiceItem`, which is called for a customer only. -/
def billTransaction (check : Except String Unit)
    (billInvoiceItem : Option (Except String String)) :
    Except String BillingDataTransactionStop := do
  check
  match billInvoiceItem with
  | some (.ok invoiceID) => return { status := .billed, invoiceID := some invoiceID }
  | _ => return { status := .failed }

end StripeBillingIntegration

namespace OCPPUtils

/-- The answer of the billing about the end of a transaction. -/
def setBillingStop (transaction : Transaction) (stop : BillingDataTransactionStop) : Transaction :=
  { transaction with
    billingData := transaction.billingData.map fun billingData =>
      { billingData with stop := some stop } }

/-- `OCPPUtils.processTransactionBilling`: the transaction, and whether a task has been
created.  Only a start that fails throws; an own user is needed. -/
def processTransactionBilling (billingImpl : Option BillingIntegration)
    (transaction : Transaction) (action : TransactionAction) : Except String (Transaction × Bool) :=
  if transaction.userIssuer ≠ some true then .ok (transaction, false)
  else
    match billingImpl with
    | none => .ok (transaction, false)
    | some billingImpl =>
        match action with
        | .start => do
            let withBillingActive ← billingImpl.startTransaction transaction
            return ({ transaction with
              billingData := some { withBillingActive := withBillingActive } }, false)
        | .update => .ok (transaction, false)
        | .stop =>
            match billingImpl.stopTransaction transaction with
            | .ok stop => .ok (setBillingStop transaction stop, false)
            | .error _ => .ok (transaction, false)
        | .end =>
            match billingImpl.endTransaction transaction with
            | .ok (stop, created) => .ok (setBillingStop transaction stop, created)
            | .error _ => .ok (transaction, false)

end OCPPUtils

/-! ## The end of a transaction -/

/-- A status notification of a connector, and what the handler finds with it. -/
structure StatusNotification where
  chargingStation : ChargingStation
  /-- The status of the connector before. -/
  connectorStatus : ChargePointStatus
  status : ChargePointStatus
  timestamp : Option Timestamp := none
  pricingImpl : Option PricingIntegration := none
  /-- `getLastTransactionConsumption`. -/
  lastConsumption : Option Consumption := none

namespace OCPPService

/-- The extra inactivity counts only when the connector becomes available after use. -/
def isFreed (notification : StatusNotification) : Bool :=
  [ChargePointStatus.finishing, .charging, .suspendedEv, .suspendedEvse, .occupied,
    .unavailable].contains notification.connectorStatus &&
    notification.status = .available

/-- The seconds since the transaction stopped; negative ones are ignored. -/
def extraInactivitySecs (timestamp : Timestamp) (stop : TransactionStop) : ℤ :=
  max ((timestamp - stop.timestamp) / 1000) 0

/-- The part of `checkAndComputeTransactionExtraInactivityFromStatusNotification` for a
transaction whose extra inactivity is not known. -/
def computeExtraInactivity (notification : StatusNotification) (timestamp : Timestamp)
    (stop : TransactionStop) (transaction : Transaction) : Except String Transaction :=
  let secs := if isFreed notification then extraInactivitySecs timestamp stop else 0
  if 0 < secs then
    let stop :=
      { stop with
        extraInactivitySecs := secs
        inactivityStatus := Utils.getInactivityStatusLevel notification.chargingStation
          transaction.connectorId (stop.totalInactivitySecs + secs) }
    (OCPPUtils.buildAndPriceExtraConsumptionInactivity notification.pricingImpl
      { transaction with stop := some stop } notification.lastConsumption).map Prod.fst
  else .ok { transaction with stop := some { stop with extraInactivitySecs := 0 } }

/-- `checkAndComputeTransactionExtraInactivityFromStatusNotification`: the transaction, and
whether it has been updated. -/
def checkAndComputeTransactionExtraInactivity (notification : StatusNotification)
    (transaction : Transaction) : Except String (Transaction × Bool) :=
  match notification.timestamp, transaction.stop with
  | some timestamp, some stop =>
      if stop.extraInactivityComputed then .ok (transaction, false)
      else do
        let transaction ← computeExtraInactivity notification timestamp stop transaction
        return ({ transaction with
          stop := transaction.stop.map fun stop =>
            { stop with extraInactivityComputed := true } }, true)
  | _, _ => .ok (transaction, false)

/-- `checkAndBillTransaction`: the transaction, whether it has been updated, and whether a
task has been created. -/
def checkAndBillTransaction (billingImpl : Option BillingIntegration)
    (transaction : Transaction) : Except String (Transaction × Bool × Bool) :=
  if transaction.stop.any TransactionStop.extraInactivityComputed then do
    let (transaction, created) ←
      OCPPUtils.processTransactionBilling billingImpl transaction .end
    return (transaction, true, created)
  else .ok (transaction, false, false)

end OCPPService

/-- The billing status is `PENDING`. -/
def Transaction.isPending (transaction : Transaction) : Bool :=
  (transaction.billingData.bind TransactionBillingData.stop).any (·.status = .pending)

/-- The billing status is `BILLED`. -/
def Transaction.isBilled (transaction : Transaction) : Bool :=
  (transaction.billingData.bind TransactionBillingData.stop).any (·.status = .billed)

namespace BillPendingTransactionTask

/-- The checks of the scheduled task on a transaction that it has read. -/
def canClose (transaction : Transaction) : Bool :=
  transaction.isPending &&
    ((transaction.billingData.bind TransactionBillingData.stop).bind
      BillingDataTransactionStop.invoiceID).isNone

/-- What the scheduled task then does to it: no extra inactivity has been added. -/
def closeExtraInactivity (transaction : Transaction) : Transaction :=
  { transaction with
    stop := transaction.stop.map fun stop =>
      { stop with extraInactivityComputed := true, extraInactivitySecs := 0 } }

end BillPendingTransactionTask

namespace BillTransactionAsyncTask

/-- The task only bills transactions created while billing was on and marked as
`PENDING`. -/
def canBill (transaction : Transaction) : Bool :=
  transaction.billingData.any TransactionBillingData.withBillingActive && transaction.isPending

end BillTransactionAsyncTask

/-! ## What is billed -/

/-- A transaction is `BILLED` only if billing was on when it started. -/
def Transaction.BilledIfActive (transaction : Transaction) : Prop :=
  transaction.isBilled →
    transaction.billingData.any TransactionBillingData.withBillingActive

/-- The transaction without what its extra inactivity changes: its stop and its price. -/
def Transaction.unended (transaction : Transaction) : Transaction :=
  { transaction.unpriced with stop := none }

namespace OCPPUtils

theorem unended_buildAndPriceExtraConsumptionInactivity
    {pricingImpl : Option PricingIntegration} {transaction : Transaction}
    {lastConsumption : Option Consumption} {priced : Transaction × Option Consumption}
    (h : buildAndPriceExtraConsumptionInactivity pricingImpl transaction lastConsumption =
      .ok priced) : priced.1.unended = transaction.unended := by
  unfold buildAndPriceExtraConsumptionInactivity at h
  split at h
  · cases h
    rfl
  · obtain ⟨⟨ended, consumption⟩, hended, h⟩ := Outcome.bind_eq_ok.mp h
    cases h
    have kept := unpriced_processTransactionPricing hended
    exact congrArg (fun unpriced : Transaction => { unpriced with stop := none }) kept

end OCPPUtils

namespace OCPPService

theorem unended_computeExtraInactivity {notification : StatusNotification}
    {timestamp : Timestamp} {stop : TransactionStop} {transaction transaction' : Transaction}
    (h : computeExtraInactivity notification timestamp stop transaction = .ok transaction') :
    transaction'.unended = transaction.unended := by
  unfold computeExtraInactivity at h
  generalize (if isFreed notification then extraInactivitySecs timestamp stop else 0) = secs at h
  dsimp only at h
  split at h
  · obtain ⟨priced, hpriced, rfl⟩ := Outcome.map_eq_ok.mp h
    have kept := OCPPUtils.unended_buildAndPriceExtraConsumptionInactivity hpriced
    exact kept
  · cases h
    rfl

/-- **The extra inactivity** changes the stop of a transaction and its price. -/
theorem unended_checkAndComputeTransactionExtraInactivity
    {notification : StatusNotification} {transaction : Transaction}
    {answer : Transaction × Bool}
    (h : checkAndComputeTransactionExtraInactivity notification transaction = .ok answer) :
    answer.1.unended = transaction.unended := by
  unfold checkAndComputeTransactionExtraInactivity at h
  split at h
  · split at h
    · cases h
      rfl
    · obtain ⟨between, hbetween, h⟩ := Outcome.bind_eq_ok.mp h
      cases h
      have kept := unended_computeExtraInactivity hbetween
      exact kept
  · cases h
    rfl

/-- Finding out the extra inactivity does not touch the billing data. -/
theorem billingData_checkAndComputeTransactionExtraInactivity
    {notification : StatusNotification} {transaction : Transaction}
    {answer : Transaction × Bool}
    (h : checkAndComputeTransactionExtraInactivity notification transaction = .ok answer) :
    answer.1.billingData = transaction.billingData := by
  change answer.1.unended.billingData = transaction.unended.billingData
  rw [unended_checkAndComputeTransactionExtraInactivity h]

end OCPPService

/-- Two copies of a transaction that the billing tells apart neither by whether they are
`BILLED` nor by whether billing was on at their start. -/
structure SameBilled (transaction transaction' : Transaction) : Prop where
  isBilled : transaction'.isBilled = transaction.isBilled
  active : transaction'.billingData.any TransactionBillingData.withBillingActive =
    transaction.billingData.any TransactionBillingData.withBillingActive

namespace SameBilled

variable {transaction transaction' transaction'' : Transaction}

theorem of_billingData (h : transaction'.billingData = transaction.billingData) :
    SameBilled transaction transaction' := by
  constructor
  · rw [Transaction.isBilled, h, Transaction.isBilled]
  · rw [h]

theorem billedIfActive (same : SameBilled transaction transaction')
    (h : transaction.BilledIfActive) : transaction'.BilledIfActive := by
  intro billed
  rw [same.active]
  exact h (same.isBilled ▸ billed)

end SameBilled

namespace StripeBillingIntegration

/-- The answer about the end of a transaction is `BILLED` only if it was before. -/
theorem endTransaction_ok {createAndSaveAsyncTasks : Except String Unit}
    {transaction : Transaction} {answer : BillingDataTransactionStop × Bool}
    (active : transaction.BilledIfActive)
    (h : endTransaction createAndSaveAsyncTasks transaction = .ok answer) :
    answer.1.status = .billed ↔ transaction.isBilled := by
  unfold endTransaction at h
  unfold Transaction.BilledIfActive at active
  unfold Transaction.isBilled at active ⊢
  generalize transaction.billingData.bind TransactionBillingData.stop = stop at h active ⊢
  dsimp only at h
  split at h
  · rename_i inactive
    cases h
    constructor
    · intro billed
      cases billed
    · intro billed
      exact absurd (active billed) inactive
  · split at h
    · cases h
      simp
    · cases h
      simp
    · rename_i notBilled _
      have open' : ¬ stop.any (·.status = .billed) := by
        intro billed
        obtain ⟨found, hfound, status⟩ := (Option.any_eq_true _ _).mp billed
        obtain ⟨status', invoiceID⟩ := found
        cases of_decide_eq_true status
        exact notBilled invoiceID hfound
      split at h
      · obtain ⟨_, -, h⟩ := Outcome.bind_eq_ok.mp h
        cases h
        simp [open']
      · cases h
        cases stop with
        | none => simp
        | some stop => simp

/-- **The end of a transaction keeps what has been billed**, and bills nothing itself. -/
theorem sameBilled_processTransactionBilling {createAndSaveAsyncTasks : Except String Unit}
    {billingImpl : BillingIntegration}
    (stripe : billingImpl.endTransaction = endTransaction createAndSaveAsyncTasks)
    {transaction : Transaction} {answer : Transaction × Bool}
    (active : transaction.BilledIfActive)
    (h : OCPPUtils.processTransactionBilling (some billingImpl) transaction .end = .ok answer) :
    SameBilled transaction answer.1 := by
  unfold OCPPUtils.processTransactionBilling at h
  dsimp only at h
  rw [stripe] at h
  split at h
  · cases h
    exact .of_billingData rfl
  · split at h
    · rename_i ended
      cases h
      have status := endTransaction_ok active ended
      constructor
      · rw [Bool.eq_iff_iff, ← status]
        cases present : transaction.billingData with
        | none =>
            rw [Transaction.isBilled, present] at status
            simpa [Transaction.isBilled, OCPPUtils.setBillingStop, present] using status
        | some billingData => simp [Transaction.isBilled, OCPPUtils.setBillingStop, present]
      · rw [OCPPUtils.setBillingStop, Option.any_map]
    · cases h
      exact .of_billingData rfl

end StripeBillingIntegration

end EvServer
