import EvServer.Lib.Handler
import EvServer.Lib.Query
import EvServer.Utils

/-!
# The periodic billing operation (`BillingIntegration.chargeInvoices`)

The operation pages through the invoices of a period that are not paid yet and charges
each of them.  An invoice that leaves the result of the query would move the others to
the front, so the number of those to skip is lowered by one for it.

What Stripe answers is a parameter; an invoice that it returns has the ID it was asked
for.  Reads from the database do not fail here.
-/

namespace EvServer

/-- `BillingInvoiceStatus`. -/
inductive BillingInvoiceStatus
  | paid
  | «open»
  | draft
  | void
  | uncollectible
  | deleted
  deriving DecidableEq, Repr

/-- `BillingInvoice`, up to what is only displayed; of the sessions their transactions.  The
collection has a unique index on `invoiceID`. -/
structure BillingInvoice where
  invoiceID : String
  userID : String
  number : Option String := none
  status : BillingInvoiceStatus
  createdOn : Timestamp
  sessions : Option (List ℕ) := none
  lastError : Option String := none
  deriving DecidableEq, Repr

/-- `Stripe.Invoice`; the dates are seconds since the epoch, and `finalizedAt` is `0` when it
is not set. -/
structure StripeInvoice where
  id : String
  number : Option String := none
  status : BillingInvoiceStatus
  created : ℤ
  finalizedAt : ℤ := 0
  /-- `metadata?.userID`. -/
  userID : Option String
  deriving DecidableEq, Repr

/-- An error that Stripe throws. -/
structure StripeError where
  message : String
  /-- `StripeHelpers.isResourceMissingError`. -/
  isResourceMissing : Bool := false
  deriving DecidableEq, Repr

/-- What the calls lead to while an invoice is charged. -/
structure StripeAnswers where
  checkConnection : Except String Unit := .ok ()
  retrieve : Except StripeError StripeInvoice
  finalizeInvoice : Except StripeError StripeInvoice := retrieve
  pay : Except StripeError StripeInvoice := retrieve
  /-- `getStripeInvoice`, after a failure. -/
  getStripeInvoice : Except StripeError StripeInvoice := retrieve
  saveInvoice : Except String Unit := .ok ()
  updateInvoiceAdditionalData : Except String Unit := .ok ()

/-- The collection of the invoices. -/
abbrev Invoices := Collection BillingInvoice.invoiceID

namespace BillingStorage

/-- `BillingStorage.saveInvoice`, for the invoice of a Stripe invoice: the sessions and the
error of a stored one stay. -/
def saveInvoice (outcome : Except String Unit) (invoiceToSave : BillingInvoice) :
    Handler Invoices String Unit :=
  Handler.write outcome fun invoices =>
    invoices.save (match invoices.find invoiceToSave.invoiceID with
      | none => invoiceToSave
      | some stored =>
          { invoiceToSave with sessions := stored.sessions, lastError := stored.lastError })

/-- `BillingStorage.updateInvoiceAdditionalData`, without a new session. -/
def updateInvoiceAdditionalData (outcome : Except String Unit) (invoiceToUpdate : BillingInvoice)
    (lastError : String) : Handler Invoices String Unit :=
  Handler.write outcome fun invoices =>
    match invoices.find invoiceToUpdate.invoiceID with
    | none => invoices
    | some stored =>
        invoices.save { stored with
          sessions := some (invoiceToUpdate.sessions.getD [])
          lastError := some lastError }

end BillingStorage

namespace StripeBillingIntegration

/-- The invoice that Stripe returns for an ID. -/
def ofID (invoiceID : String) (answer : Except StripeError StripeInvoice) :
    Except StripeError StripeInvoice :=
  answer.map fun stripeInvoice => { stripeInvoice with id := invoiceID }

/-- Finalize the invoice (if necessary). -/
def finalizeDraft (answers : StripeAnswers) (invoiceID : String) (stripeInvoice : StripeInvoice) :
    Except StripeError StripeInvoice :=
  if stripeInvoice.status = .draft then ofID invoiceID answers.finalizeInvoice
  else .ok stripeInvoice

/-- `chargeStripeInvoice`; an error is the result of an operation that has not succeeded. -/
def chargeStripeInvoice (answers : StripeAnswers) (invoiceID : String) :
    Except StripeError StripeInvoice := do
  -- Fetch the invoice from stripe (do NOT TRUST the local copy)
  let stripeInvoice ← ofID invoiceID answers.retrieve
  if stripeInvoice.status = .paid then return stripeInvoice
  else
    let stripeInvoice ← finalizeDraft answers invoiceID stripeInvoice
    -- Once finalized, the invoice is in the "open" state!
    if stripeInvoice.status = .«open» ∨ stripeInvoice.status = .uncollectible then
      ofID invoiceID answers.pay
    else return stripeInvoice

/-- The date of an invoice, which may change when a draft is finalized. -/
def createdOn (stripeInvoice : StripeInvoice) : Timestamp :=
  1000 * (if stripeInvoice.finalizedAt ≠ 0 then stripeInvoice.finalizedAt else stripeInvoice.created)

/-- The check of the metadata: the user is mandatory. -/
def checkUserID (stripeInvoice : StripeInvoice) : Except String String :=
  match stripeInvoice.userID with
  | none => .error
      s!"Unexpected situation - invoice is not an e-Mobility invoice - {stripeInvoice.id}"
  | some userID => .ok userID

/-- The invoice as it is stored; without one the caller throws. -/
def getBillingInvoice (invoiceID : String) (invoices : Invoices) : Except String BillingInvoice :=
  match invoices.find invoiceID with
  | none => .error s!"Unexpected situation - failed to synchronize {invoiceID} - the invoice is null"
  | some billingInvoice => .ok billingInvoice

/-- `synchronizeAsBillingInvoice`: the invoice as it is stored afterwards. -/
def synchronizeAsBillingInvoice (answers : StripeAnswers) (stripeInvoice : StripeInvoice) :
    Handler Invoices String BillingInvoice := do
  let userID ← Handler.ofExcept (checkUserID stripeInvoice)
  -- Let's persist the invoice with up-to-date data
  BillingStorage.saveInvoice answers.saveInvoice
    { invoiceID := stripeInvoice.id
      userID := userID
      number := stripeInvoice.number
      status := stripeInvoice.status
      createdOn := createdOn stripeInvoice }
  Handler.read (getBillingInvoice stripeInvoice.id)

/-- An operation that has failed: an invoice that Stripe does not know is an error, which is
kept; of another one fresh data is read. -/
def stripeInvoiceOfFailure (answers : StripeAnswers) (billingInvoice : BillingInvoice)
    (error : StripeError) : Handler Invoices String StripeInvoice :=
  if error.isResourceMissing then do
    BillingStorage.updateInvoiceAdditionalData answers.updateInvoiceAdditionalData
      billingInvoice error.message
    Handler.ofExcept (.error error.message)
  else
    -- Get fresh data only when necessary
    Handler.ofExcept ((ofID billingInvoice.invoiceID answers.getStripeInvoice).mapError
      StripeError.message)

/-- The invoice that the result of the operation leads to. -/
def stripeInvoiceOfResult (answers : StripeAnswers) (billingInvoice : BillingInvoice) :
    Except StripeError StripeInvoice → Handler Invoices String StripeInvoice
  | .ok stripeInvoice => return stripeInvoice
  | .error error => stripeInvoiceOfFailure answers billingInvoice error

/-- `StripeHelpers.updateInvoiceAdditionalData` for the result of the operation. -/
def updateInvoiceAdditionalData (answers : StripeAnswers) (billingInvoice : BillingInvoice) :
    Except StripeError StripeInvoice → Handler Invoices String Unit
  | .ok _ => return ()
  | .error error =>
      BillingStorage.updateInvoiceAdditionalData answers.updateInvoiceAdditionalData billingInvoice
        error.message

/-- `updateTransactionsBillingData`; a transaction that cannot be updated is only logged. -/
def updateTransactionsBillingData (billingInvoice : BillingInvoice) : Except String Unit :=
  match billingInvoice.sessions with
  | none =>
      .error s!"Unexpected situation - Invoice {billingInvoice.invoiceID} has no sessions attached to it"
  | some _ => .ok ()

/-- `StripeBillingIntegration.chargeInvoice`. -/
def chargeInvoice (answers : StripeAnswers) (billingInvoice : BillingInvoice) :
    Handler Invoices String BillingInvoice := do
  Handler.ofExcept answers.checkConnection
  let operationResult := chargeStripeInvoice answers billingInvoice.invoiceID
  let stripeInvoice ← stripeInvoiceOfResult answers billingInvoice operationResult
  -- Let's replicate some information on our side
  let billingInvoice ← synchronizeAsBillingInvoice answers stripeInvoice
  updateInvoiceAdditionalData answers billingInvoice operationResult
  Handler.ofExcept (updateTransactionsBillingData billingInvoice)
  return billingInvoice

end StripeBillingIntegration

/-! ## The operation -/

/-- The dates that `moment` computes in the time zone of the server. -/
structure Calendar where
  startOfDay : Timestamp → Timestamp
  endOfDay : Timestamp → Timestamp
  startOfMonth : Timestamp → Timestamp
  startOfPreviousMonth : Timestamp → Timestamp

/-- What the operation depends on; the invoices are numbered in the order it comes to them. -/
structure PeriodicOperation where
  /-- `settings.billing?.periodicBillingAllowed`. -/
  periodicBillingAllowed : Bool
  /-- Only used when running tests. -/
  forceOperation : Bool := false
  calendar : Calendar
  /-- The time at which the query is prepared. -/
  startedAt : Timestamp
  /-- The time at which an invoice is handled. -/
  now : ℕ → Timestamp
  stripe : ℕ → BillingInvoice → StripeAnswers

/-- The filter of the query for the invoices. -/
structure InvoiceFilter where
  startDateTime : Timestamp
  endDateTime : Timestamp
  invoiceStatus : List BillingInvoiceStatus
  deriving Repr

/-- The filter of `BillingStorage.getInvoices`. -/
def InvoiceFilter.lets (filter : InvoiceFilter) (invoice : BillingInvoice) : Bool :=
  filter.invoiceStatus.contains invoice.status && filter.startDateTime ≤ invoice.createdOn &&
    invoice.createdOn ≤ filter.endDateTime

/-- `Constants.BATCH_PAGE_SIZE`. -/
def Constants.batchPageSize : ℕ := 1000

/-- One turn of the loop over a page: the invoice as the page has it, the result of charging
it, unless it is skipped, and the invoices before and after. -/
structure ChargeStep where
  invoice : BillingInvoice
  before : Invoices
  result : Option (Except String BillingInvoice)
  after : Invoices

/-- Where the operation stands; `steps` records what it has done. -/
structure ChargeRun where
  invoices : Invoices
  skip : ℕ := 0
  inSuccess : ℕ := 0
  inError : ℕ := 0
  steps : List ChargeStep := []

/-- The invoices that have been charged, in order. -/
def ChargeRun.attempted (run : ChargeRun) : List String :=
  (run.steps.filter fun step => step.result.isSome).map fun step => step.invoice.invoiceID

namespace PeriodicOperation

variable (operation : PeriodicOperation)

/-- `isInvoiceOutOfPeriodicOperationScope`. -/
def isInvoiceOutOfPeriodicOperationScope (invoice : BillingInvoice) : Bool :=
  if invoice.status = .draft ∧ operation.periodicBillingAllowed then false
  else if invoice.status = .«open» then false
  else true

/-- The filter of `preparePeriodicBillingQueryParameters`: the invoices of the previous
month. -/
def filter : InvoiceFilter :=
  { startDateTime :=
      if operation.forceOperation then operation.calendar.startOfDay operation.startedAt
      else operation.calendar.startOfPreviousMonth operation.startedAt
    endDateTime :=
      if operation.forceOperation then operation.calendar.endOfDay operation.startedAt
      else operation.calendar.startOfMonth operation.startedAt
    invoiceStatus := if operation.periodicBillingAllowed then [.draft, .«open»] else [.«open»] }

/-- The limit of `preparePeriodicBillingQueryParameters`. -/
def limit : ℕ := if operation.forceOperation then 1 else Constants.batchPageSize

/-- The invoices that the operation is about, the eldest first. -/
def matching (invoices : Invoices) : List BillingInvoice :=
  invoices.query operation.filter.lets BillingInvoice.createdOn

/-- `BillingStorage.getInvoices` with the limit of the operation. -/
def getInvoices (invoices : Invoices) (skip : ℕ) : List BillingInvoice :=
  ((operation.matching invoices).drop skip).take operation.limit

/-- Make sure to avoid trying to charge an invoice again too soon. -/
def isTooNew (turn : ℕ) (invoice : BillingInvoice) : Bool :=
  !operation.forceOperation &&
    operation.calendar.startOfDay invoice.createdOn =
      operation.calendar.startOfDay (operation.now turn)

/-- One turn of the loop over a page. -/
def chargeNext (run : ChargeRun) (invoice : BillingInvoice) : ChargeRun :=
  let turn := run.steps.length
  if operation.isInvoiceOutOfPeriodicOperationScope invoice then
    { run with steps := run.steps ++ [⟨invoice, run.invoices, none, run.invoices⟩] }
  else if operation.isTooNew turn invoice then
    { run with
      inSuccess := run.inSuccess + 1
      steps := run.steps ++ [⟨invoice, run.invoices, none, run.invoices⟩] }
  else
    let (result, invoices) := StripeBillingIntegration.chargeInvoice
      (operation.stripe turn invoice) invoice run.invoices
    let steps := run.steps ++ [⟨invoice, run.invoices, some result, invoices⟩]
    match result with
    | .ok newInvoice =>
        { run with
          invoices := invoices
          -- The new invoice may now have a different status, which impacts the pagination
          skip :=
            if operation.isInvoiceOutOfPeriodicOperationScope newInvoice then run.skip - 1
            else run.skip
          inSuccess := run.inSuccess + 1
          steps := steps }
    | .error _ =>
        { run with invoices := invoices, inError := run.inError + 1, steps := steps }

/-- The loop of `chargeInvoices`; `none` when the fuel has run out. -/
def chargePages : ℕ → ChargeRun → Option ChargeRun
  | 0, _ => none
  | fuel + 1, run =>
      let page := operation.getInvoices run.invoices run.skip
      if page.isEmpty then some run
      else
        chargePages fuel
          (page.foldl operation.chargeNext { run with skip := run.skip + operation.limit })

/-- `BillingIntegration.chargeInvoices`, once the connection has been checked. -/
def chargeInvoices (fuel : ℕ) (invoices : Invoices) : Option ChargeRun :=
  operation.chargePages fuel { invoices := invoices }

end PeriodicOperation

end EvServer
