import EvServer.Billing.ChargeInvoices
import EvServer.Lib.Outcome

/-!
# Every invoice is charged once

While a page is worked through, the invoices that match the filter are those which have
been charged and still match, then the rest of the page, then what lies behind it; and
the number of invoices to skip is to be the number of the first two parts together
(`Stands`).  An invoice that leaves the result is to be counted off, and one that stays is
to keep its place: this is the condition `KeepsPlace` on the outcome of charging it.  The
code breaks it when the invoice changes in the database and an exception follows, and
when an invoice gets a new date by being finalized.
-/

namespace EvServer

open Collection

namespace BillingStorage

theorem changes_saveInvoice (outcome : Except String Unit) (invoiceToSave : BillingInvoice) :
    Handler.Changes (ChangesAt invoiceToSave.invoiceID) (saveInvoice outcome invoiceToSave) := by
  refine Handler.changes_write (ChangesAt.refl _) fun invoices => .inr ⟨_, ?_, rfl⟩
  split <;> rfl

theorem changes_updateInvoiceAdditionalData (outcome : Except String Unit)
    (invoiceToUpdate : BillingInvoice) (lastError : String) :
    Handler.Changes (ChangesAt invoiceToUpdate.invoiceID)
      (updateInvoiceAdditionalData outcome invoiceToUpdate lastError) := by
  refine Handler.changes_write (ChangesAt.refl _) fun invoices => ?_
  split
  · exact .refl _ _
  · rename_i stored found
    have same : stored.invoiceID = invoiceToUpdate.invoiceID := key_of_find found
    refine .inr ⟨_, ?_, rfl⟩
    exact same

end BillingStorage

namespace StripeBillingIntegration

variable {answers : StripeAnswers} {invoices invoices' : Invoices}

theorem id_of_ofID {invoiceID : String} {answer : Except StripeError StripeInvoice}
    {stripeInvoice : StripeInvoice} (h : ofID invoiceID answer = .ok stripeInvoice) :
    stripeInvoice.id = invoiceID := by
  cases answer with
  | error error => cases h
  | ok found =>
      cases h
      rfl

/-- The operation returns the invoice it is about. -/
theorem id_of_chargeStripeInvoice {invoiceID : String} {stripeInvoice : StripeInvoice}
    (h : chargeStripeInvoice answers invoiceID = .ok stripeInvoice) :
    stripeInvoice.id = invoiceID := by
  obtain ⟨retrieved, hretrieved, h⟩ := Outcome.bind_eq_ok.mp h
  have id := id_of_ofID hretrieved
  split at h
  · cases h
    exact id
  · obtain ⟨finalized, hfinalized, h⟩ := Outcome.bind_eq_ok.mp h
    have id' : finalized.id = invoiceID := by
      unfold finalizeDraft at hfinalized
      split at hfinalized
      · exact id_of_ofID hfinalized
      · cases hfinalized
        exact id
    split at h
    · exact id_of_ofID h
    · cases h
      exact id'

/-- The invoice that the rest of the operation works with is the one it is about. -/
theorem id_of_stripeInvoiceOfResult {billingInvoice : BillingInvoice}
    {operationResult : Except StripeError StripeInvoice} {stripeInvoice : StripeInvoice}
    (result : ∀ found, operationResult = .ok found → found.id = billingInvoice.invoiceID)
    (h : stripeInvoiceOfResult answers billingInvoice operationResult invoices =
      (.ok stripeInvoice, invoices')) : stripeInvoice.id = billingInvoice.invoiceID := by
  cases operationResult with
  | ok found =>
      cases h
      exact result stripeInvoice rfl
  | error error =>
      change stripeInvoiceOfFailure answers billingInvoice error invoices = _ at h
      unfold stripeInvoiceOfFailure at h
      by_cases missing : error.isResourceMissing
      · rw [if_pos missing] at h
        obtain ⟨_, _, -, h⟩ := Handler.bind_apply_eq_ok.mp h
        cases h
      · rw [if_neg missing] at h
        obtain ⟨h, -⟩ := Handler.ofExcept_eq_ok.mp h
        cases hfresh : ofID billingInvoice.invoiceID answers.getStripeInvoice with
        | error error =>
            rw [hfresh] at h
            cases h
        | ok fresh =>
            rw [hfresh] at h
            cases h
            exact id_of_ofID hfresh

theorem changes_stripeInvoiceOfResult (billingInvoice : BillingInvoice)
    (operationResult : Except StripeError StripeInvoice) :
    Handler.Changes (ChangesAt billingInvoice.invoiceID)
      (stripeInvoiceOfResult answers billingInvoice operationResult) := by
  have refl : ∀ invoices : Invoices, ChangesAt billingInvoice.invoiceID invoices invoices :=
    ChangesAt.refl _
  cases operationResult with
  | ok found => exact Handler.changes_pure refl found
  | error error =>
      change Handler.Changes _ (stripeInvoiceOfFailure answers billingInvoice error)
      unfold stripeInvoiceOfFailure
      by_cases missing : error.isResourceMissing
      · rw [if_pos missing]
        exact (BillingStorage.changes_updateInvoiceAdditionalData _ _ _).bind .trans
          fun _ _ _ _ => Handler.changes_ofExcept refl _
      · rw [if_neg missing]
        exact Handler.changes_ofExcept refl _

/-- The invoice that `synchronizeAsBillingInvoice` returns is the one stored. -/
theorem find_of_synchronizeAsBillingInvoice {stripeInvoice : StripeInvoice}
    {billingInvoice : BillingInvoice}
    (h : synchronizeAsBillingInvoice answers stripeInvoice invoices =
      (.ok billingInvoice, invoices')) : invoices'.find stripeInvoice.id = some billingInvoice := by
  obtain ⟨_, _, -, h⟩ := Handler.bind_apply_eq_ok.mp h
  obtain ⟨_, saved, -, h⟩ := Handler.bind_apply_eq_ok.mp h
  obtain ⟨hread, rfl⟩ := Handler.read_eq_ok.mp h
  unfold getBillingInvoice at hread
  split at hread
  · cases hread
  · rename_i found
    cases hread
    exact found

theorem changes_synchronizeAsBillingInvoice (stripeInvoice : StripeInvoice) :
    Handler.Changes (ChangesAt stripeInvoice.id)
      (synchronizeAsBillingInvoice answers stripeInvoice) := by
  have refl : ∀ invoices : Invoices, ChangesAt stripeInvoice.id invoices invoices :=
    ChangesAt.refl _
  refine (Handler.changes_ofExcept refl _).bind .trans fun _ _ _ _ => ?_
  exact (BillingStorage.changes_saveInvoice _ _).bind .trans
    fun _ _ _ _ => Handler.changes_read refl _

theorem changes_updateInvoiceAdditionalData (billingInvoice : BillingInvoice)
    (operationResult : Except StripeError StripeInvoice) :
    Handler.Changes (ChangesAt billingInvoice.invoiceID)
      (updateInvoiceAdditionalData answers billingInvoice operationResult) := by
  cases operationResult with
  | ok _ => exact Handler.changes_pure (.refl _) ()
  | error error => exact BillingStorage.changes_updateInvoiceAdditionalData _ _ _

/-- Charging an invoice changes no other one. -/
theorem changes_chargeInvoice (answers : StripeAnswers) (billingInvoice : BillingInvoice) :
    Handler.Changes (ChangesAt billingInvoice.invoiceID)
      (chargeInvoice answers billingInvoice) := by
  have refl : ∀ invoices : Invoices, ChangesAt billingInvoice.invoiceID invoices invoices :=
    ChangesAt.refl _
  refine (Handler.changes_ofExcept refl _).bind .trans fun _ _ _ _ => ?_
  refine (changes_stripeInvoiceOfResult _ _).bind .trans fun stripeInvoice _ _ charged => ?_
  have id := id_of_stripeInvoiceOfResult (fun _ => id_of_chargeStripeInvoice) charged
  rw [← id]
  refine (changes_synchronizeAsBillingInvoice _).bind .trans fun fresh _ _ synchronized => ?_
  have id' := key_of_find (find_of_synchronizeAsBillingInvoice synchronized)
  rw [← id']
  refine (changes_updateInvoiceAdditionalData _ _).bind .trans fun _ _ _ _ => ?_
  exact (Handler.changes_ofExcept (ChangesAt.refl _) _).bind .trans fun _ _ _ _ =>
    Handler.changes_pure (ChangesAt.refl _) _

/-- The error of the operation leaves the status of the stored invoice alone. -/
theorem status_of_updateInvoiceAdditionalData (answers : StripeAnswers)
    {billingInvoice : BillingInvoice} (operationResult : Except StripeError StripeInvoice)
    (found : invoices.find billingInvoice.invoiceID = some billingInvoice) :
    ∃ stored, (updateInvoiceAdditionalData answers billingInvoice operationResult invoices).2.find
      billingInvoice.invoiceID = some stored ∧ stored.status = billingInvoice.status := by
  cases operationResult with
  | ok _ => exact ⟨billingInvoice, found, rfl⟩
  | error error =>
      unfold updateInvoiceAdditionalData BillingStorage.updateInvoiceAdditionalData Handler.write
      split
      · dsimp only
        rw [found]
        exact ⟨_, find_save_self, rfl⟩
      · exact ⟨billingInvoice, found, rfl⟩

/-- An invoice that is returned has the status that is stored. -/
theorem status_of_chargeInvoice {billingInvoice newInvoice : BillingInvoice}
    (h : chargeInvoice answers billingInvoice invoices = (.ok newInvoice, invoices')) :
    ∃ stored, invoices'.find billingInvoice.invoiceID = some stored ∧
      stored.status = newInvoice.status := by
  obtain ⟨_, checked, -, h⟩ := Handler.bind_apply_eq_ok.mp h
  obtain ⟨stripeInvoice, charged, hcharged, h⟩ := Handler.bind_apply_eq_ok.mp h
  obtain ⟨fresh, synchronized, hsynchronized, h⟩ := Handler.bind_apply_eq_ok.mp h
  obtain ⟨_, updated, hupdated, h⟩ := Handler.bind_apply_eq_ok.mp h
  obtain ⟨_, told, htold, h⟩ := Handler.bind_apply_eq_ok.mp h
  obtain ⟨-, rfl⟩ := Handler.ofExcept_eq_ok.mp htold
  cases h
  have id := id_of_stripeInvoiceOfResult (fun _ => id_of_chargeStripeInvoice) hcharged
  have found := find_of_synchronizeAsBillingInvoice hsynchronized
  have id' := key_of_find found
  rw [← id, ← id']
  have stored := status_of_updateInvoiceAdditionalData answers
    (chargeStripeInvoice answers billingInvoice.invoiceID) (id' ▸ found)
  rwa [hupdated] at stored

end StripeBillingIntegration

/-- The invoice is returned with a status that puts it out of the scope of the operation. -/
def ChargeStep.leavesScope (operation : PeriodicOperation) (step : ChargeStep) : Bool :=
  match step.result with
  | some (.ok newInvoice) => operation.isInvoiceOutOfPeriodicOperationScope newInvoice
  | _ => false

/-- **The condition** on charging an invoice.  The invoice is charged, not passed over as too
new; and it is returned out of the scope of the operation, or what is stored of it still
matches the filter, with the date that it had. -/
def ChargeStep.KeepsPlace (operation : PeriodicOperation) (step : ChargeStep) : Prop :=
  step.result.isSome ∧
    (step.leavesScope operation ∨
      (step.after.find step.invoice.invoiceID).any fun stored =>
        operation.filter.lets stored && stored.createdOn = step.invoice.createdOn)

instance (operation : PeriodicOperation) : DecidablePred (ChargeStep.KeepsPlace operation) :=
  fun step => inferInstanceAs (Decidable (step.result.isSome ∧ (_ ∨ _)))

namespace PeriodicOperation

variable {operation : PeriodicOperation} {run run' : ChargeRun} {invoice : BillingInvoice}

/-! ## One invoice -/

/-- The filter lets an invoice through only when it is in the scope of the operation. -/
theorem inScope_of_lets (lets : operation.filter.lets invoice) :
    operation.isInvoiceOutOfPeriodicOperationScope invoice = false := by
  have matched : invoice.status ∈ operation.filter.invoiceStatus := by
    unfold InvoiceFilter.lets at lets
    simp only [Bool.and_eq_true, List.contains_eq_mem, decide_eq_true_eq] at lets
    exact lets.1.1
  unfold isInvoiceOutOfPeriodicOperationScope
  unfold filter at matched
  by_cases allowed : operation.periodicBillingAllowed
  · rw [if_pos allowed] at matched
    rcases List.mem_cons.mp matched with draft | rest
    · rw [if_pos ⟨draft, allowed⟩]
    · rw [List.mem_singleton.mp rest]
      rfl
  · rw [if_neg allowed] at matched
    rw [List.mem_singleton.mp matched]
    rfl

/-- What the step of an invoice that is charged says, and what the run is afterwards. -/
theorem chargeNext_spec (run : ChargeRun) (lets : operation.filter.lets invoice) :
    ∃ step : ChargeStep, step.invoice = invoice ∧ step.before = run.invoices ∧
      (operation.chargeNext run invoice).steps = run.steps ++ [step] ∧
      (operation.chargeNext run invoice).invoices = step.after ∧
      ChangesAt invoice.invoiceID step.before step.after ∧
      ((∃ newInvoice stored, operation.isInvoiceOutOfPeriodicOperationScope newInvoice ∧
          step.after.find invoice.invoiceID = some stored ∧ stored.status = newInvoice.status ∧
          (operation.chargeNext run invoice).skip = run.skip - 1) ∨
        ¬ step.leavesScope operation ∧
          (operation.chargeNext run invoice).skip = run.skip) := by
  unfold chargeNext
  rw [if_neg (by simp [inScope_of_lets lets])]
  by_cases new : operation.isTooNew run.steps.length invoice
  · rw [if_pos new]
    exact ⟨_, rfl, rfl, rfl, rfl, .refl _ _, .inr ⟨Bool.false_ne_true, rfl⟩⟩
  · rw [if_neg new]
    have changes := StripeBillingIntegration.changes_chargeInvoice
      (operation.stripe run.steps.length invoice) invoice run.invoices
    rcases charged : StripeBillingIntegration.chargeInvoice
      (operation.stripe run.steps.length invoice) invoice run.invoices with
      ⟨error | newInvoice, invoices⟩ <;> rw [charged] at changes
    · exact ⟨⟨invoice, run.invoices, some (.error error), invoices⟩, rfl, rfl, rfl, rfl, changes,
        .inr ⟨Bool.false_ne_true, rfl⟩⟩
    · refine ⟨⟨invoice, run.invoices, some (.ok newInvoice), invoices⟩, rfl, rfl, rfl, rfl,
        changes, ?_⟩
      by_cases out : operation.isInvoiceOutOfPeriodicOperationScope newInvoice
      · obtain ⟨stored, found, status⟩ := StripeBillingIntegration.status_of_chargeInvoice charged
        exact .inl ⟨newInvoice, stored, out, found, status, if_pos out⟩
      · exact .inr ⟨out, if_neg out⟩

/-- What is stored with a status that puts it out of scope does not match. -/
theorem not_lets_of_out {newInvoice stored : BillingInvoice}
    (out : operation.isInvoiceOutOfPeriodicOperationScope newInvoice)
    (status : stored.status = newInvoice.status) : ¬ operation.filter.lets stored := by
  intro lets
  have inScope := inScope_of_lets lets
  unfold isInvoiceOutOfPeriodicOperationScope at inScope out
  rw [status, out] at inScope
  cases inScope

/-- **One invoice.**  It leaves the result and is counted off; or it is not counted off, and if
it keeps its place the others keep theirs. -/
theorem matching_chargeNext {before behind : List BillingInvoice}
    (result : operation.matching run.invoices = before ++ invoice :: behind) :
    ∃ step : ChargeStep, (operation.chargeNext run invoice).steps = run.steps ++ [step] ∧
      step.invoice = invoice ∧
      ChangesAt invoice.invoiceID run.invoices (operation.chargeNext run invoice).invoices ∧
      ((operation.matching (operation.chargeNext run invoice).invoices = before ++ behind ∧
          (operation.chargeNext run invoice).skip = run.skip - 1) ∨
        (operation.chargeNext run invoice).skip = run.skip ∧
          (operation.matching (operation.chargeNext run invoice).invoices).length ≤
            (operation.matching run.invoices).length ∧
          (step.KeepsPlace operation → ∃ stored,
            operation.matching (operation.chargeNext run invoice).invoices =
              before ++ stored :: behind)) := by
  obtain ⟨present, lets⟩ := mem_of_query result
  have found : run.invoices.find invoice.invoiceID = some invoice := find_of_mem present
  obtain ⟨step, sameInvoice, hbefore, steps, after, changes, effect⟩ :=
    chargeNext_spec run lets
  rw [hbefore, ← after] at changes
  refine ⟨step, steps, sameInvoice, changes, ?_⟩
  rcases effect with ⟨newInvoice, stored, out, hstored, status, skip⟩ | ⟨notOut, skip⟩
  · refine .inl ⟨?_, skip⟩
    have leaves := not_lets_of_out out status
    rw [← after] at hstored
    rcases changes with same | ⟨doc, key, saved⟩
    · rw [same, found] at hstored
      cases hstored
      exact absurd lets leaves
    · rw [saved] at hstored ⊢
      rw [← key, find_save_self] at hstored
      cases hstored
      exact query_save_leaving result key leaves
  · refine .inr ⟨skip, ?_, ?_⟩
    · rcases changes with same | ⟨doc, key, saved⟩
      · rw [same]
      · rw [saved]
        exact length_query_save_le (key.symm ▸ found) lets
    · rintro ⟨-, kept⟩
      rcases kept with out | kept
      · exact absurd out notOut
      · obtain ⟨stored, hstored, kept⟩ := (Option.any_eq_true _ _).mp kept
        rw [Bool.and_eq_true, decide_eq_true_eq] at kept
        obtain ⟨passes, date⟩ := kept
        rw [sameInvoice] at hstored date
        rw [← after] at hstored
        rcases changes with same | ⟨doc, key, saved⟩
        · exact ⟨invoice, by rw [same, result]⟩
        · rw [saved] at hstored ⊢
          rw [← key, find_save_self] at hstored
          cases hstored
          exact ⟨stored, query_save_staying result key passes date⟩

/-! ## One page -/

/-- A page is worked through: the invoices that match get fewer by at least as many as are
counted off. -/
theorem length_matching_foldl {run : ChargeRun} {page : List BillingInvoice}
    (stored : ∀ d ∈ page, d ∈ operation.matching run.invoices)
    (nodup : (page.map BillingInvoice.invoiceID).Nodup) (enough : page.length ≤ run.skip) :
    (operation.matching (page.foldl operation.chargeNext run).invoices).length + run.skip ≤
      (operation.matching run.invoices).length + (page.foldl operation.chargeNext run).skip := by
  induction page generalizing run with
  | nil => exact le_rfl
  | cons invoice rest ih =>
      obtain ⟨before, behind, result⟩ := List.append_of_mem (stored invoice List.mem_cons_self)
      obtain ⟨step, -, -, changes, effect⟩ := matching_chargeNext result
      rw [List.map_cons, List.nodup_cons] at nodup
      rw [List.length_cons] at enough
      have stored' : ∀ d ∈ rest,
          d ∈ operation.matching (operation.chargeNext run invoice).invoices := by
        intro d mem
        obtain ⟨present, lets⟩ := mem_query.mp (stored d (List.mem_cons_of_mem _ mem))
        have other : d.invoiceID ≠ invoice.invoiceID := fun same =>
          nodup.1 (same ▸ List.mem_map_of_mem mem)
        refine mem_query.mpr ⟨mem_of_find (k := d.invoiceID) ?_, lets⟩
        rw [changes.find_of_ne other]
        exact find_of_mem present
      rw [List.foldl_cons]
      rcases effect with ⟨left, skip⟩ | ⟨skip, shorter, -⟩
      · have rest := ih stored' nodup.2 (by omega)
        rw [left] at rest
        rw [result]
        simp only [List.length_append, List.length_cons] at rest ⊢
        omega
      · have rest := ih stored' nodup.2 (by omega)
        omega

/-- What has been done stays recorded. -/
theorem steps_chargeNext (run : ChargeRun) (invoice : BillingInvoice) :
    run.steps <+: (operation.chargeNext run invoice).steps := by
  unfold chargeNext
  split
  · exact List.prefix_append _ _
  · dsimp only
    split
    · exact List.prefix_append _ _
    · split <;> exact List.prefix_append _ _

theorem steps_foldl (page : List BillingInvoice) (run : ChargeRun) :
    run.steps <+: (page.foldl operation.chargeNext run).steps := by
  induction page generalizing run with
  | nil => exact List.prefix_rfl
  | cons invoice rest ih => exact (steps_chargeNext run invoice).trans (ih _)

theorem steps_chargePages {fuel : ℕ} (done : operation.chargePages fuel run = some run') :
    run.steps <+: run'.steps := by
  induction fuel generalizing run with
  | zero => cases done
  | succ fuel ih =>
      rw [chargePages] at done
      split at done
      · cases done
        exact List.prefix_rfl
      · exact (steps_foldl _ { run with skip := run.skip + operation.limit }).trans (ih done)

/-- An invoice that is charged is recorded as attempted. -/
theorem attempted_append {step : ChargeStep} (steps : run'.steps = run.steps ++ [step])
    (charged : step.result.isSome) :
    run'.attempted = run.attempted ++ [step.invoice.invoiceID] := by
  have counts : [step].filter (fun step => step.result.isSome) = [step] := by simp [charged]
  unfold ChargeRun.attempted
  rw [steps, List.filter_append, List.map_append, counts]
  rfl

/-- A page is worked through by steps that keep the places: what has been charged and
still matches is in front of what lies behind the page, and the invoices to skip are as
many, or nothing lies behind. -/
theorem stands_foldl {page before behind : List BillingInvoice}
    (result : operation.matching run.invoices = before ++ (page ++ behind))
    (stands : before.length + page.length = run.skip ∨
      behind = [] ∧ before.length + page.length ≤ run.skip)
    (kept : ∀ step ∈ (page.foldl operation.chargeNext run).steps, step.KeepsPlace operation) :
    (page.foldl operation.chargeNext run).attempted =
        run.attempted ++ page.map BillingInvoice.invoiceID ∧
      ∃ before', operation.matching (page.foldl operation.chargeNext run).invoices =
          before' ++ behind ∧
        (before'.length = (page.foldl operation.chargeNext run).skip ∨
          behind = [] ∧ before'.length ≤ (page.foldl operation.chargeNext run).skip) := by
  induction page generalizing run before with
  | nil => exact ⟨(List.append_nil _).symm, before, result, stands⟩
  | cons invoice rest ih =>
      rw [List.cons_append] at result
      obtain ⟨step, steps, sameInvoice, -, effect⟩ := matching_chargeNext result
      have keeps : step.KeepsPlace operation := by
        refine kept step ((steps_foldl rest _).subset ?_)
        rw [steps]
        exact List.mem_append_right _ List.mem_cons_self
      have attempted := attempted_append steps keeps.1
      rw [sameInvoice] at attempted
      rw [List.length_cons] at stands
      rw [List.foldl_cons] at kept ⊢
      -- Either way the rest of the page stands as the page did.
      have rest : ∃ before', operation.matching (operation.chargeNext run invoice).invoices =
            before' ++ (rest ++ behind) ∧
          (before'.length + rest.length = (operation.chargeNext run invoice).skip ∨
            behind = [] ∧
              before'.length + rest.length ≤ (operation.chargeNext run invoice).skip) := by
        rcases effect with ⟨left, skip⟩ | ⟨skip, -, stays⟩
        · refine ⟨before, left, ?_⟩
          rw [skip]
          exact stands.imp (by omega) (And.imp_right (by omega))
        · obtain ⟨stored, stays⟩ := stays keeps
          refine ⟨before ++ [stored], by rw [stays, List.append_assoc]; rfl, ?_⟩
          rw [skip, List.length_append, List.length_singleton]
          exact stands.imp (by omega) (And.imp_right (by omega))
      obtain ⟨before', result', stands'⟩ := rest
      obtain ⟨all, standing⟩ := ih result' stands' kept
      refine ⟨?_, standing⟩
      rw [all, attempted, List.append_assoc]
      rfl

/-! ## The operation -/

theorem limit_pos (operation : PeriodicOperation) : 0 < operation.limit := by
  unfold limit
  split <;> decide

/-- The pages are of the invoices that match. -/
theorem page_subset {invoices : Invoices} {skip : ℕ} {d : BillingInvoice}
    (mem : d ∈ operation.getInvoices invoices skip) : d ∈ operation.matching invoices :=
  List.mem_of_mem_drop (List.mem_of_mem_take mem)

/-- **Termination.**  Each turn of the loop brings the end of the result closer. -/
theorem isSome_chargePages {fuel : ℕ}
    (enough : (operation.matching run.invoices).length < fuel + run.skip) (started : 0 < fuel) :
    (operation.chargePages fuel run).isSome := by
  induction fuel generalizing run with
  | zero => exact absurd started (lt_irrefl 0)
  | succ fuel ih =>
      rw [chargePages]
      split
      · rfl
      · rename_i full
        have page_length : (operation.getInvoices run.invoices run.skip).length ≤
            run.skip + operation.limit := by
          rw [getInvoices, List.length_take]
          omega
        have nodup : ((operation.getInvoices run.invoices run.skip).map
            BillingInvoice.invoiceID).Nodup :=
          (nodup_query _ _ _).sublist
            (((List.take_sublist _ _).trans (List.drop_sublist _ _)).map _)
        let start : ChargeRun := { run with skip := run.skip + operation.limit }
        have stored : ∀ d ∈ operation.getInvoices run.invoices run.skip,
            d ∈ operation.matching start.invoices := fun _ => page_subset
        have shorter := length_matching_foldl stored nodup page_length
        have limit := operation.limit_pos
        have behind : run.skip < (operation.matching run.invoices).length := by
          by_contra past
          refine full (List.isEmpty_iff.mpr ?_)
          rw [getInvoices, List.drop_eq_nil_of_le (not_lt.mp past), List.take_nil]
        refine ih ?_ ?_
        · change _ + (run.skip + operation.limit) ≤
            (operation.matching run.invoices).length + _ at shorter
          change (operation.matching (List.foldl operation.chargeNext start _).invoices).length <
            fuel + (List.foldl operation.chargeNext start _).skip
          omega
        · omega

/-- **The run.**  If all steps keep the places, the invoices that lie behind those to skip are
charged, in their order. -/
theorem attempted_chargePages {fuel : ℕ} {before behind : List BillingInvoice}
    (result : operation.matching run.invoices = before ++ behind)
    (stands : before.length = run.skip ∨ behind = [] ∧ before.length ≤ run.skip)
    (done : operation.chargePages fuel run = some run')
    (kept : ∀ step ∈ run'.steps, step.KeepsPlace operation) :
    run'.attempted = run.attempted ++ behind.map BillingInvoice.invoiceID := by
  induction fuel generalizing run before behind with
  | zero => cases done
  | succ fuel ih =>
      have page : operation.getInvoices run.invoices run.skip = behind.take operation.limit := by
        rw [getInvoices, result]
        rcases stands with skipped | ⟨rfl, past⟩
        · rw [← skipped, List.drop_left]
        · rw [List.append_nil, List.drop_eq_nil_of_le past, List.take_nil]
      rw [chargePages] at done
      rw [page] at done
      split at done
      · rename_i empty
        cases done
        have nothing : behind = [] := by
          have limit := operation.limit_pos
          rw [List.isEmpty_iff, List.take_eq_nil_iff] at empty
          exact empty.resolve_left (by omega)
        rw [nothing, List.map_nil, List.append_nil]
      · have split := List.take_append_drop operation.limit behind
        have kept' : ∀ step ∈ ((behind.take operation.limit).foldl operation.chargeNext
            { run with skip := run.skip + operation.limit }).steps,
            step.KeepsPlace operation := fun step mem =>
          kept step ((steps_chargePages done).subset mem)
        have stands' : before.length + (behind.take operation.limit).length =
              run.skip + operation.limit ∨
            behind.drop operation.limit = [] ∧
              before.length + (behind.take operation.limit).length ≤
                run.skip + operation.limit := by
          rw [List.length_take, List.drop_eq_nil_iff]
          rcases stands with skipped | ⟨rfl, past⟩
          · omega
          · rw [List.length_nil]
            omega
        obtain ⟨attempted, before', result', standing⟩ :=
          stands_foldl (by rw [split]; exact result) stands' kept'
        rw [ih result' standing done, attempted, List.append_assoc, ← List.map_append, split]
        rfl

/-- The dates of 18 November 2022, in UTC. -/
def exampleCalendar : Calendar :=
  { startOfDay := fun date => date - date % 86400000
    endOfDay := fun date => date - date % 86400000 + 86399999
    startOfMonth := fun _ => 1667260800000
    startOfPreviousMonth := fun _ => 1664582400000 }

/-- A draft of that day. -/
def exampleDraft (invoiceID : String) (createdOn : Timestamp) : BillingInvoice :=
  { invoiceID := invoiceID
    userID := "user"
    status := .draft
    createdOn := createdOn
    sessions := some [7] }

/-- What Stripe has of the draft once it is finalized, an hour later. -/
def exampleFinalized (invoice : BillingInvoice) (status : BillingInvoiceStatus) : StripeInvoice :=
  { id := invoice.invoiceID
    status := status
    created := invoice.createdOn / 1000
    finalizedAt := 1668776400
    userID := some invoice.userID }

/-- The drafts in the collection. -/
def exampleInvoices : Invoices :=
  ⟨[exampleDraft "in_1" 1668772800000, exampleDraft "in_2" 1668772801000], by decide⟩

/-- An operation on that day, by what becomes of the payments. -/
def exampleOperation (pay : BillingInvoice → Except StripeError StripeInvoice) :
    PeriodicOperation :=
  { periodicBillingAllowed := true
    forceOperation := true
    calendar := exampleCalendar
    startedAt := 1668776400000
    now := fun _ => 1668776400000
    stripe := fun _ invoice =>
      { retrieve := .ok
          { id := invoice.invoiceID
            status := invoice.status
            created := invoice.createdOn / 1000
            userID := some invoice.userID }
        finalizeInvoice := .ok (exampleFinalized invoice .«open»)
        pay := pay invoice
        getStripeInvoice := .ok (exampleFinalized invoice .«open») } }

end PeriodicOperation

end EvServer
