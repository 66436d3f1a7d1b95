import EvServer.Roaming.CdrAttempts

/-!
# Attempts to send a CDR over OCPI

A refusal is thrown, and the transaction is left without CDR.  A CDR without consumption is
ignored: it is stored and never posted.
-/

namespace EvServer

namespace RoamingTransaction

/-- The transaction has been stopped, and its session is one over OCPI only. -/
structure IsOcpi (transaction : RoamingTransaction) : Prop where
  stopped : transaction.stop.isSome
  session : transaction.ocpiSession.isSome
  noOicp : transaction.oicpData = none

variable {transaction : RoamingTransaction}

theorem IsOcpi.withOcpiCdr (ocpi : transaction.IsOcpi) (cdr : OCPICdr) :
    (transaction.withOcpiCdr cdr).IsOcpi :=
  ⟨ocpi.stopped, ocpi.session, ocpi.noOicp⟩

theorem IsOcpi.oicpSession (ocpi : transaction.IsOcpi) : transaction.oicpSession = none := by
  rw [RoamingTransaction.oicpSession, ocpi.noOicp]
  rfl

theorem IsOcpi.ocpiData_isSome (ocpi : transaction.IsOcpi) : transaction.ocpiData.isSome := by
  obtain ⟨session, hsession⟩ := Option.isSome_iff_exists.mp ocpi.session
  obtain ⟨ocpiData, hdata, -⟩ := Option.bind_eq_some_iff.mp hsession
  exact Option.isSome_of_eq_some hdata

theorem hasOcpiCdrID_of_none (unsent : transaction.ocpiCdr = none) :
    transaction.hasOcpiCdrID = false := by
  rw [hasOcpiCdrID, unsent]
  rfl

/-- The CDR over OCPI that the transaction carries has an ID. -/
def IsOcpiCdrIdentified (transaction : RoamingTransaction) : Prop :=
  ∀ cdr ∈ transaction.ocpiCdr, cdr.id ≠ ""

theorem IsOcpiCdrIdentified.ocpiCdr_eq_none (identified : transaction.IsOcpiCdrIdentified)
    (unsent : transaction.hasOcpiCdrID = false) : transaction.ocpiCdr = none := by
  rw [Option.eq_none_iff_forall_not_mem]
  intro cdr carried
  refine identified cdr carried ?_
  rw [hasOcpiCdrID, Option.mem_def.mp carried] at unsent
  simpa using unsent

end RoamingTransaction

/-- The store after a post over OCPI. -/
def CdrStore.postedOcpi (s : CdrStore) (cdr : OCPICdr) (accepted : Bool) : CdrStore :=
  { s with ocpiPosts := s.ocpiPosts ++ [⟨cdr, accepted⟩] }

/-! ## The end of a session over OCPI -/

section Ocpi

variable {context : RoamingContext} {transaction : RoamingTransaction} {s s' : CdrStore}

/-- What the end of a session over OCPI comes to. -/
inductive OcpiEnd (context : RoamingContext) (transaction : RoamingTransaction) (s : CdrStore) :
    Except String RoamingTransaction × CdrStore → Prop
  | fails (e : String) : OcpiEnd context transaction s (.error e, s)
  | skips : OcpiEnd context transaction s (.ok transaction, s)
  | ignored (cdr : OCPICdr) : cdr.id ≠ "" → cdr.hasConsumption = false →
      OcpiEnd context transaction s (.ok (transaction.withOcpiCdr cdr), s)
  | accepted (cdr : OCPICdr) : cdr.id ≠ "" → cdr.hasConsumption = true →
      OcpiEnd context transaction s (.ok (transaction.withOcpiCdr cdr), s.postedOcpi cdr true)
  | refused (cdr : OCPICdr) (e : String) : cdr.hasConsumption = true →
      context.postOCPI cdr = .error e →
      OcpiEnd context transaction s (.error e, s.postedOcpi cdr false)

theorem CpoOCPIClient.ocpiEnd_post {cdr : OCPICdr} (id_ne : cdr.id ≠ "")
    (consumption : cdr.hasConsumption = true) :
    OcpiEnd context transaction s ((post context cdr >>= fun _ =>
      return transaction.withOcpiCdr cdr : CdrHandler RoamingTransaction) s) := by
  have posted : post context cdr s =
      (context.postOCPI cdr, s.postedOcpi cdr (context.postOCPI cdr).isOk) := rfl
  rcases answer : context.postOCPI cdr with e | _ <;> rw [answer] at posted
  · rw [Handler.bind_apply_error posted]
    exact .refused cdr e consumption answer
  · rw [Handler.bind_apply_ok posted]
    exact .accepted cdr id_ne consumption

theorem CpoOCPIClient.ocpiEnd_postCdr (unsent : transaction.ocpiCdr = none) :
    OcpiEnd context transaction s (postCdr context transaction s) := by
  rw [postCdr]
  rcases transaction.stop with _ | stop
  · exact .fails _
  rcases transaction.ocpiSession with _ | session
  · exact .fails _
  simp only [RoamingTransaction.hasOcpiCdrID_of_none unsent, Bool.false_eq_true, if_false]
  rcases context.ocpiEndpointUrl with e | _
  · exact .fails e
  rcases context.buildChargingPeriods transaction with e | chargingPeriods
  · exact .fails e
  rw [Handler.ofExcept_ok_bind, Handler.ofExcept_ok_bind]
  split
  · rename_i consumption
    exact ocpiEnd_post session.id_ne consumption
  · rename_i consumption
    exact .ignored _ session.id_ne (eq_false_of_ne_true consumption)

theorem OCPPUtils.ocpiEnd_processTransactionRoamingEnd (unsent : transaction.ocpiCdr = none)
    (inactive : context.oicpActive = false) :
    OcpiEnd context transaction s (processTransactionRoamingEnd context transaction s) := by
  have skipped (x : CdrHandler RoamingTransaction) :
      (x >>= fun transaction => processWhen false (processOICPTransaction context) transaction) =
        x :=
    bind_pure x
  rw [processTransactionRoamingEnd]
  split
  · rw [inactive, skipped, processWhen]
    split
    · rw [processOCPITransaction]
      split
      · exact CpoOCPIClient.ocpiEnd_postCdr unsent
      · exact .fails _
    · exact .skips
  · exact .skips

/-- What an attempt does to the CDR over OCPI, and to what has been posted. -/
inductive OcpiChange (s s' : CdrStore) : Prop
  | keeps : s'.transaction.ocpiCdr = s.transaction.ocpiCdr → s'.ocpiPosts = s.ocpiPosts →
      OcpiChange s s'
  | ignores (cdr : OCPICdr) : s.transaction.ocpiCdr = none → cdr.id ≠ "" →
      cdr.hasConsumption = false → s'.transaction.ocpiCdr = some cdr →
      s'.ocpiPosts = s.ocpiPosts → OcpiChange s s'
  | accepts (cdr : OCPICdr) : s.transaction.ocpiCdr = none → cdr.id ≠ "" →
      cdr.hasConsumption = true → s'.transaction.ocpiCdr = some cdr →
      s'.ocpiPosts = s.ocpiPosts ++ [⟨cdr, true⟩] → OcpiChange s s'
  | refuses (cdr : OCPICdr) : s.transaction.ocpiCdr = none → cdr.hasConsumption = true →
      s'.transaction.ocpiCdr = none → s'.ocpiPosts = s.ocpiPosts ++ [⟨cdr, false⟩] →
      OcpiChange s s'

/-- A sender saves what the end of the session has left of the transaction. -/
structure SavesOcpi (save : RoamingTransaction → CdrHandler Unit) : Prop where
  posts : ∀ transaction : RoamingTransaction, transaction.IsOcpi → ∀ s,
    (save transaction s).2.ocpiPosts = s.ocpiPosts
  cdr : ∀ transaction : RoamingTransaction, transaction.IsOcpi → ∀ s,
    (save transaction s).2.transaction.ocpiCdr = transaction.ocpiCdr
  isOcpi : ∀ transaction : RoamingTransaction, transaction.IsOcpi → ∀ s : CdrStore,
    s.transaction.IsOcpi → (save transaction s).2.transaction.IsOcpi

/-- The store is one of a session over OCPI still, and the CDR has come to it as said. -/
structure AttemptsOcpi (s s' : CdrStore) : Prop where
  isOcpi : s'.transaction.IsOcpi
  change : OcpiChange s s'

theorem AttemptsOcpi.refl (ocpi : s.transaction.IsOcpi) : AttemptsOcpi s s :=
  ⟨ocpi, .keeps rfl rfl⟩

/-- **The end of a session, and what the sender saves of it.** -/
theorem OcpiEnd.attempts {x : CdrHandler RoamingTransaction}
    {save : RoamingTransaction → CdrHandler Unit} (effect : OcpiEnd context transaction s (x s))
    (saves : SavesOcpi save) (ocpi : transaction.IsOcpi) (unsent : transaction.ocpiCdr = none)
    (stored : s.transaction.IsOcpi) (unsentStored : s.transaction.ocpiCdr = none) :
    AttemptsOcpi s ((x >>= save) s).2 := by
  generalize result : x s = r at effect
  cases effect with
  | fails e =>
      rw [Handler.bind_apply_error result]
      exact .refl stored
  | skips =>
      rw [Handler.bind_apply_ok result]
      refine ⟨saves.isOcpi _ ocpi s stored, .keeps ?_ (saves.posts _ ocpi s)⟩
      rw [saves.cdr _ ocpi, unsent, unsentStored]
  | ignored cdr id_ne consumption =>
      rw [Handler.bind_apply_ok result]
      have ocpi' := ocpi.withOcpiCdr cdr
      exact ⟨saves.isOcpi _ ocpi' s stored,
        .ignores cdr unsentStored id_ne consumption (saves.cdr _ ocpi' s) (saves.posts _ ocpi' s)⟩
  | accepted cdr id_ne consumption =>
      rw [Handler.bind_apply_ok result]
      have ocpi' := ocpi.withOcpiCdr cdr
      exact ⟨saves.isOcpi _ ocpi' _ stored,
        .accepts cdr unsentStored id_ne consumption (saves.cdr _ ocpi' _) (saves.posts _ ocpi' _)⟩
  | refused cdr e consumption _ =>
      rw [Handler.bind_apply_error result]
      exact ⟨stored, .refuses cdr unsentStored consumption unsentStored rfl⟩

/-! ## The senders -/

theorem OCPPService.checkAndSendOICPTransactionCdr_of_isOcpi (ocpi : transaction.IsOcpi) :
    checkAndSendOICPTransactionCdr context transaction = pure (transaction, false) := by
  rw [checkAndSendOICPTransactionCdr, ocpi.oicpSession]
  rfl

/-- What a status notification saves. -/
def saveCompleted (context : RoamingContext) (updated ocpiUpdated : Bool)
    (transaction : RoamingTransaction) : CdrHandler Unit := do
  let (transaction, oicpUpdated) ←
    OCPPService.checkAndSendOICPTransactionCdr context transaction
  if updated || ocpiUpdated || oicpUpdated then
    TransactionStorage.saveRoamingTransaction transaction
  else return ()

theorem saveCompleted_of_isOcpi (ocpi : transaction.IsOcpi) (updated ocpiUpdated : Bool) :
    saveCompleted context updated ocpiUpdated transaction s =
      (.ok (), if updated || ocpiUpdated then { s with transaction := transaction } else s) := by
  rw [saveCompleted, OCPPService.checkAndSendOICPTransactionCdr_of_isOcpi ocpi, pure_bind]
  cases updated <;> cases ocpiUpdated <;> rfl

theorem savesOcpi_saveCompleted (updated : Bool) :
    SavesOcpi (saveCompleted context updated true) := by
  refine ⟨?_, ?_, ?_⟩ <;> intro transaction ocpi s <;>
    rw [saveCompleted_of_isOcpi ocpi, Bool.or_true, if_pos rfl]
  intro
  exact ocpi

theorem OCPPService.attemptsOcpi_completeRoamingTransaction (inactive : context.oicpActive = false)
    (ocpi : s.transaction.IsOcpi) (identified : s.transaction.IsOcpiCdrIdentified) :
    AttemptsOcpi s (completeRoamingTransaction context s.transaction s).2 := by
  obtain ⟨stop, hstop⟩ := Option.isSome_iff_exists.mp ocpi.stopped
  simp only [completeRoamingTransaction, hstop]
  rcases context.completeStop stop with e | ⟨stop', updated⟩
  · exact .refl ocpi
  rw [Handler.ofExcept_ok_bind]
  have ocpi' : ({ s.transaction with stop := some stop' } : RoamingTransaction).IsOcpi :=
    ⟨rfl, ocpi.session, ocpi.noOicp⟩
  simp only [checkAndSendOCPITransactionCdr]
  split
  · rename_i sends
    simp only [Bool.and_eq_true, Bool.not_eq_true'] at sends
    have unsent : s.transaction.ocpiCdr = none := identified.ocpiCdr_eq_none sends.1.2
    have effect := OCPPUtils.ocpiEnd_processTransactionRoamingEnd (s := s)
      (show ({ s.transaction with stop := some stop' } : RoamingTransaction).ocpiCdr = none from
        unsent) inactive
    rw [bind_assoc]
    simp only [pure_bind]
    exact effect.attempts (savesOcpi_saveCompleted updated) ocpi' unsent ocpi unsent
  · rw [pure_bind]
    change AttemptsOcpi s (saveCompleted context updated false _ s).2
    rw [saveCompleted_of_isOcpi ocpi']
    cases updated
    · exact .refl ocpi
    · exact ⟨ocpi', .keeps rfl rfl⟩

theorem TransactionService.pushOicpCdr_of_isOcpi (ocpi : transaction.IsOcpi) :
    pushOicpCdr context transaction = pure transaction := by
  rw [pushOicpCdr, ocpi.oicpSession]
  rfl

/-- What the push of an administrator saves. -/
def savePushed (context : RoamingContext) (transaction : RoamingTransaction) : CdrHandler Unit := do
  TransactionStorage.saveTransactionOcpiData transaction.ocpiData
  let _ ← TransactionService.pushOicpCdr context transaction
  return ()

theorem savesOcpi_saveTransactionOcpiData :
    SavesOcpi fun transaction => TransactionStorage.saveTransactionOcpiData transaction.ocpiData := by
  refine ⟨fun _ _ _ => rfl, fun _ _ _ => rfl, ?_⟩
  intro transaction ocpi s stored
  exact ⟨stored.stopped, ocpi.session, stored.noOicp⟩

theorem savesOcpi_savePushed : SavesOcpi (savePushed context) := by
  have saved : ∀ transaction : RoamingTransaction, transaction.IsOcpi → ∀ s,
      savePushed context transaction s =
        TransactionStorage.saveTransactionOcpiData transaction.ocpiData s := by
    intro transaction ocpi s
    rw [savePushed, TransactionService.pushOicpCdr_of_isOcpi ocpi]
    rfl
  refine ⟨?_, ?_, ?_⟩ <;> intro transaction ocpi s <;> rw [saved transaction ocpi s]
  · exact savesOcpi_saveTransactionOcpiData.posts transaction ocpi s
  · exact savesOcpi_saveTransactionOcpiData.cdr transaction ocpi s
  · exact savesOcpi_saveTransactionOcpiData.isOcpi transaction ocpi s

theorem TransactionService.attemptsOcpi_pushTransactionCdr (inactive : context.oicpActive = false)
    (ocpi : s.transaction.IsOcpi) (identified : s.transaction.IsOcpiCdrIdentified) :
    AttemptsOcpi s (pushTransactionCdr context s.transaction s).2 := by
  rw [pushTransactionCdr]
  rcases context.checks with e | _
  · exact .refl ocpi
  rw [Handler.ofExcept_ok_bind]
  split
  · rw [Option.isNone_eq_false_iff.mpr ocpi.session, Bool.and_false, if_neg Bool.false_ne_true,
      pushOcpiCdr, if_pos ocpi.session]
    split
    · exact .refl ocpi
    · rename_i sends
      have unsent := identified.ocpiCdr_eq_none (eq_false_of_ne_true sends)
      split
      · rw [bind_assoc]
        simp only [bind_assoc, pure_bind]
        exact (OCPPUtils.ocpiEnd_processTransactionRoamingEnd unsent inactive).attempts
          savesOcpi_savePushed ocpi unsent ocpi unsent
      · rw [pure_bind, pushOicpCdr_of_isOcpi ocpi]
        exact .refl ocpi
  · exact .refl ocpi

theorem OCPIPushCdrsTask.attemptsOcpi_processTransaction (inactive : context.oicpActive = false)
    (ocpi : s.transaction.IsOcpi) :
    AttemptsOcpi s (processTransaction context s.transaction s).2 := by
  rw [processTransaction]
  split
  · rename_i found
    simp only [finds, Bool.and_eq_true, Option.isNone_iff_eq_none] at found
    have unsent := found.1.2.2
    rw [pushCdrOf, unsent, if_neg (by decide)]
    rcases context.checks with e | _
    · exact .refl ocpi
    exact (OCPPUtils.ocpiEnd_processTransactionRoamingEnd unsent inactive).attempts
      savesOcpi_saveTransactionOcpiData ocpi unsent ocpi unsent
  · exact .refl ocpi

/-! ## Attempts that get as far as the platform -/

/-- The transaction whose CDR is sent; a status notification updates the stop first. -/
def CdrAttempt.transactionSent (attempt : CdrAttempt) (transaction : RoamingTransaction) :
    Option RoamingTransaction :=
  match attempt.sender with
  | .statusNotification =>
      transaction.stop.bind fun stop =>
        (attempt.context.completeStop stop).toOption.map fun completed =>
          { transaction with stop := some completed.1 }
  | .manualPush => some transaction
  | .task => some transaction

/-- Nothing keeps the attempt from sending the CDR over OCPI. -/
structure CdrAttempt.Reaches (attempt : CdrAttempt) (transaction : RoamingTransaction)
    (cdr : OCPICdr) : Prop where
  active : attempt.context.ocpiActive = true
  accessControl : attempt.context.accessControl = true
  userIssuer : transaction.userIssuer = some false
  issuer : transaction.issuer = true
  lock : attempt.context.pushCdrLock = true
  checks : attempt.context.checks = .ok ()
  client : attempt.context.ocpiClient = true
  endpointUrl : attempt.context.ocpiEndpointUrl = .ok ()
  built : ∃ sent session stop chargingPeriods,
    attempt.transactionSent transaction = some sent ∧ sent.ocpiSession = some session ∧
    sent.stop = some stop ∧ attempt.context.buildChargingPeriods sent = .ok chargingPeriods ∧
    cdr = CpoOCPIClient.buildCdr attempt.context sent session stop chargingPeriods
  consumption : cdr.hasConsumption = true

/-- The transaction that is sent differs in its stop at most. -/
theorem CdrAttempt.transactionSent_spec {attempt : CdrAttempt} {sent : RoamingTransaction}
    (ocpi : transaction.IsOcpi) (h : attempt.transactionSent transaction = some sent) :
    sent.IsOcpi ∧ sent.ocpiCdr = transaction.ocpiCdr ∧
      sent.userIssuer = transaction.userIssuer := by
  rw [transactionSent] at h
  split at h
  · obtain ⟨stop, -, h⟩ := Option.bind_eq_some_iff.mp h
    obtain ⟨completed, -, rfl⟩ := Option.map_eq_some_iff.mp h
    exact ⟨⟨rfl, ocpi.session, ocpi.noOicp⟩, rfl, rfl⟩
  · cases h
    exact ⟨ocpi, rfl, rfl⟩
  · cases h
    exact ⟨ocpi, rfl, rfl⟩

theorem OCPPService.checkAndSendOCPITransactionCdr_of_unsent (ocpi : transaction.IsOcpi)
    (unsent : transaction.ocpiCdr = none) (lock : context.pushCdrLock = true) :
    checkAndSendOCPITransactionCdr context transaction =
      (OCPPUtils.processTransactionRoamingEnd context transaction >>= fun transaction =>
        return (transaction, true)) := by
  rw [checkAndSendOCPITransactionCdr, ocpi.session,
    RoamingTransaction.hasOcpiCdrID_of_none unsent, lock]
  rfl

/-- Every sender ends the session, and saves what that leaves of it. -/
theorem CdrAttempt.send_eq {attempt : CdrAttempt} {sent : RoamingTransaction} {cdr : OCPICdr}
    (ocpi : transaction.IsOcpi) (unsent : transaction.ocpiCdr = none)
    (reaches : attempt.Reaches transaction cdr)
    (h : attempt.transactionSent transaction = some sent) :
    ∃ save, SavesOcpi save ∧ attempt.sender.send attempt.context transaction s =
      (OCPPUtils.processTransactionRoamingEnd attempt.context sent >>= save) s := by
  have noID := RoamingTransaction.hasOcpiCdrID_of_none unsent
  rw [transactionSent] at h
  split at h <;> rename_i sender <;> rw [sender]
  · obtain ⟨stop, hstop, h⟩ := Option.bind_eq_some_iff.mp h
    obtain ⟨⟨stop', updated⟩, completed, rfl⟩ := Option.map_eq_some_iff.mp h
    refine ⟨saveCompleted attempt.context updated true, savesOcpi_saveCompleted updated, ?_⟩
    simp only [CdrSender.send, OCPPService.completeRoamingTransaction, hstop]
    rcases answer : attempt.context.completeStop stop with e | found <;> rw [answer] at completed
    · cases completed
    cases completed
    rw [Handler.ofExcept_ok_bind]
    have ocpi' : ({ transaction with stop := some stop' } : RoamingTransaction).IsOcpi :=
      ⟨rfl, ocpi.session, ocpi.noOicp⟩
    rw [OCPPService.checkAndSendOCPITransactionCdr_of_unsent ocpi' unsent reaches.lock, bind_assoc]
    simp only [pure_bind]
    rfl
  · cases h
    refine ⟨savePushed attempt.context, savesOcpi_savePushed, ?_⟩
    rw [CdrSender.send, TransactionService.pushTransactionCdr, reaches.checks,
      Handler.ofExcept_ok_bind, if_pos reaches.issuer, Option.isNone_eq_false_iff.mpr ocpi.session,
      Bool.and_false, if_neg Bool.false_ne_true, TransactionService.pushOcpiCdr,
      if_pos ocpi.session, noID, if_neg Bool.false_ne_true, if_pos reaches.lock]
    simp only [bind_assoc, pure_bind]
    rfl
  · cases h
    refine ⟨_, savesOcpi_saveTransactionOcpiData, ?_⟩
    have found : OCPIPushCdrsTask.finds transaction = true := by
      rw [OCPIPushCdrsTask.finds, ocpi.stopped, ocpi.ocpiData_isSome, unsent]
      rfl
    rw [CdrSender.send, OCPIPushCdrsTask.processTransaction, reaches.active, found, reaches.lock,
      Bool.and_self, Bool.and_self, if_pos rfl, OCPIPushCdrsTask.pushCdrOf, unsent,
      if_neg (by decide), reaches.checks,
      Handler.ofExcept_ok_bind]

theorem OCPPUtils.processTransactionRoamingEnd_of_reaches {attempt : CdrAttempt}
    {sent : RoamingTransaction} {session : OCPISession} {stop : RoamingStop}
    {chargingPeriods : List OCPIChargingPeriod} {cdr : OCPICdr}
    (inactive : attempt.context.oicpActive = false) (unsent : sent.ocpiCdr = none)
    (user : sent.userIssuer = some false) (reaches : attempt.Reaches transaction cdr)
    (hsession : sent.ocpiSession = some session) (hstop : sent.stop = some stop)
    (periods : attempt.context.buildChargingPeriods sent = .ok chargingPeriods)
    (built : cdr = CpoOCPIClient.buildCdr attempt.context sent session stop chargingPeriods) :
    processTransactionRoamingEnd attempt.context sent s =
      (CpoOCPIClient.post attempt.context cdr >>= fun _ =>
        return sent.withOcpiCdr cdr : CdrHandler RoamingTransaction) s := by
  rw [processTransactionRoamingEnd, if_pos ⟨user, reaches.accessControl⟩, reaches.active, inactive]
  rw [processWhen, if_pos rfl, processOCPITransaction, if_pos reaches.client]
  refine (congrFun (bind_pure _) s).trans ?_
  rw [CpoOCPIClient.postCdr, hstop, hsession]
  simp only [RoamingTransaction.hasOcpiCdrID_of_none unsent, Bool.false_eq_true, if_false]
  rw [reaches.endpointUrl, periods, Handler.ofExcept_ok_bind, Handler.ofExcept_ok_bind, ← built,
    if_pos reaches.consumption]

/-- **A CDR that has not been sent is posted** as soon as nothing keeps an attempt from it. -/
theorem CdrStore.ocpiPosts_attempt {attempt : CdrAttempt} {cdr : OCPICdr}
    (ocpi : s.transaction.IsOcpi) (unsent : s.transaction.ocpiCdr = none)
    (inactive : attempt.context.oicpActive = false) (reaches : attempt.Reaches s.transaction cdr) :
    (s.attempt attempt).ocpiPosts =
      s.ocpiPosts ++ [⟨cdr, (attempt.context.postOCPI cdr).isOk⟩] := by
  obtain ⟨sent, session, stop, chargingPeriods, hsent, hsession, hstop, periods, built⟩ :=
    reaches.built
  obtain ⟨ocpi', same, user⟩ := CdrAttempt.transactionSent_spec ocpi hsent
  obtain ⟨save, saves, send⟩ := CdrAttempt.send_eq (s := s) ocpi unsent reaches hsent
  have sends := OCPPUtils.processTransactionRoamingEnd_of_reaches (s := s) inactive
    (same.trans unsent) (user.trans reaches.userIssuer) reaches hsession hstop periods built
  have posted : CpoOCPIClient.post attempt.context cdr s = (attempt.context.postOCPI cdr,
    s.postedOcpi cdr (attempt.context.postOCPI cdr).isOk) := rfl
  rw [CdrStore.attempt, send]
  rcases answer : attempt.context.postOCPI cdr with e | _ <;> rw [answer] at posted
  · rw [Handler.bind_apply_error posted] at sends
    rw [Handler.bind_apply_error sends]
    rfl
  · rw [Handler.bind_apply_ok posted] at sends
    rw [Handler.bind_apply_ok sends]
    exact saves.posts _ (ocpi'.withOcpiCdr cdr) _

end Ocpi

end EvServer
