import EvServer.Roaming.CdrAttempts

/-!
# Attempts to send a CDR over OICP

Whatever the platform answers, the transaction carries the CDR that has been posted.
-/

namespace EvServer

namespace RoamingTransaction

/-- The transaction has been stopped, and its session is one over OICP only. -/
structure IsOicp (transaction : RoamingTransaction) : Prop where
  stopped : transaction.stop.isSome
  session : transaction.oicpSession.isSome
  noOcpi : transaction.ocpiData = none

variable {transaction : RoamingTransaction}

theorem IsOicp.withOicpCdr (oicp : transaction.IsOicp) (cdr : OICPChargeDetailRecord) :
    (transaction.withOicpCdr cdr).IsOicp :=
  ⟨oicp.stopped, oicp.session, oicp.noOcpi⟩

theorem IsOicp.ocpiSession (oicp : transaction.IsOicp) : transaction.ocpiSession = none := by
  rw [RoamingTransaction.ocpiSession, oicp.noOcpi]
  rfl

/-- The CDR over OICP that the transaction carries has a session ID. -/
def IsOicpCdrIdentified (transaction : RoamingTransaction) : Prop :=
  ∀ cdr ∈ transaction.oicpCdr, cdr.sessionID ≠ ""

theorem IsOicpCdrIdentified.oicpCdr_eq_none (identified : transaction.IsOicpCdrIdentified)
    (unsent : transaction.hasOicpCdrID = false) : transaction.oicpCdr = none := by
  rw [Option.eq_none_iff_forall_not_mem]
  intro cdr carried
  refine identified cdr carried ?_
  rw [hasOicpCdrID, Option.mem_def.mp carried] at unsent
  simpa using unsent

end RoamingTransaction

/-- The store after a post over OICP. -/
def CdrStore.postedOicp (s : CdrStore) (cdr : OICPChargeDetailRecord) (accepted : Bool) : CdrStore :=
  { s with oicpPosts := s.oicpPosts ++ [⟨cdr, accepted⟩] }

/-! ## The end of a session over OICP -/

section Oicp

variable {context : RoamingContext} {transaction : RoamingTransaction} {s s' : CdrStore}

/-- What the end of a session over OICP comes to; a refusal is no exception. -/
inductive OicpEnd (transaction : RoamingTransaction) (s : CdrStore) :
    Except String RoamingTransaction × CdrStore → Prop
  | fails (e : String) : OicpEnd transaction s (.error e, s)
  | skips : OicpEnd transaction s (.ok transaction, s)
  | pushed (cdr : OICPChargeDetailRecord) (accepted : Bool) : cdr.sessionID ≠ "" →
      OicpEnd transaction s (.ok (transaction.withOicpCdr cdr), s.postedOicp cdr accepted)

/-- What an attempt does to the CDR over OICP, and to what has been posted. -/
inductive OicpChange (s s' : CdrStore) : Prop
  | keeps : s'.transaction.oicpCdr = s.transaction.oicpCdr → s'.oicpPosts = s.oicpPosts →
      OicpChange s s'
  | pushes (cdr : OICPChargeDetailRecord) (accepted : Bool) : s.transaction.oicpCdr = none →
      cdr.sessionID ≠ "" → s'.transaction.oicpCdr = some cdr →
      s'.oicpPosts = s.oicpPosts ++ [⟨cdr, accepted⟩] → OicpChange s s'

/-- The store is one of a session over OICP still, and the CDR has come to it as said. -/
structure AttemptsOicp (s s' : CdrStore) : Prop where
  isOicp : s'.transaction.IsOicp
  change : OicpChange s s'

theorem AttemptsOicp.refl (oicp : s.transaction.IsOicp) : AttemptsOicp s s :=
  ⟨oicp, .keeps rfl rfl⟩

theorem CpoOICPClient.oicpEnd_pushCdr : OicpEnd transaction s (pushCdr context transaction s) := by
  rw [pushCdr]
  rcases transaction.oicpSession with _ | session
  · exact .fails _
  rcases transaction.stop with _ | stop
  · exact .fails _
  simp only
  rcases context.oicpEndpointUrl with e | _
  · exact .fails e
  exact .pushed _ _ session.id_ne

theorem OCPPUtils.oicpEnd_processOICPTransaction :
    OicpEnd transaction s (processOICPTransaction context transaction s) := by
  rw [processOICPTransaction]
  split
  · split
    · exact CpoOICPClient.oicpEnd_pushCdr
    · exact .fails _
  · exact .skips

/-- The session is not one over OCPI, for which the component throws. -/
theorem OCPPUtils.processOCPITransaction_of_isOicp (oicp : transaction.IsOicp) :
    ∃ e, processOCPITransaction context transaction = Handler.ofExcept (.error e) := by
  rw [processOCPITransaction]
  split
  · rw [CpoOCPIClient.postCdr, oicp.ocpiSession]
    cases transaction.stop <;> exact ⟨_, rfl⟩
  · exact ⟨_, rfl⟩

theorem OCPPUtils.oicpEnd_processTransactionRoamingEnd (oicp : transaction.IsOicp) :
    OicpEnd transaction s (processTransactionRoamingEnd context transaction s) := by
  rw [processTransactionRoamingEnd]
  split
  · cases context.ocpiActive with
    | true =>
        obtain ⟨e, throws⟩ := @processOCPITransaction_of_isOicp context _ oicp
        rw [processWhen, if_pos rfl, throws, Handler.ofExcept_error_bind]
        exact .fails e
    | false =>
        rw [processWhen, if_neg Bool.false_ne_true, pure_bind, processWhen]
        split
        · exact oicpEnd_processOICPTransaction
        · exact .skips
  · exact .skips

/-- A sender saves what the end of the session has left of the transaction. -/
structure SavesOicp (save : RoamingTransaction → CdrHandler Unit) : Prop where
  posts : ∀ transaction s, (save transaction s).2.oicpPosts = s.oicpPosts
  cdr : ∀ transaction s, (save transaction s).2.transaction.oicpCdr = transaction.oicpCdr
  isOicp : ∀ transaction : RoamingTransaction, transaction.IsOicp → ∀ s : CdrStore,
    s.transaction.IsOicp → (save transaction s).2.transaction.IsOicp

/-- The end of a session over OICP, and what the sender saves of it. -/
theorem OicpEnd.attempts {x : CdrHandler RoamingTransaction}
    {save : RoamingTransaction → CdrHandler Unit} (effect : OicpEnd transaction s (x s))
    (saves : SavesOicp save) (oicp : transaction.IsOicp) (unsent : transaction.oicpCdr = none)
    (stored : s.transaction.IsOicp) (unsentStored : s.transaction.oicpCdr = none) :
    AttemptsOicp s ((x >>= save) s).2 := by
  generalize result : x s = r at effect
  cases effect with
  | fails e =>
      rw [Handler.bind_apply_error result]
      exact .refl stored
  | skips =>
      rw [Handler.bind_apply_ok result]
      refine ⟨saves.isOicp _ oicp s stored, .keeps ?_ (saves.posts _ s)⟩
      rw [saves.cdr, unsent, unsentStored]
  | pushed cdr accepted id_ne =>
      rw [Handler.bind_apply_ok result]
      exact ⟨saves.isOicp _ (oicp.withOicpCdr cdr) _ stored,
        .pushes cdr accepted unsentStored id_ne (saves.cdr _ _) (saves.posts _ _)⟩

theorem savesOicp_saveRoamingTransaction : SavesOicp TransactionStorage.saveRoamingTransaction :=
  ⟨fun _ _ => rfl, fun _ _ => rfl, fun _ oicp _ _ => oicp⟩

theorem OCPPService.attemptsOicp_completeRoamingTransaction (oicp : s.transaction.IsOicp)
    (identified : s.transaction.IsOicpCdrIdentified) :
    AttemptsOicp s (completeRoamingTransaction context s.transaction s).2 := by
  obtain ⟨stop, hstop⟩ := Option.isSome_iff_exists.mp oicp.stopped
  simp only [completeRoamingTransaction, hstop]
  rcases context.completeStop stop with e | ⟨stop', updated⟩
  · exact .refl oicp
  rw [Handler.ofExcept_ok_bind]
  generalize completed : ({ s.transaction with stop := some stop' } : RoamingTransaction) = t
  have oicp' : t.IsOicp := by
    rw [← completed]
    exact ⟨rfl, oicp.session, oicp.noOcpi⟩
  have same : t.oicpCdr = s.transaction.oicpCdr := by
    rw [← completed]
    rfl
  rw [checkAndSendOCPITransactionCdr, oicp'.ocpiSession]
  simp only [Option.isSome_none, Bool.false_and, Bool.false_eq_true, if_false, pure_bind,
    checkAndSendOICPTransactionCdr]
  split
  · rename_i sends
    simp only [Bool.and_eq_true, Bool.not_eq_true'] at sends
    have identified' : t.IsOicpCdrIdentified := by
      rw [RoamingTransaction.IsOicpCdrIdentified, same]
      exact identified
    have unsent := identified'.oicpCdr_eq_none sends.1.2
    rw [bind_assoc]
    simp only [pure_bind, Bool.or_true, if_true]
    exact (OCPPUtils.oicpEnd_processTransactionRoamingEnd oicp').attempts
      savesOicp_saveRoamingTransaction oicp' unsent oicp (same ▸ unsent)
  · rw [pure_bind]
    cases updated
    · exact .refl oicp
    · exact ⟨oicp', .keeps same rfl⟩

/-- What the push of an administrator saves over OICP. -/
def saveOicpPushed (transaction : RoamingTransaction) : CdrHandler Unit := do
  TransactionStorage.saveTransactionOicpData transaction.oicpData
  let _ ← (Handler.ofExcept (if transaction.ocpiData.isSome then .ok transaction
    else .error "Cannot read properties of undefined") : CdrHandler RoamingTransaction)
  return ()

theorem saveOicpPushed_snd (s : CdrStore) : (saveOicpPushed transaction s).2 =
    { s with transaction := { s.transaction with oicpData := transaction.oicpData } } := by
  rw [saveOicpPushed]
  split <;> rfl

theorem savesOicp_saveOicpPushed : SavesOicp saveOicpPushed := by
  refine ⟨?_, ?_, ?_⟩
  · intro transaction s
    rw [saveOicpPushed_snd]
  · intro transaction s
    rw [saveOicpPushed_snd]
    rfl
  · intro transaction oicp s stored
    rw [saveOicpPushed_snd]
    exact ⟨stored.stopped, oicp.session, stored.noOcpi⟩

theorem TransactionService.attemptsOicp_pushTransactionCdr (oicp : s.transaction.IsOicp)
    (identified : s.transaction.IsOicpCdrIdentified) :
    AttemptsOicp s (pushTransactionCdr context s.transaction s).2 := by
  rw [pushTransactionCdr]
  rcases context.checks with e | _
  · exact .refl oicp
  rw [Handler.ofExcept_ok_bind]
  split
  · rw [Option.isNone_eq_false_iff.mpr oicp.session, Bool.false_and, if_neg Bool.false_ne_true,
      pushOcpiCdr, oicp.ocpiSession, if_neg (by decide), pure_bind, pushOicpCdr,
      if_pos oicp.session]
    split
    · exact .refl oicp
    · rename_i sends
      have unsent := identified.oicpCdr_eq_none (eq_false_of_ne_true sends)
      split
      · simp only [bind_assoc]
        exact OCPPUtils.oicpEnd_processOICPTransaction.attempts savesOicp_saveOicpPushed oicp
          unsent oicp unsent
      · exact .refl oicp
  · exact .refl oicp

theorem OCPIPushCdrsTask.processTransaction_of_isOicp (oicp : transaction.IsOicp) :
    processTransaction context transaction = pure () := by
  rw [processTransaction, finds, oicp.noOcpi]
  simp

end Oicp

end EvServer
