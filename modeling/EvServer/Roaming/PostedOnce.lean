import Mathlib.Data.Fintype.Basic
import EvServer.Roaming.CdrAccounts
import EvServer.Roaming.CdrStored

/-!
# A CDR is posted once

The steps that save the transaction and the one that posts its CDR keep the invariant, so a
party that gets to post with an up-to-date copy is the first one to do so.
-/

namespace EvServer

namespace CdrRace

variable {P : Type} {platform : RoamingPlatform} {parties : P → CdrAttempt} {s : CdrRace P}
variable {p q : P} {turn : CdrTurn P} [DecidableEq P]

/-! ## The steps that save the transaction or release the lock -/

variable (inv : s.Accounts platform parties)
include inv

omit [DecidableEq P] inv in
theorem save_spec {copy : RoamingTransaction} {store : CdrStore} (sound : platform.IsSound copy)
    (stored : platform.IsSound store.transaction) :
    platform.IsSound (CdrAttempt.save platform copy store).2.transaction ∧
      platform.carries (CdrAttempt.save platform copy store).2.transaction =
        platform.carries copy ∧
      platform.posted (CdrAttempt.save platform copy store).2 = platform.posted store := by
  cases platform with
  | ocpi =>
      refine ⟨⟨⟨stored.isOf.stopped, sound.isOf.session, stored.isOf.noOicp⟩, ?_⟩, rfl, rfl⟩
      exact sound.identified
  | oicp =>
      refine ⟨⟨⟨stored.isOf.stopped, sound.isOf.session, stored.isOf.noOcpi⟩, ?_⟩, rfl, rfl⟩
      exact sound.identified

omit [DecidableEq P] in
/-- A party saves its copy, which is the one that it had still to save. -/
theorem Accounts.isQuiet_save {copy : RoamingTransaction} (admits : s.Admits platform p)
    (mem : copy ∈ (s.pc p).saved) (pending : (s.pc p).pending = some copy)
    (stored : platform.IsSound turn.store.transaction)
    (carries : platform.carries turn.store.transaction = platform.carries copy)
    (posts : platform.posted turn.store = platform.posted s.store)
    (isLocal : IsLocal platform (parties p).sender turn.pc) (none : turn.pc.pending = none)
    (lock : turn.lock = s.lock) (holds : turn.pc.hasLock = true → (s.pc p).hasLock = true)
    (locked : ∀ other copy updated, turn.pc ≠ .locked other copy updated)
    (acquired : turn.pc ≠ .acquired) : IsQuiet platform (parties p).sender s p turn where
  stored := stored
  posts := posts
  isLocal := isLocal
  lock := fun held => lock.trans (inv.exclusive p (holds held))
  others := .inl lock
  stays := fun isStored => carries.trans (admits.saves copy mem isStored)
  kept := by
    rintro ⟨found, isPending, sent⟩
    obtain rfl := Option.mem_unique isPending pending
    exact .inl (carries.trans sent)
  fresh := by
    intro _ notPending
    refine ⟨carries.trans (eq_false_of_ne_true fun sent => ?_), ?_⟩
    · exact notPending ⟨copy, pending, sent⟩
    · intro found isPending
      cases none.symm.trans isPending
  locked := fun other copy updated isLocked => absurd isLocked (locked other copy updated)
  acquired := fun isAcquired => absurd isAcquired acquired

omit [DecidableEq P] in
/-- A party releases the lock. -/
theorem Accounts.isQuiet_release (held : (s.pc p).hasLock = true) {pc : CdrPc}
    (isLocal : IsLocal platform (parties p).sender pc) (noLock : pc.hasLock = false)
    (pending : pc.pending = (s.pc p).pending) :
    IsQuiet platform (parties p).sender s p ⟨pc, s.store, none⟩ := by
  refine inv.isQuiet_of_not_hasLock rfl isLocal noLock (.inr (.inr (inv.exclusive p held))) ?_ ?_
  · intro copy mem _
    rw [← pending] at mem
    exact mem
  · intro copy mem
    rw [← pending]
    exact mem

/-- **A post.**  There has been none, as the copy and all that is stored carry no CDR. -/
theorem Accounts.posts (held : (s.pc p).hasLock = true) (unsent : s.Unsent platform)
    (same : turn.store.transaction = s.store.transaction)
    (posts : platform.posted turn.store ≤ platform.posted s.store + 1)
    (lock : turn.lock = s.lock) (isLocal : IsLocal platform (parties p).sender turn.pc)
    (pending : ∃ copy ∈ turn.pc.pending, platform.carries copy = true)
    (locked : ∀ other copy updated, turn.pc ≠ .locked other copy updated)
    (acquired : turn.pc ≠ .acquired) : (s.after p turn).Accounts platform parties := by
  have mine := inv.exclusive p held
  have alone : ∀ q, q ≠ p → (s.pc q).hasLock = false := by
    intro q other
    refine eq_false_of_ne_true fun holds => other ?_
    exact Option.some.inj ((inv.exclusive q holds).symm.trans mine)
  have pc_self : (s.after p turn).pc p = turn.pc := Function.update_self ..
  have pc_of_ne : ∀ q, q ≠ p → (s.after p turn).pc q = s.pc q :=
    fun q other => Function.update_of_ne other ..
  have zero : platform.posted s.store = 0 := by
    by_contra some
    rcases inv.known some with stored | ⟨q, isPending⟩
    · exact unsent.1 stored
    · exact unsent.2 q isPending
  refine ⟨?_, ?_, ?_, ?_, ?_, ?_, fun _ => .inr ⟨p, pending_after_self.mpr pending⟩⟩
  · intro q holds
    rcases eq_or_ne q p with rfl | other
    · exact lock.trans mine
    · rw [pc_of_ne q other, alone q other] at holds
      cases holds
  · change platform.IsSound turn.store.transaction
    rw [same]
    exact inv.stored
  · intro q
    rcases eq_or_ne q p with rfl | other
    · rw [pc_self]
      exact isLocal
    · rw [pc_of_ne q other]
      exact inv.isLocal q
  · intro q platform' copy updated isLocked
    rcases eq_or_ne q p with rfl | other
    · exact absurd (pc_self.symm.trans isLocked) (locked platform' copy updated)
    · have noLock := alone q other
      rw [(pc_of_ne q other).symm.trans isLocked] at noLock
      cases noLock
  · intro q isAcquired
    rcases eq_or_ne q p with rfl | other
    · exact absurd (pc_self.symm.trans isAcquired) acquired
    · have noLock := alone q other
      rw [(pc_of_ne q other).symm.trans isAcquired] at noLock
      cases noLock
  · change platform.posted turn.store ≤ 1
    omega

omit [DecidableEq P] inv in
/-- The party has its copy still to save. -/
theorem processed_spec (attempt : CdrAttempt) {copy : RoamingTransaction}
    (sound : platform.IsSound copy) :
    IsLocal platform attempt.sender (attempt.processed platform (.ok copy)) ∧
      (attempt.processed platform (.ok copy)).hasLock = true ∧
      (attempt.processed platform (.ok copy)).pending = some copy ∧
      (∀ other copy' updated, attempt.processed platform (.ok copy) ≠ .locked other copy' updated) ∧
      attempt.processed platform (.ok copy) ≠ .acquired := by
  have processed : attempt.processed platform (.ok copy) =
      if attempt.sender = .statusNotification then .releasing platform copy true
      else .posted platform copy := rfl
  rw [processed]
  split
  · rename_i sender
    refine ⟨isLocal_of_copy rfl sound (.inl rfl) fun _ => sender, rfl, rfl, ?_, ?_⟩
    · rintro _ _ _ ⟨⟩
    · rintro ⟨⟩
  · refine ⟨isLocal_of_copy rfl sound (.inr rfl) ?_, rfl, rfl, ?_, ?_⟩
    · rintro ⟨⟩
    · rintro _ _ _ ⟨⟩
    · rintro ⟨⟩

/-- The step under the lock. -/
theorem Accounts.process {other : RoamingPlatform} {copy : RoamingTransaction} {updated : Bool}
    (accepts : platform.Accepts (parties p).context)
    (hpc : s.pc p = .locked other copy updated) {turn : CdrTurn P}
    (h : (parties p).turn s p (s.pc p) = some turn) :
    (s.after p turn).Accounts platform parties := by
  obtain rfl := (inv.isLocal p).target other (by rw [hpc]; rfl)
  have sound := (inv.isLocal p).copy copy (by rw [hpc]; rfl)
  have held : (s.pc p).hasLock = true := by
    rw [hpc]
    rfl
  obtain ⟨unsentCopy, unsent⟩ := inv.locked p other copy updated hpc
  have isProcessed := isProcessed_process (parties p) s.store accepts sound unsentCopy
  rw [hpc, CdrAttempt.turn] at h
  generalize (parties p).process other copy s.store = result at isProcessed h
  have keepsUnsent : ∀ found ∈ (s.pc p).pending, other.carries found = false := by
    intro found mem
    exact eq_false_of_ne_true fun carries => unsent.2 p ⟨found, mem, carries⟩
  cases isProcessed with
  | fails e =>
      cases h
      refine inv.quiet (inv.isQuiet_of_store rfl (isLocal_of_none rfl rfl rfl)
        (fun _ => inv.exclusive p held) (.inl rfl) ?_ ?_ ?_ ?_)
      · intro found mem carries
        cases (keepsUnsent found mem).symm.trans carries
      · rintro _ ⟨⟩
      · rintro _ _ _ ⟨⟩
      · rintro ⟨⟩
  | skips =>
      cases h
      obtain ⟨isLocal, _, pending, notLocked, notAcquired⟩ := processed_spec (parties p) sound
      refine inv.quiet ⟨inv.stored, rfl, isLocal, fun _ => inv.exclusive p held, .inl rfl, id, ?_, ?_,
        ?_, ?_⟩
      · intro isPending
        exact absurd isPending (unsent.2 p)
      · intro _ _
        refine ⟨eq_false_of_ne_true unsent.1, ?_⟩
        intro found mem
        obtain rfl := Option.mem_unique mem pending
        exact unsentCopy
      · intro other copy' updated isLocked
        exact absurd isLocked (notLocked other copy' updated)
      · intro isAcquired
        exact absurd isAcquired notAcquired
  | sends copy' store' sound' carries same posts =>
      cases h
      obtain ⟨isLocal, _, pending, notLocked, notAcquired⟩ := processed_spec (parties p) sound'
      exact inv.posts held unsent same posts rfl isLocal ⟨copy', pending, carries⟩ notLocked
        notAcquired

omit [DecidableEq P] in
/-- After the lock has been released the copy is passed on. -/
theorem Accounts.isQuiet_releasing {other : RoamingPlatform} {copy : RoamingTransaction}
    {updated : Bool} (hpc : s.pc p = .releasing other copy updated) :
    IsQuiet platform (parties p).sender s p
      ⟨(parties p).released other copy updated, s.store, none⟩ := by
  have sound := (inv.isLocal p).copy copy (by rw [hpc]; rfl)
  have saves : updated = true → (parties p).sender = .statusNotification := by
    intro isUpdated
    exact (inv.isLocal p).updated (by rw [hpc]; exact isUpdated)
  have held : (s.pc p).hasLock = true := by
    rw [hpc]
    rfl
  have pending : (s.pc p).pending = if updated then some copy else none := by
    rw [hpc]
    rfl
  unfold CdrAttempt.released
  split
  · exact inv.isQuiet_release held (isLocal_of_copy rfl sound (.inl rfl) saves) rfl pending.symm
  · refine inv.isQuiet_release held (isLocal_finish sound saves) ?_ ?_
    · cases updated <;> rfl
    · rw [pending]
      cases updated <;> rfl

/-- **A step keeps the invariant.** -/
theorem Accounts.step (accepts : platform.Accepts (parties p).context)
    (admits : s.Admits platform p) {s' : CdrRace P} (step : Step parties s p s') :
    s'.Accounts platform parties := by
  obtain ⟨turn, hturn, rfl⟩ := Option.map_eq_some_iff.mp step
  change (s.after p turn).Accounts platform parties
  have isLocal := inv.isLocal p
  cases hpc : s.pc p with
  | idle =>
      rw [hpc] at hturn
      cases hturn
      exact inv.quiet (inv.isQuiet_begin hpc)
  | selected =>
      rw [hpc] at hturn
      cases hturn
      exact inv.quiet (inv.isQuiet_selected hpc admits)
  | acquired =>
      rw [hpc] at hturn
      exact inv.quiet (inv.isQuiet_acquired hpc hturn)
  | checkOcpi copy updated =>
      rw [hpc] at hturn isLocal
      cases hturn
      have sound := isLocal.copy copy rfl
      refine inv.quiet (inv.isQuiet_check admits sound isLocal.updated ?_
        (isLocal_of_copy rfl sound (.inl rfl) isLocal.updated) rfl rfl ?_)
      · rw [hpc]
        rfl
      · intro session noCdr
        have target : platform = .ocpi := by
          cases platform with
          | ocpi => rfl
          | oicp =>
              rw [RoamingTransaction.IsOicp.ocpiSession sound.isOf] at session
              cases session
        subst target
        exact ⟨rfl, by rw [hpc]; rfl, carries_eq_false sound (fun _ => noCdr) (by rintro ⟨⟩)⟩
  | checkOicp copy updated =>
      rw [hpc] at hturn isLocal
      cases hturn
      have sound := isLocal.copy copy rfl
      refine inv.quiet (inv.isQuiet_check admits sound isLocal.updated ?_
        (isLocal_finish sound isLocal.updated) ?_ ?_ ?_)
      · rw [hpc]
        rfl
      · cases updated <;> rfl
      · cases updated <;> rfl
      · intro session noCdr
        have target : platform = .oicp := by
          cases platform with
          | oicp => rfl
          | ocpi =>
              rw [RoamingTransaction.IsOcpi.oicpSession sound.isOf] at session
              cases session
        subst target
        exact ⟨rfl, by rw [hpc]; rfl, carries_eq_false sound (by rintro ⟨⟩) (fun _ => noCdr)⟩
  | locked other copy updated => exact inv.process accepts hpc hturn
  | posted other copy =>
      rw [hpc] at hturn isLocal
      cases hturn
      obtain rfl := isLocal.target other rfl
      have sound := isLocal.copy copy rfl
      obtain ⟨stored, carries, posts⟩ := save_spec sound inv.stored
      refine inv.quiet (inv.isQuiet_save admits ?_ ?_ stored carries posts
        (isLocal_of_copy rfl sound (.inl rfl) ?_) rfl rfl ?_ ?_ ?_)
      · rw [hpc]
        rfl
      · rw [hpc]
        rfl
      · rintro ⟨⟩
      · intro _
        rw [hpc]
        rfl
      · rintro _ _ _ ⟨⟩
      · rintro ⟨⟩
  | releasing other copy updated =>
      rw [hpc] at hturn
      cases hturn
      exact inv.quiet (inv.isQuiet_releasing hpc)
  | failing =>
      rw [hpc] at hturn
      cases hturn
      have held : (s.pc p).hasLock = true := by
        rw [hpc]
        rfl
      refine inv.quiet (inv.isQuiet_release held (isLocal_of_none rfl rfl rfl) rfl ?_)
      rw [hpc]
      rfl
  | saving copy =>
      rw [hpc] at hturn isLocal
      cases hturn
      have sound := isLocal.copy copy rfl
      refine inv.quiet (inv.isQuiet_save admits ?_ ?_ sound rfl ?_ (isLocal_of_none rfl rfl rfl) rfl
        rfl ?_ ?_ ?_)
      · rw [hpc]
        rfl
      · rw [hpc]
        rfl
      · cases platform <;> rfl
      · rintro ⟨⟩
      · rintro _ _ _ ⟨⟩
      · rintro ⟨⟩
  | done =>
      rw [hpc] at hturn
      cases hturn

omit inv

omit [DecidableEq P] in
theorem accounts_start {transaction : RoamingTransaction} (isOf : platform.IsOf transaction)
    (unsent : platform.carries transaction = false) :
    (start transaction : CdrRace P).Accounts platform parties := by
  have zero : platform.posted (start transaction : CdrRace P).store = 0 := by
    cases platform <;> rfl
  refine ⟨?_, ⟨isOf, ?_⟩, fun _ => isLocal_of_none rfl rfl rfl, ?_, ?_, zero.trans_le (by decide),
    fun some => absurd zero some⟩
  · rintro _ ⟨⟩
  · cases platform with
    | ocpi =>
        intro cdr carried
        rw [RoamingPlatform.carries, (show transaction.ocpiCdr = some cdr from carried)] at unsent
        cases unsent
    | oicp =>
        intro cdr carried
        rw [RoamingPlatform.carries, (show transaction.oicpCdr = some cdr from carried)] at unsent
        cases unsent
  · rintro _ _ _ _ ⟨⟩
  · rintro _ ⟨⟩

/-- **The CDR is posted once.**  In every run of any number of parties whose posts succeed, if
whoever gets the lock has an up-to-date copy, with no CDR still to be saved by another party,
and no copy without CDR is saved over a CDR, then the CDR is posted at most once. -/
theorem posted_le_one_of_run {transaction : RoamingTransaction}
    (isOf : platform.IsOf transaction) (unsent : platform.carries transaction = false)
    (accepts : ∀ p, platform.Accepts (parties p).context) {events : List P} {s : CdrRace P}
    (run : Transition.Run (Transition.guarded (Admits platform) (Step parties))
      (start transaction) events s) : platform.posted s.store ≤ 1 :=
  have inv : s.Accounts platform parties := run.invariant (accounts_start isOf unsent)
    fun _ p _ inv step => inv.step (accepts p) step.1 step.2
  inv.once

instance (platform : RoamingPlatform) (s : CdrRace P) : Decidable (s.Stored platform) :=
  inferInstanceAs (Decidable (_ = true))

instance (platform : RoamingPlatform) (s : CdrRace P) : DecidablePred (s.Pending platform) :=
  fun _ => inferInstanceAs (Decidable (∃ copy ∈ _, platform.carries copy = true))

instance [Fintype P] (platform : RoamingPlatform) (s : CdrRace P) :
    Decidable (s.Unsent platform) :=
  inferInstanceAs (Decidable (_ ∧ _))

instance [Fintype P] (platform : RoamingPlatform) (s : CdrRace P) (p : P) :
    Decidable (s.Admits platform p) :=
  decidable_of_iff
    ((s.lock = none → ∀ copy ∈ (s.pc p).checked platform, platform.carries copy = false →
        s.Unsent platform) ∧
      (s.lock = none → s.pc p = .selected → s.Stored platform ∨ ∀ q, ¬ s.Pending platform q) ∧
      ∀ copy ∈ (s.pc p).saved, s.Stored platform → platform.carries copy = true)
    ⟨fun ⟨upToDate, selected, saves⟩ => ⟨upToDate, selected, saves⟩,
      fun ⟨upToDate, selected, saves⟩ => ⟨upToDate, selected, saves⟩⟩

/-- Two administrators push the CDR of a session over OCPI. -/
def exampleParties (_ : Fin 2) : CdrAttempt := CdrStore.exampleAttempt .manualPush true true

/-- The second administrator reads the transaction when the first one is done. -/
theorem posted_le_one_of_run_sequential :
    ∃ s : CdrRace (Fin 2), s.pc 0 = .done ∧ s.pc 1 = .done ∧
      RoamingPlatform.posted .ocpi s.store ≤ 1 := by
  have reached : ((Transition.follow (next exampleParties) (fun s p _ => s.Admits .ocpi p)
      (start (CdrStore.exampleOcpi 7000)) [0, 0, 0, 0, 0, 0, 1, 1]).map fun s =>
        (s.pc 0, s.pc 1)) = some (CdrPc.done, CdrPc.done) := by
    decide +kernel
  obtain ⟨s, hs, done⟩ := Option.map_eq_some_iff.mp reached
  obtain ⟨done0, done1⟩ := Prod.mk.inj done
  exact ⟨s, done0, done1, @posted_le_one_of_run _ .ocpi exampleParties _ _ ⟨rfl, rfl, rfl⟩ rfl
    (fun _ => ⟨rfl, fun _ => rfl⟩) _ _
      (.of_follow (fun _ _ _ computed admits => ⟨admits, computed⟩) hs)⟩

/-- The second administrator reads the transaction before the first one has saved it. -/
theorem posted_twice :
    ∃ s : CdrRace (Fin 2), Transition.Run (Step exampleParties)
      (start (CdrStore.exampleOcpi 7000)) [0, 1, 0, 0, 0, 0, 1, 1] s ∧
      s.store.ocpiPosts.map CdrPost.accepted = [true, true] := by
  have reached : ((Transition.follow (next exampleParties) (fun _ _ _ => True)
      (start (CdrStore.exampleOcpi 7000)) [0, 1, 0, 0, 0, 0, 1, 1]).map fun s =>
        s.store.ocpiPosts.map CdrPost.accepted) = some [true, true] := by
    decide +kernel
  obtain ⟨s, hs, posts⟩ := Option.map_eq_some_iff.mp reached
  exact ⟨s, .of_follow (fun _ _ _ computed _ => computed) hs, posts⟩

end CdrRace

end EvServer
