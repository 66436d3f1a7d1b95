import EvServer.Roaming.CdrRace
import EvServer.Roaming.OcpiCdr
import EvServer.Roaming.OicpCdr

/-!
# What has become of a CDR that has been posted

The stored transaction, or the copy of a party that has still to save it, carries the CDR
that has been posted, as long as no copy without CDR is saved over it.  A party that gets the
lock sees it if its own copy is up to date and no other party has a CDR that it has not saved.
-/

namespace EvServer

namespace RoamingPlatform

/-- The transaction carries a CDR of the platform. -/
def carries : RoamingPlatform → RoamingTransaction → Bool
  | ocpi, transaction => transaction.ocpiCdr.isSome
  | oicp, transaction => transaction.oicpCdr.isSome

/-- The session of the transaction, which has been stopped, is one of the platform only. -/
def IsOf : RoamingPlatform → RoamingTransaction → Prop
  | ocpi, transaction => transaction.IsOcpi
  | oicp, transaction => transaction.IsOicp

/-- A CDR that the transaction carries has an ID. -/
def IsIdentified : RoamingPlatform → RoamingTransaction → Prop
  | ocpi, transaction => transaction.IsOcpiCdrIdentified
  | oicp, transaction => transaction.IsOicpCdrIdentified

/-- What holds of the stored transaction, and of every copy. -/
structure IsSound (platform : RoamingPlatform) (transaction : RoamingTransaction) : Prop where
  isOf : platform.IsOf transaction
  identified : platform.IsIdentified transaction

/-- How often a CDR has been posted. -/
def posted : RoamingPlatform → CdrStore → ℕ
  | ocpi, store => store.ocpiPosts.length
  | oicp, store => store.oicpPosts.length

/-- Every post succeeds.  The component for OICP, which throws when the session is one over
OCPI, is not active then. -/
def Accepts : RoamingPlatform → RoamingContext → Prop
  | ocpi, context => context.oicpActive = false ∧ ∀ cdr, context.postOCPI cdr = .ok ()
  | oicp, context => ∀ cdr, context.postOICP cdr = some true

end RoamingPlatform

namespace CdrPc

/-- The party has the lock. -/
def hasLock : CdrPc → Bool
  | acquired => true
  | locked _ _ _ => true
  | posted _ _ => true
  | releasing _ _ _ => true
  | failing => true
  | _ => false

/-- The copy of the transaction. -/
def copy : CdrPc → Option RoamingTransaction
  | checkOcpi copy _ => some copy
  | checkOicp copy _ => some copy
  | locked _ copy _ => some copy
  | posted _ copy => some copy
  | releasing _ copy _ => some copy
  | saving copy => some copy
  | _ => none

/-- The copy is going to be saved at the end. -/
def updated : CdrPc → Bool
  | checkOcpi _ updated => updated
  | checkOicp _ updated => updated
  | locked _ _ updated => updated
  | releasing _ _ updated => updated
  | saving _ => true
  | _ => false

/-- A copy that the party has still to save. -/
def pending : CdrPc → Option RoamingTransaction
  | posted _ copy => some copy
  | pc => if pc.updated then pc.copy else none

/-- The platform whose CDR is being sent. -/
def target : CdrPc → Option RoamingPlatform
  | selected => some .ocpi
  | acquired => some .ocpi
  | locked platform _ _ => some platform
  | posted platform _ => some platform
  | _ => none

/-- The copy that a party is about to check before it asks for the lock. -/
def checked : RoamingPlatform → CdrPc → Option RoamingTransaction
  | .ocpi, checkOcpi copy _ => some copy
  | .oicp, checkOicp copy _ => some copy
  | _, _ => none

/-- The copy that the next step saves. -/
def saved : CdrPc → Option RoamingTransaction
  | posted _ copy => some copy
  | saving copy => some copy
  | _ => none

end CdrPc

namespace CdrRace

variable {P : Type}

/-- The stored transaction carries a CDR. -/
def Stored (platform : RoamingPlatform) (s : CdrRace P) : Prop :=
  platform.carries s.store.transaction = true

/-- A party has a CDR that it has still to save. -/
def Pending (platform : RoamingPlatform) (s : CdrRace P) (p : P) : Prop :=
  ∃ copy ∈ (s.pc p).pending, platform.carries copy = true

/-- Neither the stored transaction nor what is going to be saved carries a CDR. -/
def Unsent (platform : RoamingPlatform) (s : CdrRace P) : Prop :=
  ¬ s.Stored platform ∧ ∀ p, ¬ s.Pending platform p

/-- The condition on a step of the party `p`. -/
structure Admits (platform : RoamingPlatform) (s : CdrRace P) (p : P) : Prop where
  /-- A party gets the lock with a copy that carries no CDR: there is none. -/
  upToDate : s.lock = none → ∀ copy ∈ (s.pc p).checked platform,
    platform.carries copy = false → s.Unsent platform
  /-- The task gets the lock: there is no CDR that has still to be saved. -/
  selected : s.lock = none → s.pc p = .selected →
    s.Stored platform ∨ ∀ q, ¬ s.Pending platform q
  /-- No copy without CDR is saved over a CDR. -/
  saves : ∀ copy ∈ (s.pc p).saved, s.Stored platform → platform.carries copy = true

/-- What holds of a party by itself. -/
structure IsLocal (platform : RoamingPlatform) (sender : CdrSender) (pc : CdrPc) : Prop where
  copy : ∀ copy ∈ pc.copy, platform.IsSound copy
  target : ∀ other ∈ pc.target, other = platform
  /-- Only a status notification keeps a copy to save it at the end. -/
  updated : pc.updated = true → sender = .statusNotification

/-- The invariant. -/
structure Accounts (platform : RoamingPlatform) (parties : P → CdrAttempt) (s : CdrRace P) :
    Prop where
  exclusive : ∀ p, (s.pc p).hasLock = true → s.lock = some p
  stored : platform.IsSound s.store.transaction
  isLocal : ∀ p, IsLocal platform (parties p).sender (s.pc p)
  /-- Whoever is about to post has found no CDR, and there is none. -/
  locked : ∀ p other copy updated, s.pc p = .locked other copy updated →
    platform.carries copy = false ∧ s.Unsent platform
  acquired : ∀ p, s.pc p = .acquired → s.Stored platform ∨ ∀ q, ¬ s.Pending platform q
  once : platform.posted s.store ≤ 1
  known : platform.posted s.store ≠ 0 → s.Stored platform ∨ ∃ q, s.Pending platform q

variable {platform : RoamingPlatform} {parties : P → CdrAttempt} {s : CdrRace P} {p q : P}
variable {turn : CdrTurn P}

/-- A step that posts nothing. -/
structure IsQuiet (platform : RoamingPlatform) (sender : CdrSender) (s : CdrRace P) (p : P)
    (turn : CdrTurn P) : Prop where
  stored : platform.IsSound turn.store.transaction
  posts : platform.posted turn.store = platform.posted s.store
  isLocal : IsLocal platform sender turn.pc
  lock : turn.pc.hasLock = true → turn.lock = some p
  others : turn.lock = s.lock ∨ s.lock = none ∨ s.lock = some p
  /-- A stored CDR stays. -/
  stays : s.Stored platform → platform.carries turn.store.transaction = true
  /-- A CDR that has still to be saved is not lost. -/
  kept : s.Pending platform p → platform.carries turn.store.transaction = true ∨
    ∃ copy ∈ turn.pc.pending, platform.carries copy = true
  /-- No CDR comes from nowhere. -/
  fresh : ¬ s.Stored platform → ¬ s.Pending platform p →
    platform.carries turn.store.transaction = false ∧
      ∀ copy ∈ turn.pc.pending, platform.carries copy = false
  locked : ∀ other copy updated, turn.pc = .locked other copy updated →
    platform.carries copy = false ∧ s.Unsent platform
  acquired : turn.pc = .acquired → s.Stored platform ∨ ∀ q, ¬ s.Pending platform q

variable [DecidableEq P]

/-- The state after a turn. -/
def after (s : CdrRace P) (p : P) (turn : CdrTurn P) : CdrRace P :=
  ⟨turn.store, turn.lock, Function.update s.pc p turn.pc⟩

theorem pending_after_of_ne (other : q ≠ p) :
    (s.after p turn).Pending platform q ↔ s.Pending platform q := by
  change (∃ copy ∈ (Function.update s.pc p turn.pc q).pending, _) ↔ _
  rw [Function.update_of_ne other]
  exact Iff.rfl

theorem pending_after_self : (s.after p turn).Pending platform p ↔
    ∃ copy ∈ turn.pc.pending, platform.carries copy = true := by
  change (∃ copy ∈ (Function.update s.pc p turn.pc p).pending, _) ↔ _
  rw [Function.update_self]

theorem IsQuiet.unsent {sender : CdrSender} (quiet : IsQuiet platform sender s p turn)
    (unsent : s.Unsent platform) : (s.after p turn).Unsent platform := by
  obtain ⟨stored, pending⟩ := quiet.fresh unsent.1 (unsent.2 p)
  refine ⟨ne_true_of_eq_false stored, fun q => ?_⟩
  rcases eq_or_ne q p with rfl | other
  · rw [pending_after_self]
    rintro ⟨copy, mem, carries⟩
    cases (pending copy mem).symm.trans carries
  · rw [pending_after_of_ne other]
    exact unsent.2 q

theorem IsQuiet.stored_or {sender : CdrSender} (quiet : IsQuiet platform sender s p turn)
    (unsent : s.Stored platform ∨ ∀ q, ¬ s.Pending platform q) :
    (s.after p turn).Stored platform ∨ ∀ q, ¬ (s.after p turn).Pending platform q := by
  by_cases stored : s.Stored platform
  · exact .inl (quiet.stays stored)
  · exact .inr (quiet.unsent ⟨stored, unsent.resolve_left stored⟩).2

/-- **A step that posts nothing keeps the invariant.** -/
theorem Accounts.quiet (inv : s.Accounts platform parties)
    (quiet : IsQuiet platform (parties p).sender s p turn) :
    (s.after p turn).Accounts platform parties := by
  have pc_self : (s.after p turn).pc p = turn.pc := Function.update_self ..
  have pc_of_ne : ∀ q, q ≠ p → (s.after p turn).pc q = s.pc q :=
    fun q other => Function.update_of_ne other ..
  refine ⟨?_, quiet.stored, ?_, ?_, ?_, quiet.posts.trans_le inv.once, ?_⟩
  · intro q holds
    rcases eq_or_ne q p with rfl | other
    · rw [pc_self] at holds
      exact quiet.lock holds
    · rw [pc_of_ne q other] at holds
      have held := inv.exclusive q holds
      rcases quiet.others with same | free | mine
      · exact same.trans held
      · cases free.symm.trans held
      · exact absurd (Option.some.inj (held.symm.trans mine)) other
  · intro q
    rcases eq_or_ne q p with rfl | other
    · rw [pc_self]
      exact quiet.isLocal
    · rw [pc_of_ne q other]
      exact inv.isLocal q
  · intro q
    rcases eq_or_ne q p with rfl | other
    · rw [pc_self]
      intro platform' copy updated isLocked
      obtain ⟨unsentCopy, unsent⟩ := quiet.locked platform' copy updated isLocked
      exact ⟨unsentCopy, quiet.unsent unsent⟩
    · rw [pc_of_ne q other]
      intro platform' copy updated isLocked
      obtain ⟨unsentCopy, unsent⟩ := inv.locked q platform' copy updated isLocked
      exact ⟨unsentCopy, quiet.unsent unsent⟩
  · intro q isAcquired
    rcases eq_or_ne q p with rfl | other
    · exact quiet.stored_or (quiet.acquired (pc_self.symm.trans isAcquired))
    · exact quiet.stored_or (inv.acquired q ((pc_of_ne q other).symm.trans isAcquired))
  · intro some
    rcases inv.known (quiet.posts ▸ some) with stored | ⟨q, pending⟩
    · exact .inl (quiet.stays stored)
    · rcases eq_or_ne q p with rfl | other
      · exact (quiet.kept pending).imp_right fun kept => ⟨q, pending_after_self.mpr kept⟩
      · exact .inr ⟨q, (pending_after_of_ne other).mpr pending⟩

/-! ## The steps that post nothing -/

omit [DecidableEq P] in
/-- A step of a party without access to the database. -/
theorem Accounts.isQuiet_of_store (inv : s.Accounts platform parties) {sender : CdrSender}
    (same : turn.store = s.store) (isLocal : IsLocal platform sender turn.pc)
    (lock : turn.pc.hasLock = true → turn.lock = some p)
    (others : turn.lock = s.lock ∨ s.lock = none ∨ s.lock = some p)
    (kept : ∀ copy ∈ (s.pc p).pending, platform.carries copy = true → copy ∈ turn.pc.pending)
    (fresh : ∀ copy ∈ turn.pc.pending, copy ∈ (s.pc p).pending)
    (locked : ∀ other copy updated, turn.pc = .locked other copy updated →
      platform.carries copy = false ∧ s.Unsent platform)
    (acquired : turn.pc = .acquired → s.Stored platform ∨ ∀ q, ¬ s.Pending platform q) :
    IsQuiet platform sender s p turn where
  stored := same ▸ inv.stored
  posts := by rw [same]
  isLocal := isLocal
  lock := lock
  others := others
  stays := fun stored => same ▸ stored
  kept := by
    rintro ⟨copy, mem, carries⟩
    exact .inr ⟨copy, kept copy mem carries, carries⟩
  fresh := by
    intro stored pending
    refine ⟨same ▸ eq_false_of_ne_true stored, fun copy mem => eq_false_of_ne_true ?_⟩
    intro carries
    exact pending ⟨copy, fresh copy mem, carries⟩
  locked := locked
  acquired := acquired

omit [DecidableEq P] in
/-- A step after which the party has not got the lock. -/
theorem Accounts.isQuiet_of_not_hasLock (inv : s.Accounts platform parties) {sender : CdrSender}
    (same : turn.store = s.store) (isLocal : IsLocal platform sender turn.pc)
    (noLock : turn.pc.hasLock = false)
    (others : turn.lock = s.lock ∨ s.lock = none ∨ s.lock = some p)
    (kept : ∀ copy ∈ (s.pc p).pending, platform.carries copy = true → copy ∈ turn.pc.pending)
    (fresh : ∀ copy ∈ turn.pc.pending, copy ∈ (s.pc p).pending) :
    IsQuiet platform sender s p turn := by
  refine inv.isQuiet_of_store same isLocal ?_ others kept fresh ?_ ?_
  · intro holds
    cases noLock.symm.trans holds
  · intro other copy updated isLocked
    rw [isLocked] at noLock
    cases noLock
  · intro isAcquired
    rw [isAcquired] at noLock
    cases noLock

/-- A party that has no copy and sends nothing. -/
theorem isLocal_of_none {sender : CdrSender} {pc : CdrPc} (copy : pc.copy = none)
    (target : pc.target = none) (updated : pc.updated = false) : IsLocal platform sender pc := by
  refine ⟨?_, ?_, ?_⟩
  · intro found mem
    cases copy.symm.trans mem
  · intro found mem
    cases target.symm.trans mem
  · intro saves
    cases updated.symm.trans saves

/-- A party that has a copy. -/
theorem isLocal_of_copy {sender : CdrSender} {pc : CdrPc} {copy : RoamingTransaction}
    (hcopy : pc.copy = some copy) (sound : platform.IsSound copy)
    (target : pc.target = none ∨ pc.target = some platform)
    (updated : pc.updated = true → sender = .statusNotification) :
    IsLocal platform sender pc := by
  refine ⟨?_, ?_, updated⟩
  · intro found mem
    obtain rfl := Option.mem_unique mem hcopy
    exact sound
  · intro other mem
    rcases target with none | same
    · cases none.symm.trans mem
    · exact Option.mem_unique mem same

theorem isLocal_finish {sender : CdrSender} {copy : RoamingTransaction} {updated : Bool}
    (sound : platform.IsSound copy) (saves : updated = true → sender = .statusNotification) :
    IsLocal platform sender (CdrAttempt.finish copy updated) := by
  cases updated with
  | true => exact isLocal_of_copy rfl sound (.inl rfl) saves
  | false => exact isLocal_of_none rfl rfl rfl

omit [DecidableEq P] in
theorem check_cases {attempt : CdrAttempt} {session hasCdr : Bool} {locked skipped : CdrPc} :
    (session = true ∧ hasCdr = false ∧ s.lock = none ∧
      attempt.check s p session hasCdr locked skipped = ⟨locked, s.store, some p⟩) ∨
    (attempt.sender = .manualPush ∧
      attempt.check s p session hasCdr locked skipped = ⟨.done, s.store, s.lock⟩) ∨
    attempt.check s p session hasCdr locked skipped = ⟨skipped, s.store, s.lock⟩ := by
  unfold CdrAttempt.check CdrAttempt.acquire
  cases session <;> cases hasCdr <;> cases s.lock <;> by_cases attempt.sender = .manualPush <;>
    simp_all

/-- What is done under the lock, every post being accepted. -/
inductive IsProcessed (platform : RoamingPlatform) (copy : RoamingTransaction) (store : CdrStore) :
    Except String RoamingTransaction × CdrStore → Prop
  | fails (e : String) : IsProcessed platform copy store (.error e, store)
  | skips : IsProcessed platform copy store (.ok copy, store)
  | sends (copy' : RoamingTransaction) (store' : CdrStore) : platform.IsSound copy' →
      platform.carries copy' = true → store'.transaction = store.transaction →
      platform.posted store' ≤ platform.posted store + 1 →
      IsProcessed platform copy store (.ok copy', store')

theorem isSound_withOcpiCdr {copy : RoamingTransaction} {cdr : OCPICdr} (ocpi : copy.IsOcpi)
    (id_ne : cdr.id ≠ "") : RoamingPlatform.IsSound .ocpi (copy.withOcpiCdr cdr) := by
  refine ⟨ocpi.withOcpiCdr cdr, ?_⟩
  rintro found ⟨⟩
  exact id_ne

theorem isSound_withOicpCdr {copy : RoamingTransaction} {cdr : OICPChargeDetailRecord}
    (oicp : copy.IsOicp) (id_ne : cdr.sessionID ≠ "") :
    RoamingPlatform.IsSound .oicp (copy.withOicpCdr cdr) := by
  refine ⟨oicp.withOicpCdr cdr, ?_⟩
  rintro found ⟨⟩
  exact id_ne

theorem isProcessed_of_ocpiEnd {context : RoamingContext} {copy : RoamingTransaction}
    {store : CdrStore} {result : Except String RoamingTransaction × CdrStore}
    (accepts : RoamingPlatform.Accepts .ocpi context) (ocpi : copy.IsOcpi)
    (effect : OcpiEnd context copy store result) : IsProcessed .ocpi copy store result := by
  cases effect with
  | fails e => exact .fails e
  | skips => exact .skips
  | ignored cdr id_ne _ =>
      exact .sends _ _ (isSound_withOcpiCdr ocpi id_ne) rfl rfl (Nat.le_succ _)
  | accepted cdr id_ne _ =>
      exact .sends _ _ (isSound_withOcpiCdr ocpi id_ne) rfl rfl List.length_append.le
  | refused cdr e _ answer => cases (accepts.2 cdr).symm.trans answer

theorem isProcessed_of_oicpEnd {copy : RoamingTransaction} {store : CdrStore}
    {result : Except String RoamingTransaction × CdrStore} (oicp : copy.IsOicp)
    (effect : OicpEnd copy store result) : IsProcessed .oicp copy store result := by
  cases effect with
  | fails e => exact .fails e
  | skips => exact .skips
  | pushed cdr accepted id_ne =>
      exact .sends _ _ (isSound_withOicpCdr oicp id_ne) rfl rfl List.length_append.le

theorem isProcessed_process (attempt : CdrAttempt) (store : CdrStore)
    {copy : RoamingTransaction} (accepts : platform.Accepts attempt.context)
    (sound : platform.IsSound copy) (unsent : platform.carries copy = false) :
    IsProcessed platform copy store (attempt.process platform copy store) := by
  unfold CdrAttempt.process
  cases platform with
  | ocpi =>
      rw [if_neg (by rintro ⟨⟨⟩, -⟩)]
      refine isProcessed_of_ocpiEnd accepts sound.isOf ?_
      exact OCPPUtils.ocpiEnd_processTransactionRoamingEnd
        (Option.isSome_eq_false_iff.mp unsent |> Option.isNone_iff_eq_none.mp) accepts.1
  | oicp =>
      refine isProcessed_of_oicpEnd sound.isOf ?_
      split
      · exact OCPPUtils.oicpEnd_processOICPTransaction
      · exact OCPPUtils.oicpEnd_processTransactionRoamingEnd sound.isOf

theorem isSound_with_stop {transaction : RoamingTransaction} (sound : platform.IsSound transaction)
    (stop : RoamingStop) : platform.IsSound { transaction with stop := some stop } := by
  cases platform with
  | ocpi => exact ⟨⟨rfl, sound.isOf.session, sound.isOf.noOicp⟩, sound.identified⟩
  | oicp => exact ⟨⟨rfl, sound.isOf.session, sound.isOf.noOcpi⟩, sound.identified⟩

/-- A party begins with a copy of what is stored. -/
theorem begin_spec (attempt : CdrAttempt) {stored : RoamingTransaction}
    (sound : platform.IsSound stored) :
    IsLocal platform attempt.sender (attempt.begin stored) ∧
      (attempt.begin stored).hasLock = false ∧
      ∀ copy ∈ (attempt.begin stored).pending, platform.carries copy = platform.carries stored := by
  have done : IsLocal platform attempt.sender .done ∧ CdrPc.done.hasLock = false ∧
      ∀ copy ∈ CdrPc.done.pending, platform.carries copy = platform.carries stored := by
    refine ⟨isLocal_of_none rfl rfl rfl, rfl, ?_⟩
    rintro _ ⟨⟩
  rcases attempt with ⟨sender, context⟩
  cases sender with
  | statusNotification =>
      simp only [CdrAttempt.begin]
      rcases stored.stop.map context.completeStop with _ | _ | ⟨stop, updated⟩
      · exact done
      · exact done
      · refine ⟨isLocal_of_copy rfl (isSound_with_stop sound stop) (.inl rfl) fun _ => rfl, rfl, ?_⟩
        intro copy mem
        cases updated <;> cases mem
        cases platform <;> rfl
  | manualPush =>
      simp only [CdrAttempt.begin]
      split
      · refine ⟨isLocal_of_copy rfl sound (.inl rfl) ?_, rfl, ?_⟩
        · rintro ⟨⟩
        · rintro _ ⟨⟩
      · exact done
  | task =>
      simp only [CdrAttempt.begin]
      split
      · rename_i found
        simp only [OCPIPushCdrsTask.finds, Bool.and_eq_true] at found
        have isOcpi : platform = .ocpi := by
          cases platform with
          | ocpi => rfl
          | oicp =>
              have noOcpi := found.2.1.2
              rw [(show stored.ocpiData = none from sound.isOf.noOcpi)] at noOcpi
              cases noOcpi
        refine ⟨⟨?_, ?_, ?_⟩, rfl, ?_⟩
        · rintro _ ⟨⟩
        · rintro _ ⟨⟩
          exact isOcpi.symm
        · rintro ⟨⟩
        · rintro _ ⟨⟩
      · exact done

/-- Who has a copy whose CDR of the platform is to be sent, and no CDR there, sends it. -/
theorem carries_eq_false {copy : RoamingTransaction} (sound : platform.IsSound copy)
    (noOcpi : platform = .ocpi → copy.hasOcpiCdrID = false)
    (noOicp : platform = .oicp → copy.hasOicpCdrID = false) : platform.carries copy = false := by
  cases platform with
  | ocpi =>
      have unsent := RoamingTransaction.IsOcpiCdrIdentified.ocpiCdr_eq_none sound.identified
        (noOcpi rfl)
      rw [RoamingPlatform.carries, unsent]
      rfl
  | oicp =>
      have unsent := RoamingTransaction.IsOicpCdrIdentified.oicpCdr_eq_none sound.identified
        (noOicp rfl)
      rw [RoamingPlatform.carries, unsent]
      rfl

variable (inv : s.Accounts platform parties)
include inv

omit [DecidableEq P] in
/-- The step of an idle party. -/
theorem Accounts.isQuiet_begin (hpc : s.pc p = .idle) :
    IsQuiet platform (parties p).sender s p
      ⟨(parties p).begin s.store.transaction, s.store, s.lock⟩ := by
  obtain ⟨isLocal, noLock, same⟩ := begin_spec (parties p) inv.stored
  have none : ¬ s.Pending platform p := by
    rw [Pending, hpc]
    rintro ⟨_, ⟨⟩, _⟩
  refine ⟨inv.stored, rfl, isLocal, ?_, .inl rfl, id, fun pending => absurd pending none, ?_, ?_, ?_⟩
  · intro holds
    cases noLock.symm.trans holds
  · intro stored _
    have unsent := eq_false_of_ne_true stored
    exact ⟨unsent, fun copy mem => (same copy mem).trans unsent⟩
  · intro other copy updated isLocked
    change (parties p).begin _ = _ at isLocked
    rw [isLocked] at noLock
    cases noLock
  · intro isAcquired
    change (parties p).begin _ = _ at isAcquired
    rw [isAcquired] at noLock
    cases noLock

omit [DecidableEq P] in
/-- The task asks for the lock. -/
theorem Accounts.isQuiet_selected (hpc : s.pc p = .selected) (admits : s.Admits platform p) :
    IsQuiet platform (parties p).sender s p (CdrAttempt.acquire s p .acquired .done) := by
  have target := (inv.isLocal p).target .ocpi (by rw [hpc]; rfl)
  have pending : (s.pc p).pending = none := by
    rw [hpc]
    rfl
  unfold CdrAttempt.acquire
  split
  · rename_i free
    have free := Option.isNone_iff_eq_none.mp free
    refine inv.isQuiet_of_store rfl ⟨?_, ?_, ?_⟩ (fun _ => rfl) (.inr (.inl free)) ?_ ?_ ?_ ?_
    · rintro _ ⟨⟩
    · rintro _ ⟨⟩
      exact target
    · rintro ⟨⟩
    · intro copy mem
      cases pending.symm.trans mem
    · rintro _ ⟨⟩
    · rintro _ _ _ ⟨⟩
    · intro _
      exact admits.selected free hpc
  · refine inv.isQuiet_of_not_hasLock rfl (isLocal_of_none rfl rfl rfl) rfl (.inl rfl) ?_ ?_
    · intro copy mem
      cases pending.symm.trans mem
    · rintro _ ⟨⟩

omit [DecidableEq P] in
/-- The task reads the transaction under the lock. -/
theorem Accounts.isQuiet_acquired (hpc : s.pc p = .acquired) {turn : CdrTurn P}
    (h : (parties p).turn s p .acquired = some turn) :
    IsQuiet platform (parties p).sender s p turn := by
  have target := (inv.isLocal p).target .ocpi (by rw [hpc]; rfl)
  have held := inv.exclusive p (by rw [hpc]; rfl)
  have pending : (s.pc p).pending = none := by
    rw [hpc]
    rfl
  rw [CdrAttempt.turn] at h
  split at h <;> cases h
  · rename_i sends
    have unsent : ¬ s.Stored platform := by
      rw [← target, Stored, RoamingPlatform.carries,
        Option.isNone_iff_eq_none.mp (Bool.and_eq_true_iff.mp sends).1]
      decide
    refine inv.isQuiet_of_store rfl (isLocal_of_copy rfl inv.stored ?_ ?_) (fun _ => held)
      (.inl rfl) ?_ ?_ ?_ ?_
    · exact .inr (congrArg some target)
    · rintro ⟨⟩
    · intro copy mem
      cases pending.symm.trans mem
    · rintro _ ⟨⟩
    · rintro _ _ _ ⟨⟩
      exact ⟨eq_false_of_ne_true unsent, unsent, (inv.acquired p hpc).resolve_left unsent⟩
    · rintro ⟨⟩
  · refine inv.isQuiet_of_store rfl (isLocal_of_none rfl rfl rfl) (fun _ => held) (.inl rfl) ?_ ?_
      ?_ ?_
    · intro copy mem
      cases pending.symm.trans mem
    · rintro _ ⟨⟩
    · rintro _ _ _ ⟨⟩
    · rintro ⟨⟩

omit [DecidableEq P] in
/-- A party checks its copy, and asks for the lock. -/
theorem Accounts.isQuiet_check {copy : RoamingTransaction} {updated session hasCdr : Bool}
    {other : RoamingPlatform} {skipped : CdrPc} (admits : s.Admits platform p)
    (sound : platform.IsSound copy)
    (saves : updated = true → (parties p).sender = .statusNotification)
    (pending : (s.pc p).pending = if updated then some copy else none)
    (isLocal : IsLocal platform (parties p).sender skipped) (noLock : skipped.hasLock = false)
    (passed : skipped.pending = if updated then some copy else none)
    (sends : session = true → hasCdr = false →
      other = platform ∧ copy ∈ (s.pc p).checked platform ∧ platform.carries copy = false) :
    IsQuiet platform (parties p).sender s p
      ((parties p).check s p session hasCdr (.locked other copy updated) skipped) := by
  rcases @check_cases _ s p (parties p) session hasCdr (.locked other copy updated) skipped with
    ⟨hsession, hcdr, free, same⟩ | ⟨manual, same⟩ | same <;> rw [same]
  · obtain ⟨rfl, mem, unsent⟩ := sends hsession hcdr
    refine inv.isQuiet_of_store rfl (isLocal_of_copy rfl sound (.inr rfl) saves) (fun _ => rfl)
      (.inr (.inl free)) ?_ ?_ ?_ ?_
    · intro found mem _
      rw [pending] at mem
      exact mem
    · intro found mem
      rw [pending]
      exact mem
    · rintro _ _ _ ⟨⟩
      exact ⟨unsent, admits.upToDate free copy mem unsent⟩
    · rintro ⟨⟩
  · refine inv.isQuiet_of_not_hasLock rfl (isLocal_of_none rfl rfl rfl) rfl (.inl rfl) ?_ ?_
    · intro found mem
      cases updated with
      | true => cases manual.symm.trans (saves rfl)
      | false => cases pending.symm.trans mem
    · rintro _ ⟨⟩
  · refine inv.isQuiet_of_not_hasLock rfl isLocal noLock (.inl rfl) ?_ ?_
    · intro found mem _
      rw [passed, ← pending]
      exact mem
    · intro found mem
      rw [pending, ← passed]
      exact mem

end CdrRace

end EvServer
