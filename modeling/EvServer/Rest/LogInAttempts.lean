import EvServer.Rest.LogIn
import Mathlib.Data.Fintype.Basic

/-!
# Wrong passwords of requests that overlap (`AuthService`)

A login reads the user, waits for the password to be checked against its hash, and writes
back the number of wrong passwords that it has read, plus one.  Other requests for the same
user do the same in between.

A request is taken apart into its accesses to the database and the check of the password;
a request that runs alone does what `handleLogIn` and `resetUserPassword` do.  The wrong
passwords that have been checked since the counter was last reset, until the account is
locked, are counted for the proofs; no request reads this number.
-/

namespace EvServer

namespace AuthService

/-- Where a request is. -/
inductive Pc
  | idle
  /-- At the start of `handleLogIn`. -/
  | reading (request : HttpLoginRequest)
  /-- Before the account of a lock that has ended is activated. -/
  | activating (request : HttpLoginRequest)
  /-- Before the counter is reset, for the same reason. -/
  | unlocking (request : HttpLoginRequest)
  /-- Before the user is read again. -/
  | rereading (request : HttpLoginRequest)
  /-- In `checkUserLogin`. -/
  | checking (request : HttpLoginRequest) (user : User)
  /-- The password was wrong, too often: before the status is saved. -/
  | locking (passwordWrongNbrTrials : ℕ)
  /-- Before the counter and the end of the lock are saved. -/
  | blocking (passwordWrongNbrTrials : ℕ)
  /-- The password was wrong: before the counter is saved. -/
  | counting (passwordWrongNbrTrials : ℕ)
  /-- The password was right: before the counter is reset. -/
  | succeeding
  /-- At the start of `resetUserPassword`. -/
  | resetting (hash password : String)
  /-- Before the new password is saved. -/
  | saving (password : String) (user : User)
  /-- Before the account is activated. -/
  | reactivating
  deriving DecidableEq, Repr

variable (context : AuthContext)

/-- The next step of a request from where it is. -/
def advance (now : Timestamp) (stored : User) : Pc → Pc × User
  | .idle => (.idle, stored)
  | .reading request =>
      if hasReachedTrials context stored then
        if stored.status = .locked then
          if stored.passwordBlockedUntil.any (· < now) then (.activating request, stored)
          else (.idle, stored)
        else
          (.checking request
            { stored with passwordWrongNbrTrials := some 0, passwordBlockedUntil := none }, stored)
      else (.checking request stored, stored)
  | .activating request => (.unlocking request, { stored with status := .active })
  | .unlocking request =>
      (.rereading request,
        { stored with
          passwordWrongNbrTrials := some 0
          passwordBlockedUntil := none
          passwordResetHash := none })
  | .rereading request => (.checking request stored, stored)
  | .checking request user =>
      if matchesPassword context user request then
        match checkUserStatus user request with
        | .ok _ => (.succeeding, stored)
        | .error _ => (.idle, stored)
      else
        let passwordWrongNbrTrials := user.passwordWrongNbrTrials.getD 0 + 1
        if context.passwordWrongNumberOfTrial ≤ passwordWrongNbrTrials then
          (.locking passwordWrongNbrTrials, stored)
        else (.counting passwordWrongNbrTrials, stored)
  | .locking passwordWrongNbrTrials =>
      (.blocking passwordWrongNbrTrials, { stored with status := .locked })
  | .blocking passwordWrongNbrTrials =>
      (.idle,
        { stored with
          passwordWrongNbrTrials := some passwordWrongNbrTrials
          passwordBlockedUntil := some (now + 60000 * context.passwordBlockedWaitTimeMin) })
  | .counting passwordWrongNbrTrials =>
      (.idle, { stored with passwordWrongNbrTrials := some passwordWrongNbrTrials })
  | .succeeding =>
      (.idle,
        { stored with
          passwordWrongNbrTrials := some 0
          passwordBlockedUntil := none
          passwordResetHash := none })
  | .resetting hash password =>
      if stored.passwordResetHash = some hash then (.saving password stored, stored)
      else (.idle, stored)
  | .saving password user =>
      (if user.status = .locked then .reactivating else .idle,
        { stored with
          password := some (context.hashPasswordBcrypt password)
          passwordWrongNbrTrials := some 0
          passwordResetHash := none
          passwordBlockedUntil := none })
  | .reactivating => (.idle, { stored with status := .active })

/-! ## A request that runs alone -/

/-- Some steps of a request, with nobody else around. -/
def advances (now : Timestamp) : ℕ → Pc × User → Pc × User
  | 0, state => state
  | steps + 1, (pc, stored) => advances now steps (advance context now stored pc)

variable {context}

@[simp] theorem advances_idle (now : Timestamp) (steps : ℕ) (stored : User) :
    advances context now steps (.idle, stored) = (.idle, stored) := by
  induction steps with
  | zero => rfl
  | succ steps ih => exact ih

theorem advances_add (now : Timestamp) (steps steps' : ℕ) (state : Pc × User) :
    advances context now (steps + steps') state =
      advances context now steps' (advances context now steps state) := by
  induction steps generalizing state with
  | zero =>
      rw [Nat.zero_add]
      rfl
  | succ steps ih =>
      rw [Nat.succ_add]
      exact ih _

/-- The check of a login alone is `checkUserLogin`. -/
theorem advances_checking (now : Timestamp) (request : HttpLoginRequest) (user stored : User) :
    advances context now 3 (.checking request user, stored) =
      (.idle, (checkUserLogin context now user request stored).2) := by
  rw [advances, advance, checkUserLogin]
  split
  · cases hcheck : checkUserStatus user request with
    | ok _ => rfl
    | error error => rfl
  · rw [userLoginWrongPassword]
    dsimp only
    split <;> rfl

/-- **A login alone** is `handleLogIn`. -/
theorem advances_reading (now : Timestamp) (request : HttpLoginRequest) (user : User) :
    advances context now 7 (.reading request, user) =
      (.idle, (handleLogIn context now request user).2) := by
  change advances context now 6 (advance context now user (.reading request)) =
    (.idle, (handleLogInOf context now request user user).2)
  have checked (checkedUser : User) :
      advances context now 6 (.checking request checkedUser, user) =
        (.idle, (checkUserLogin context now checkedUser request user).2) := by
    rw [advances_add now 3 3, advances_checking, advances_idle]
  rw [advance, handleLogInOf]
  split
  · split
    · split
      · -- The lock has ended: the account is activated and read again.
        exact advances_checking now request _ _
      · exact advances_idle now 6 user
    · exact checked _
  · exact checked user

/-- **A password reset alone** is `resetUserPassword`. -/
theorem advances_resetting (now : Timestamp) (hash password : String) (user : User) :
    advances context now 3 (.resetting hash password, user) =
      (.idle, (resetUserPassword context hash password user).2) := by
  change advances context now 2 (advance context now user (.resetting hash password)) =
    (.idle, (resetUserPasswordOf context hash password user user).2)
  rw [advance, resetUserPasswordOf]
  split
  · change advances context now 1 (advance context now user (.saving password user)) = _
    rw [advance]
    split <;> rfl
  · exact advances_idle now 2 user

end AuthService

open AuthService

/-! ## Requests that overlap -/

/-- The time, the user in the database, and where each request is. -/
structure LogInState (P : Type) where
  now : Timestamp
  user : User
  pc : P → Pc
  /-- The wrong passwords checked since the counter was last reset, until the account was
  locked. -/
  wrongPasswords : ℕ
  /-- The account has been locked since then. -/
  hasLocked : Bool

/-- What happens to the account. -/
inductive LogInEvent (P : Type)
  | logIn (p : P) (request : HttpLoginRequest)
  | resetPassword (p : P) (hash password : String)
  /-- The next step of a request. -/
  | advance (p : P)
  | requestPasswordReset (resetHash : String)
  | wait (later : Timestamp)
  deriving DecidableEq, Repr

namespace LogInState

variable {P : Type}

/-- No requests, and no wrong passwords yet. -/
def start (now : Timestamp) (user : User) : LogInState P := ⟨now, user, fun _ => .idle, 0, false⟩

variable (context : AuthContext)

/-- The wrong passwords, and whether the account has been locked, after a step of a request. -/
def count (s : LogInState P) : Pc → ℕ × Bool
  | .checking request user =>
      (if s.hasLocked || matchesPassword context user request then s.wrongPasswords
        else s.wrongPasswords + 1, s.hasLocked)
  | .locking _ => (s.wrongPasswords, true)
  -- The counter is reset.
  | .unlocking _ | .succeeding | .saving _ _ => (0, false)
  | _ => (s.wrongPasswords, s.hasLocked)

variable [DecidableEq P]

/-- The state after the next step of a request. -/
def advanced (s : LogInState P) (p : P) : LogInState P :=
  { now := s.now
    user := (AuthService.advance context s.now s.user (s.pc p)).2
    pc := Function.update s.pc p (AuthService.advance context s.now s.user (s.pc p)).1
    wrongPasswords := (s.count context (s.pc p)).1
    hasLocked := (s.count context (s.pc p)).2 }

/-- The state after an event. -/
def next (s : LogInState P) : LogInEvent P → Option (LogInState P)
  | .logIn p request =>
      if s.pc p = .idle then some { s with pc := Function.update s.pc p (.reading request) }
      else none
  | .resetPassword p hash password =>
      if s.pc p = .idle then
        some { s with pc := Function.update s.pc p (.resetting hash password) }
      else none
  | .advance p => some (s.advanced context p)
  | .requestPasswordReset resetHash =>
      some { s with user := (checkAndSendResetPasswordConfirmationEmail resetHash s.user).2 }
  | .wait later => if s.now ≤ later then some { s with now := later } else none

/-- A step. -/
def Step (s : LogInState P) (event : LogInEvent P) (s' : LogInState P) : Prop :=
  s.next context event = some s'

end LogInState

namespace AuthService

/-- The wrong password of a request that has not been written yet, as the new counter. -/
def Pc.pending : Pc → Option ℕ
  | .locking trials => some trials
  | .blocking trials => some trials
  | .counting trials => some trials
  | _ => none

/-- The password that a request is about to check, and the user it has read. -/
def Pc.attempt : Pc → Option (HttpLoginRequest × User)
  | .checking request user => some (request, user)
  | _ => none

end AuthService

namespace LogInState

variable {P : Type} (context : AuthContext)

/-- **The condition**: a request that checks a wrong password counts from the counter that is
stored, and no other wrong password is still to be written. -/
def CountsStored (s : LogInState P) (event : LogInEvent P) : Prop :=
  ∀ p, event = .advance p → ∀ attempt ∈ (s.pc p).attempt,
    matchesPassword context attempt.2 attempt.1 = false →
      (∀ q, (s.pc q).pending = none) ∧
        AccountState.countedTrials context s.user = attempt.2.passwordWrongNbrTrials.getD 0

/-- The invariant: the wrong passwords are in the counter, except for one at most that is
about to be written. -/
inductive Counts (s : LogInState P) : Prop
  | settled : (∀ q, (s.pc q).pending = none) →
      (s.hasLocked = false → s.wrongPasswords ≤ AccountState.countedTrials context s.user ∧
        s.wrongPasswords < context.passwordWrongNumberOfTrial) →
      s.wrongPasswords ≤ context.passwordWrongNumberOfTrial → Counts s
  | counting (p : P) (trials : ℕ) : s.pc p = .counting trials →
      (∀ q, q ≠ p → (s.pc q).pending = none) → trials < context.passwordWrongNumberOfTrial →
      (s.hasLocked = false → s.wrongPasswords ≤ trials) →
      s.wrongPasswords ≤ context.passwordWrongNumberOfTrial → Counts s
  | locking (p : P) (trials : ℕ) : s.pc p = .locking trials →
      (∀ q, q ≠ p → (s.pc q).pending = none) → context.passwordWrongNumberOfTrial ≤ trials →
      s.wrongPasswords ≤ context.passwordWrongNumberOfTrial → Counts s
  /-- The account is locked, unless the counter has been reset in the meantime. -/
  | blocking (p : P) (trials : ℕ) : s.pc p = .blocking trials →
      (∀ q, q ≠ p → (s.pc q).pending = none) → context.passwordWrongNumberOfTrial ≤ trials →
      (s.hasLocked = false → s.wrongPasswords = 0) →
      s.wrongPasswords ≤ context.passwordWrongNumberOfTrial → Counts s

variable {context} {s s' : LogInState P} {event : LogInEvent P}

theorem Counts.le (inv : s.Counts context) :
    s.wrongPasswords ≤ context.passwordWrongNumberOfTrial := by
  cases inv <;> assumption

theorem counts_start (positive : 0 < context.passwordWrongNumberOfTrial) (now : Timestamp)
    (user : User) : (start now user : LogInState P).Counts context :=
  .settled (fun _ => rfl) (fun _ => ⟨Nat.zero_le _, positive⟩) (Nat.zero_le _)

/-- The counter is as before, or has been reset. -/
def SameOrReset (context : AuthContext) (s s' : LogInState P) : Prop :=
  s'.wrongPasswords = s.wrongPasswords ∧ s'.hasLocked = s.hasLocked ∧
      AccountState.countedTrials context s'.user = AccountState.countedTrials context s.user ∨
    s'.wrongPasswords = 0 ∧ s'.hasLocked = false

/-- A step in which no wrong password is checked or written. -/
theorem Counts.of_sameOrReset (positive : 0 < context.passwordWrongNumberOfTrial)
    (inv : s.Counts context) (counters : SameOrReset context s s')
    (requests : ∀ q, s'.pc q = s.pc q ∨ (s.pc q).pending = none ∧ (s'.pc q).pending = none) :
    s'.Counts context := by
  have stays {q : P} (free : (s.pc q).pending = none) : (s'.pc q).pending = none := by
    rcases requests q with same | ⟨-, free'⟩
    · rw [same]
      exact free
    · exact free'
  have pending {q : P} {pc : Pc} {trials : ℕ} (hpc : s.pc q = pc)
      (hpending : pc.pending = some trials) : s'.pc q = pc := by
    rcases requests q with same | ⟨free, -⟩
    · exact same.trans hpc
    · rw [hpc, hpending] at free
      cases free
  have le : s'.wrongPasswords ≤ context.passwordWrongNumberOfTrial := by
    rcases counters with ⟨same, -, -⟩ | ⟨zero, -⟩
    · rw [same]
      exact inv.le
    · rw [zero]
      exact Nat.zero_le _
  cases inv with
  | settled free stored _ =>
      refine .settled (fun q => stays (free q)) ?_ le
      intro notLocked
      rcases counters with ⟨same, same', counted⟩ | ⟨zero, -⟩
      · rw [same, counted]
        exact stored (same'.symm.trans notLocked)
      · rw [zero]
        exact ⟨Nat.zero_le _, positive⟩
  | counting p trials hpc others below stored _ =>
      refine .counting p trials (pending hpc rfl) (fun q ne => stays (others q ne)) below ?_ le
      intro notLocked
      rcases counters with ⟨same, same', -⟩ | ⟨zero, -⟩
      · rw [same]
        exact stored (same'.symm.trans notLocked)
      · rw [zero]
        exact Nat.zero_le _
  | locking p trials hpc others reached _ =>
      exact .locking p trials (pending hpc rfl) (fun q ne => stays (others q ne)) reached le
  | blocking p trials hpc others reached stored _ =>
      refine .blocking p trials (pending hpc rfl) (fun q ne => stays (others q ne)) reached ?_ le
      intro notLocked
      rcases counters with ⟨same, same', -⟩ | ⟨zero, -⟩
      · rw [same]
        exact stored (same'.symm.trans notLocked)
      · exact zero

/-- What a step does of a request that has no wrong password to write. -/
theorem advance_of_free {pc : Pc} (free : pc.pending = none) :
    (AuthService.advance context s.now s.user pc).1.pending = none ∧
        ((s.count context pc).1 = s.wrongPasswords ∧ (s.count context pc).2 = s.hasLocked ∧
            (AuthService.advance context s.now s.user pc).2.passwordWrongNbrTrials =
              s.user.passwordWrongNbrTrials ∨
          (s.count context pc).1 = 0 ∧ (s.count context pc).2 = false) ∨
      ∃ request user, pc = .checking request user ∧
        matchesPassword context user request = false := by
  cases pc with
  | idle | activating | rereading | reactivating => exact .inl ⟨rfl, .inl ⟨rfl, rfl, rfl⟩⟩
  | unlocking | succeeding => exact .inl ⟨rfl, .inr ⟨rfl, rfl⟩⟩
  | locking | blocking | counting => cases free
  | reading request =>
      refine .inl ⟨?_, .inl ⟨rfl, rfl, ?_⟩⟩ <;> rw [AuthService.advance] <;> grind [Pc.pending]
  | checking request user =>
      cases hmatches : matchesPassword context user request with
      | false => exact .inr ⟨request, user, rfl, hmatches⟩
      | true =>
          have right : s.count context (.checking request user) =
              (s.wrongPasswords, s.hasLocked) := by
            rw [count, hmatches, Bool.or_true]
            rfl
          rw [right]
          refine .inl ⟨?_, .inl ⟨rfl, rfl, ?_⟩⟩ <;> rw [AuthService.advance, if_pos hmatches] <;>
            split <;> rfl
  | resetting hash password =>
      refine .inl ⟨?_, .inl ⟨rfl, rfl, ?_⟩⟩ <;> rw [AuthService.advance] <;> split <;> rfl
  | saving password user =>
      refine .inl ⟨?_, .inr ⟨rfl, rfl⟩⟩
      rw [AuthService.advance]
      dsimp only
      split <;> rfl

variable [DecidableEq P]

theorem countedTrials_of_eq {user user' : User}
    (same : user'.passwordWrongNbrTrials = user.passwordWrongNbrTrials) :
    AccountState.countedTrials context user' = AccountState.countedTrials context user := by
  unfold AccountState.countedTrials hasReachedTrials
  rw [same]

/-- Below the limit, what is stored is what counts. -/
theorem countedTrials_of_lt {user : User} {trials : ℕ}
    (stored : user.passwordWrongNbrTrials = some trials)
    (below : trials < context.passwordWrongNumberOfTrial) :
    AccountState.countedTrials context user = trials := by
  unfold AccountState.countedTrials hasReachedTrials
  rw [stored, Option.any_some, if_neg]
  · rfl
  · exact fun reached => absurd (of_decide_eq_true reached) (not_le.mpr below)

theorem countedTrials_le (user : User) :
    AccountState.countedTrials context user ≤ user.passwordWrongNbrTrials.getD 0 := by
  unfold AccountState.countedTrials
  split
  · exact Nat.zero_le _
  · exact le_rfl

/-- A request that writes no wrong password, and is at another place after the step. -/
theorem Counts.update (positive : 0 < context.passwordWrongNumberOfTrial)
    (inv : s.Counts context) (counters : SameOrReset context s s') {p : P} {pc' : Pc}
    (free : (s.pc p).pending = none) (free' : pc'.pending = none)
    (requests : s'.pc = Function.update s.pc p pc') : s'.Counts context := by
  refine inv.of_sameOrReset positive counters fun q => ?_
  rw [requests]
  rcases eq_or_ne q p with rfl | other
  · rw [Function.update_self]
    exact .inr ⟨free, free'⟩
  · exact .inl (Function.update_of_ne other _ _)

/-- **A wrong password is checked** when all others are in the counter. -/
theorem Counts.checking (inv : s.Counts context) {p : P} {request : HttpLoginRequest}
    {user : User} (hpc : s.pc p = .checking request user)
    (wrong : matchesPassword context user request = false)
    (free : ∀ q, (s.pc q).pending = none)
    (counted : AccountState.countedTrials context s.user = user.passwordWrongNbrTrials.getD 0) :
    (s.advanced context p).Counts context := by
  have others (pc' : Pc) : ∀ q, q ≠ p → (Function.update s.pc p pc' q).pending = none := by
    intro q other
    rw [Function.update_of_ne other]
    exact free q
  have notMatches : ¬ matchesPassword context user request = true := by
    rw [wrong]
    exact Bool.false_ne_true
  -- Until the account is locked, one more wrong password has been checked.
  have one_more : (s.hasLocked = false → (s.advanced context p).wrongPasswords ≤
        user.passwordWrongNbrTrials.getD 0 + 1) ∧
      (s.advanced context p).wrongPasswords ≤ context.passwordWrongNumberOfTrial := by
    change (s.hasLocked = false → (s.count context (s.pc p)).1 ≤ _) ∧
      (s.count context (s.pc p)).1 ≤ _
    rw [hpc, count, wrong, Bool.or_false]
    cases hlocked : s.hasLocked with
    | true => exact ⟨nofun, inv.le⟩
    | false =>
        cases inv with
        | settled _ stored _ =>
            obtain ⟨le, lt⟩ := stored hlocked
            exact ⟨fun _ => Nat.succ_le_succ (counted ▸ le), lt⟩
        | counting q _ hq | locking q _ hq | blocking q _ hq =>
            cases (congrArg Pc.pending hq).symm.trans (free q)
  have sameLocked : (s.advanced context p).hasLocked = s.hasLocked := by
    change (s.count context (s.pc p)).2 = s.hasLocked
    rw [hpc]
    rfl
  have place (pc' : Pc)
      (h : (AuthService.advance context s.now s.user (.checking request user)).1 = pc') :
      (s.advanced context p).pc = Function.update s.pc p pc' := by
    rw [← h, ← hpc]
    rfl
  by_cases reached : context.passwordWrongNumberOfTrial ≤
      user.passwordWrongNbrTrials.getD 0 + 1
  · have there := place (.locking (user.passwordWrongNbrTrials.getD 0 + 1)) (by
      rw [AuthService.advance, if_neg notMatches, if_pos reached])
    refine .locking p _ ?_ ?_ reached one_more.2
    · rw [there, Function.update_self]
    · rw [there]
      exact others _
  · have there := place (.counting (user.passwordWrongNbrTrials.getD 0 + 1)) (by
      rw [AuthService.advance, if_neg notMatches, if_neg reached])
    refine .counting p _ ?_ ?_ (not_le.mp reached) ?_ one_more.2
    · rw [there, Function.update_self]
    · rw [there]
      exact others _
    · rw [sameLocked]
      exact one_more.1

/-- **A wrong password is written.** -/
theorem Counts.writing (inv : s.Counts context) (positive : 0 < context.passwordWrongNumberOfTrial)
    {p : P} {trials : ℕ} (pending : (s.pc p).pending = some trials) :
    (s.advanced context p).Counts context := by
  -- It is the one that is about to be written.
  have same {q : P} (others : ∀ r, r ≠ q → (s.pc r).pending = none) : p = q := by
    by_contra other
    cases pending.symm.trans (others p other)
  have free (pc' : Pc) (free' : pc'.pending = none)
      (others : ∀ r, r ≠ p → (s.pc r).pending = none) (q : P) :
      (Function.update s.pc p pc' q).pending = none := by
    rcases eq_or_ne q p with rfl | other
    · rw [Function.update_self]
      exact free'
    · rw [Function.update_of_ne other]
      exact others q other
  cases inv with
  | settled free => cases pending.symm.trans (free p)
  | counting q trials hpc others below stored le =>
      obtain rfl := same others
      have after : s.advanced context p =
          { s with
            user := { s.user with passwordWrongNbrTrials := some trials }
            pc := Function.update s.pc p .idle } := by
        rw [advanced, hpc]
        rfl
      rw [after]
      refine .settled (free .idle rfl others) (fun notLocked => ?_) le
      rw [countedTrials_of_lt rfl below]
      exact ⟨stored notLocked, (stored notLocked).trans_lt below⟩
  | locking q trials hpc others reached le =>
      obtain rfl := same others
      have after : s.advanced context p =
          { s with
            user := { s.user with status := .locked }
            pc := Function.update s.pc p (.blocking trials)
            hasLocked := true } := by
        rw [advanced, hpc]
        rfl
      rw [after]
      refine .blocking p trials (Function.update_self _ _ _) ?_ reached nofun le
      intro q other
      exact (congrArg Pc.pending (Function.update_of_ne other _ _)).trans (others q other)
  | blocking q trials hpc others reached stored le =>
      obtain rfl := same others
      have after : s.advanced context p =
          { s with
            user := { s.user with
              passwordWrongNbrTrials := some trials
              passwordBlockedUntil :=
                some (s.now + 60000 * context.passwordBlockedWaitTimeMin) }
            pc := Function.update s.pc p .idle } := by
        rw [advanced, hpc]
        rfl
      rw [after]
      refine .settled (free .idle rfl others) (fun notLocked => ?_) le
      have zero : s.wrongPasswords = 0 := stored notLocked
      change s.wrongPasswords ≤ _ ∧ s.wrongPasswords < _
      rw [zero]
      exact ⟨Nat.zero_le _, positive⟩

/-- **A step keeps the invariant.** -/
theorem Counts.step (positive : 0 < context.passwordWrongNumberOfTrial) (inv : s.Counts context)
    (guard : s.CountsStored context event) (step : s.Step context event s') :
    s'.Counts context := by
  cases event with
  | logIn p request =>
      obtain ⟨idle, h⟩ := Option.ite_none_right_eq_some.mp step
      cases h
      exact inv.update positive (.inl ⟨rfl, rfl, rfl⟩) (idle ▸ rfl) rfl rfl
  | resetPassword p hash password =>
      obtain ⟨idle, h⟩ := Option.ite_none_right_eq_some.mp step
      cases h
      exact inv.update positive (.inl ⟨rfl, rfl, rfl⟩) (idle ▸ rfl) rfl rfl
  | requestPasswordReset resetHash =>
      cases step
      exact inv.of_sameOrReset positive (.inl ⟨rfl, rfl, rfl⟩) fun _ => .inl rfl
  | wait later =>
      obtain ⟨-, h⟩ := Option.ite_none_right_eq_some.mp step
      cases h
      exact inv.of_sameOrReset positive (.inl ⟨rfl, rfl, rfl⟩) fun _ => .inl rfl
  | advance p =>
      cases step
      cases hpending : (s.pc p).pending with
      | some trials => exact inv.writing positive hpending
      | none =>
          rcases @advance_of_free _ context s _ hpending with ⟨free', counters⟩ |
            ⟨request, user, hpc, wrong⟩
          · refine inv.update positive ?_ hpending free' rfl
            exact counters.imp_left fun ⟨same, same', trials⟩ =>
              ⟨same, same', countedTrials_of_eq trials⟩
          · have attempt : (request, user) ∈ (s.pc p).attempt := by
              rw [hpc]
              rfl
            obtain ⟨free, counted⟩ := guard p rfl _ attempt wrong
            exact inv.checking hpc wrong free counted

/-- **Overlapping logins.**  In every run of logins and password resets of one user, in any
interleaving, in which a wrong password counts from the counter that is stored, with no other
one still to be written, at most the allowed number of wrong passwords is checked before the
account is locked, and all those that have been written are in the counter. -/
theorem wrongPasswords_le_of_run (positive : 0 < context.passwordWrongNumberOfTrial)
    {now : Timestamp} {user : User} {events : List (LogInEvent P)}
    (run : Transition.Run (Transition.guarded (CountsStored context) (Step context))
      (start now user) events s) :
    s.wrongPasswords ≤ context.passwordWrongNumberOfTrial ∧
      (s.hasLocked = false → (∀ p, (s.pc p).pending = none) →
        s.wrongPasswords ≤ s.user.passwordWrongNbrTrials.getD 0) := by
  have inv : s.Counts context := run.invariant (counts_start positive now user)
    fun _ _ _ inv step => inv.step positive step.1 step.2
  refine ⟨inv.le, fun notLocked free => ?_⟩
  cases inv with
  | settled _ stored _ => exact (stored notLocked).1.trans (countedTrials_le s.user)
  | counting p _ hpc | locking p _ hpc | blocking p _ hpc =>
      cases (congrArg Pc.pending hpc).symm.trans (free p)

/-! ## Four wrong passwords -/

instance [Fintype P] (s : LogInState P) : DecidablePred (s.CountsStored context) := fun event =>
  match event with
  | .advance p =>
      decidable_of_iff (∀ attempt ∈ (s.pc p).attempt,
          matchesPassword context attempt.2 attempt.1 = false →
            (∀ q, (s.pc q).pending = none) ∧
              AccountState.countedTrials context s.user =
                attempt.2.passwordWrongNbrTrials.getD 0)
        ⟨fun h _ same => by cases same; exact h, fun h => h p rfl⟩
  | .logIn _ _ | .resetPassword _ _ _ | .requestPasswordReset _ | .wait _ =>
      .isTrue (by rintro p ⟨⟩)

/-- An active account. -/
def exampleUser : User := { status := .active, password := some "secret#" }

/-- A request with a wrong password, up to the write of the counter. -/
def exampleAttempt (p : Fin 4) : List (LogInEvent (Fin 4)) :=
  [.logIn p ⟨"wrong", true⟩, .advance p, .advance p, .advance p]

/-- One after the other, three wrong passwords lock the account. -/
theorem wrongPasswords_le_of_run_sequential :
    ∃ s : LogInState (Fin 4), s.user.status = .locked ∧ s.wrongPasswords = 3 ∧
      s.wrongPasswords ≤ AccountState.exampleContext.passwordWrongNumberOfTrial := by
  have reached : (Transition.follow (next AccountState.exampleContext)
      (fun s event _ => s.CountsStored AccountState.exampleContext event) (start 0 exampleUser)
      (exampleAttempt 0 ++ exampleAttempt 1 ++ exampleAttempt 2)).map
        (fun s => (s.user.status, s.wrongPasswords)) = some (.locked, 3) := by
    decide +kernel
  obtain ⟨s, hs, holds⟩ := Option.map_eq_some_iff.mp reached
  obtain ⟨locked, three⟩ := Prod.mk.inj holds
  have run : Transition.Run (Transition.guarded (CountsStored AccountState.exampleContext)
      (Step AccountState.exampleContext)) (start 0 exampleUser)
      (exampleAttempt 0 ++ exampleAttempt 1 ++ exampleAttempt 2) s :=
    .of_follow (fun _ _ _ computed admitted => ⟨admitted, computed⟩) hs
  exact ⟨s, locked, three, (wrongPasswords_le_of_run (by decide) run).1⟩

/-- Four requests read the user before one of them has written its counter: four wrong
passwords are checked, one is counted. -/
theorem wrongPasswords_lost :
    ∃ s : LogInState (Fin 4), ∃ events,
      Transition.Run (Step AccountState.exampleContext) (start 0 exampleUser) events s ∧
      AccountState.exampleContext.passwordWrongNumberOfTrial < s.wrongPasswords ∧
      s.hasLocked = false ∧ s.user.status = .active ∧
      s.user.passwordWrongNbrTrials = some 1 := by
  have reached : (Transition.follow (next AccountState.exampleContext) (fun _ _ _ => True)
      (start 0 exampleUser)
      ((List.finRange 4).map (fun p => .logIn p ⟨"wrong", true⟩) ++
        (List.finRange 4).map .advance ++ (List.finRange 4).map .advance ++
        (List.finRange 4).map .advance)).map
          (fun s => (s.wrongPasswords, s.hasLocked, s.user.status,
            s.user.passwordWrongNbrTrials)) = some (4, false, .active, some 1) := by
    decide +kernel
  obtain ⟨s, hs, holds⟩ := Option.map_eq_some_iff.mp reached
  simp only [Prod.mk.injEq] at holds
  obtain ⟨four, notLocked, active, one⟩ := holds
  refine ⟨s, _, .of_follow (fun _ _ _ computed _ => computed) hs, ?_, notLocked, active, one⟩
  rw [four]
  decide

end LogInState

end EvServer
