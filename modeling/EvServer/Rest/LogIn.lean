import EvServer.Lib.Handler
import EvServer.Lib.Runs
import EvServer.Utils

/-!
# Who activates an account (`AuthService`)

A user whose account is pending, inactive or blocked cannot log in.  But a wrong password
counts for him as for others, and too many of them lock the account: the status before is
overwritten with `LOCKED`, and when the lock ends, after a while or by a new password, the
account is active.

As long as the wrong passwords stay below the limit, the requests of this module leave the
status alone.  Writes to the database do not fail here.
-/

namespace EvServer

/-- `UserStatus`. -/
inductive UserStatus
  | pending
  | active
  | inactive
  | blocked
  | locked
  deriving DecidableEq, Repr

/-- `User`, up to what logging in does not look at. -/
structure User where
  status : UserStatus
  /-- The hash of the password. -/
  password : Option String := none
  passwordWrongNbrTrials : Option ℕ := none
  passwordBlockedUntil : Option Timestamp := none
  passwordResetHash : Option String := none
  technical : Bool := false
  deriving DecidableEq, Repr

/-- `CentralSystemRestServiceConfiguration`, and the check of a password against a hash. -/
structure AuthContext where
  passwordWrongNumberOfTrial : ℕ
  passwordBlockedWaitTimeMin : ℤ
  /-- `Utils.checkPasswordBCrypt`, or a hash of `Utils.hashPassword`. -/
  checkPassword : String → String → Bool
  hashPasswordBcrypt : String → String

/-- `HttpLoginRequest`, for a user that has been found. -/
structure HttpLoginRequest where
  password : String
  isLoggedFromUserDevice : Bool := true
  deriving DecidableEq, Repr

namespace UserStorage

/-- `UserStorage.saveUserStatus`. -/
def saveUserStatus (status : UserStatus) : Handler User String Unit :=
  Handler.write (.ok ()) fun user => { user with status := status }

/-- `UserStorage.saveUserPassword`: the parameters that are given are set. -/
def saveUserPassword (params : User → User) : Handler User String Unit :=
  Handler.write (.ok ()) params

end UserStorage

namespace AuthService

variable (context : AuthContext)

/-- `userLoginWrongPassword`. -/
def userLoginWrongPassword (now : Timestamp) (user : User) : Handler User String Unit :=
  let passwordWrongNbrTrials := user.passwordWrongNbrTrials.getD 0 + 1
  if context.passwordWrongNumberOfTrial ≤ passwordWrongNbrTrials then do
    -- Too many attempts, lock user
    UserStorage.saveUserStatus .locked
    UserStorage.saveUserPassword fun stored =>
      { stored with
        passwordWrongNbrTrials := some passwordWrongNbrTrials
        passwordBlockedUntil := some (now + 60000 * context.passwordBlockedWaitTimeMin) }
    Handler.ofExcept (.error "User is locked")
  else do
    UserStorage.saveUserPassword fun stored =>
      { stored with passwordWrongNbrTrials := some passwordWrongNbrTrials }
    Handler.ofExcept (.error "User failed to log in")

/-- `userLoginSucceeded`. -/
def userLoginSucceeded : Handler User String Unit :=
  UserStorage.saveUserPassword fun stored =>
    { stored with
      passwordWrongNbrTrials := some 0
      passwordBlockedUntil := none
      passwordResetHash := none }

/-- The check of the status of a user with the right password. -/
def checkUserStatus (user : User) (request : HttpLoginRequest) : Except String Unit :=
  match user.status with
  | .pending => .error "Account is pending! User must activate his account in his email"
  | .locked => .error "Account is locked"
  | .inactive => .error "Account is inactive"
  | .blocked => .error "Account is blocked"
  | .active =>
      if user.technical ∧ request.isLoggedFromUserDevice then
        .error "API User cannot log in to UI but only B2B"
      else .ok ()

/-- The password of the request is that of the user. -/
def matchesPassword (user : User) (request : HttpLoginRequest) : Bool :=
  user.password.any (context.checkPassword request.password)

/-- `checkUserLogin`. -/
def checkUserLogin (now : Timestamp) (user : User) (request : HttpLoginRequest) :
    Handler User String Unit :=
  if matchesPassword context user request then do
    Handler.ofExcept (checkUserStatus user request)
    userLoginSucceeded
  else userLoginWrongPassword context now user

/-- The number of trials is reached. -/
def hasReachedTrials (user : User) : Bool :=
  user.passwordWrongNbrTrials.any fun trials => context.passwordWrongNumberOfTrial ≤ trials

/-- Unlock the user once the time has elapsed. -/
def activateAgain : Handler User String Unit := do
  UserStorage.saveUserStatus .active
  UserStorage.saveUserPassword fun stored =>
    { stored with
      passwordWrongNbrTrials := some 0
      passwordBlockedUntil := none
      passwordResetHash := none }

/-- `handleLogIn`, for a user that has been read. -/
def handleLogInOf (now : Timestamp) (request : HttpLoginRequest) (user : User) :
    Handler User String Unit :=
  -- Check if the number of trials is reached
  if hasReachedTrials context user then
    if user.status = .locked then
      if user.passwordBlockedUntil.any (· < now) then do
        activateAgain
        -- Read user again
        let updatedUser ← Handler.read .ok
        checkUserLogin context now updatedUser request
      else Handler.ofExcept (.error "User is locked")
    else
      -- An admin has reactivated the account
      checkUserLogin context now
        { user with passwordWrongNbrTrials := some 0, passwordBlockedUntil := none } request
  else checkUserLogin context now user request

/-- `handleLogIn`. -/
def handleLogIn (now : Timestamp) (request : HttpLoginRequest) : Handler User String Unit := do
  let user ← Handler.read .ok
  handleLogInOf context now request user

/-- `checkAndSendResetPasswordConfirmationEmail`, by the hash that is generated. -/
def checkAndSendResetPasswordConfirmationEmail (resetHash : String) : Handler User String Unit :=
  UserStorage.saveUserPassword fun stored => { stored with passwordResetHash := some resetHash }

/-- `resetUserPassword`, for a user that has been read. -/
def resetUserPasswordOf (hash password : String) (user : User) : Handler User String Unit :=
  if user.passwordResetHash = some hash then do
    UserStorage.saveUserPassword fun stored =>
      { stored with
        password := some (context.hashPasswordBcrypt password)
        passwordWrongNbrTrials := some 0
        passwordResetHash := none
        passwordBlockedUntil := none }
    -- Unlock
    if user.status = .locked then UserStorage.saveUserStatus .active
    else return ()
  else Handler.ofExcept (.error "User with password reset hash does not exist")

/-- `resetUserPassword`. -/
def resetUserPassword (hash password : String) : Handler User String Unit := do
  let user ← Handler.read .ok
  resetUserPasswordOf context hash password user

end AuthService

/-! ## Sequences of requests -/

/-- The time, and the user in the database. -/
structure AccountState where
  now : Timestamp
  user : User
  deriving DecidableEq, Repr

/-- What happens to the account, one request after the other. -/
inductive AccountEvent
  | logIn (request : HttpLoginRequest)
  | requestPasswordReset (resetHash : String)
  | resetPassword (hash password : String)
  | wait (later : Timestamp)
  deriving DecidableEq, Repr

namespace AccountState

open AuthService

variable (context : AuthContext)

/-- The state after an event. -/
def next (s : AccountState) : AccountEvent → Option AccountState
  | .logIn request => some { s with user := (handleLogIn context s.now request s.user).2 }
  | .requestPasswordReset resetHash =>
      some { s with user := (checkAndSendResetPasswordConfirmationEmail resetHash s.user).2 }
  | .resetPassword hash password =>
      some { s with user := (resetUserPassword context hash password s.user).2 }
  | .wait later => if s.now ≤ later then some { s with now := later } else none

/-- A step of the account. -/
def Step (s : AccountState) (event : AccountEvent) (s' : AccountState) : Prop :=
  s.next context event = some s'

/-- The wrong passwords that count against a user who logs in. -/
def countedTrials (user : User) : ℕ :=
  if hasReachedTrials context user then 0 else user.passwordWrongNbrTrials.getD 0

/-- **The condition**: a wrong password does not reach the limit. -/
def StaysBelowLimit (s : AccountState) (event : AccountEvent) : Prop :=
  ∀ request, event = .logIn request → matchesPassword context s.user request = false →
    countedTrials context s.user + 1 < context.passwordWrongNumberOfTrial

instance (s : AccountState) : DecidablePred (s.StaysBelowLimit context) := fun event =>
  match event with
  | .logIn request =>
      decidable_of_iff (matchesPassword context s.user request = false →
        countedTrials context s.user + 1 < context.passwordWrongNumberOfTrial)
        ⟨fun h _ same => by cases same; exact h, fun h => h request rfl⟩
  | .requestPasswordReset _ | .resetPassword _ _ | .wait _ =>
      .isTrue (by rintro request ⟨⟩)

end AccountState

/-! ## The status -/

namespace AuthService

variable {context : AuthContext} {now : Timestamp} {request : HttpLoginRequest}

/-- A wrong password below the limit leaves the status alone. -/
theorem status_userLoginWrongPassword {user stored : User}
    (below : user.passwordWrongNbrTrials.getD 0 + 1 < context.passwordWrongNumberOfTrial) :
    (userLoginWrongPassword context now user stored).2.status = stored.status := by
  unfold userLoginWrongPassword
  rw [if_neg (not_le.mpr below)]
  rfl

/-- To check the login of a user leaves the status alone, unless a wrong password reaches the
limit. -/
theorem status_checkUserLogin {user stored : User}
    (below : matchesPassword context user request = false →
      user.passwordWrongNbrTrials.getD 0 + 1 < context.passwordWrongNumberOfTrial) :
    (checkUserLogin context now user request stored).2.status = stored.status := by
  unfold checkUserLogin
  split
  · cases hcheck : checkUserStatus user request with
    | ok _ => rfl
    | error error => rfl
  · rename_i wrong
    exact status_userLoginWrongPassword (below (Bool.eq_false_iff.mpr wrong))

/-- A user who is not locked keeps his status when he logs in. -/
theorem status_handleLogIn {user : User} (notLocked : user.status ≠ .locked)
    (below : matchesPassword context user request = false →
      AccountState.countedTrials context user + 1 < context.passwordWrongNumberOfTrial) :
    (handleLogIn context now request user).2.status = user.status := by
  change (handleLogInOf context now request user user).2.status = user.status
  unfold AccountState.countedTrials at below
  unfold handleLogInOf
  split
  · rename_i reached
    rw [if_pos reached] at below
    exact status_checkUserLogin below
  · rename_i notReached
    rw [if_neg notReached] at below
    exact status_checkUserLogin below

/-- A new password leaves the status of a user alone who is not locked. -/
theorem status_resetUserPassword {user : User} {hash password : String}
    (notLocked : user.status ≠ .locked) :
    (resetUserPassword context hash password user).2.status = user.status := by
  change (resetUserPasswordOf context hash password user user).2.status = user.status
  unfold resetUserPasswordOf
  split
  · rfl
  · rfl

end AuthService

namespace AccountState

open AuthService

variable {context : AuthContext} {s s' : AccountState} {event : AccountEvent}

/-- **One request** keeps the status of an account that is not locked. -/
theorem status_step (notLocked : s.user.status ≠ .locked)
    (below : s.StaysBelowLimit context event) (step : s.Step context event s') :
    s'.user.status = s.user.status := by
  cases event with
  | logIn request =>
      cases step
      exact status_handleLogIn notLocked (below request rfl)
  | requestPasswordReset resetHash =>
      cases step
      rfl
  | resetPassword hash password =>
      cases step
      exact status_resetUserPassword notLocked
  | wait later =>
      obtain ⟨-, h⟩ := Option.ite_none_right_eq_some.mp step
      cases h
      rfl

/-- **An account is not activated by its user.**  In every sequence of logins, waiting periods
and password resets in which no wrong password reaches the limit, an account that is
pending, inactive or blocked stays so. -/
theorem not_active_of_run {s₀ : AccountState} {events : List AccountEvent}
    (disabled : s₀.user.status = .pending ∨ s₀.user.status = .inactive ∨
      s₀.user.status = .blocked)
    (run : Transition.Run (Transition.guarded (StaysBelowLimit context) (Step context)) s₀ events
      s) : s.user.status ≠ .active ∧ s.user.status = s₀.user.status := by
  have notLocked : s₀.user.status ≠ .locked := by
    rcases disabled with h | h | h <;> rw [h] <;> decide
  have notActive : s₀.user.status ≠ .active := by
    rcases disabled with h | h | h <;> rw [h] <;> decide
  have same : s.user.status = s₀.user.status := by
    refine run.invariant (I := fun s => s.user.status = s₀.user.status) rfl ?_
    intro s event s' same step
    rw [← same] at notLocked ⊢
    exact status_step notLocked step.1 step.2
  exact ⟨same ▸ notActive, same⟩

/-! ## A pending account -/

/-- Three wrong passwords lock an account for ten minutes. -/
def exampleContext : AuthContext :=
  { passwordWrongNumberOfTrial := 3
    passwordBlockedWaitTimeMin := 10
    checkPassword := fun password hash => hash = password ++ "#"
    hashPasswordBcrypt := fun password => password ++ "#" }

/-- An account whose e-mail has not been verified. -/
def examplePending : AccountState :=
  { now := 0, user := { status := .pending, password := some "secret#" } }

/-- Two wrong passwords, the right one, and a new password. -/
def exampleVisit : List AccountEvent :=
  [.logIn ⟨"wrong", true⟩, .logIn ⟨"guess", true⟩, .logIn ⟨"secret", true⟩,
    .requestPasswordReset "hash", .resetPassword "hash" "other", .wait 700000,
    .logIn ⟨"other", true⟩]

theorem not_active_of_run_visit :
    ∃ s, Transition.Run (Transition.guarded (StaysBelowLimit exampleContext)
        (Step exampleContext)) examplePending exampleVisit s ∧
      s.user.status ≠ .active ∧ s.user.status = .pending := by
  have reached : (Transition.follow (next exampleContext)
      (fun s event _ => s.StaysBelowLimit exampleContext event) examplePending
      exampleVisit).isSome := by
    decide +kernel
  obtain ⟨s, hs⟩ := Option.isSome_iff_exists.mp reached
  have run : Transition.Run (Transition.guarded (StaysBelowLimit exampleContext)
      (Step exampleContext)) examplePending exampleVisit s :=
    .of_follow (fun _ _ _ computed admitted => ⟨admitted, computed⟩) hs
  exact ⟨s, run, not_active_of_run (.inl rfl) run⟩

/-- Three wrong passwords; ten minutes later the right one activates the account. -/
theorem active_after_lockOut :
    ∃ s, Transition.Run (Step exampleContext) examplePending
        [.logIn ⟨"wrong", true⟩, .logIn ⟨"guess", true⟩, .logIn ⟨"again", true⟩, .wait 700000,
          .logIn ⟨"secret", true⟩] s ∧ s.user.status = .active := by
  have reached : (Transition.follow (next exampleContext) (fun _ _ _ => True) examplePending
      [.logIn ⟨"wrong", true⟩, .logIn ⟨"guess", true⟩, .logIn ⟨"again", true⟩, .wait 700000,
        .logIn ⟨"secret", true⟩]).map (fun s => s.user.status) = some .active := by
    decide +kernel
  obtain ⟨s, hs, active⟩ := Option.map_eq_some_iff.mp reached
  exact ⟨s, .of_follow (fun _ _ _ computed _ => computed) hs, active⟩

end AccountState

end EvServer
