import EvServer.Authorization.TagGrounds

/-!
# Who may stop a transaction

A transaction is stopped with a badge at the station, or by a request that names a station and a
transaction, for which a badge of the user is taken.  The grant of a user with role basic leaves
filters in the context, and nothing on this path processes them: whoever has an active badge may
stop any transaction.  The request also stops one that runs at another station.
-/

namespace EvServer.Authorization

open AccessControl

/-- What `isAuthorizedToStopTransaction` returns. -/
structure StopUsers where
  user : Option User
  tag : Option Tag
  alternateUser : Option User := none
  alternateTag : Option Tag := none
  deriving DecidableEq

/-- `Authorizations.isAuthorizedToStopTransaction`. -/
def Authorizations.isAuthorizedToStopTransaction (acl : RoleAcl)
    (definition : AuthorizationDefinition) (tenant : Tenant) (platforms : RoamingPlatforms)
    (now : Timestamp) (chargingStation : ChargingStation) (transaction : Transaction)
    (tagID : String) (authAction : Option Action) : Check StopUsers := do
  -- Check if same user
  if tagID ≠ transaction.tagID then
    -- Check alternate User
    let result ← isTagIDAuthorizedOnChargingStation acl definition tenant platforms now
      chargingStation (some transaction) tagID authAction
    -- Get User and Tag that started the Transaction
    let organization ← Handler.read fun store => .ok store.organization
    return {
      user := UserStorage.getUserByTagID organization transaction.tagID
      tag := TagStorage.getTag organization transaction.tagID
      alternateUser := result.user
      alternateTag := result.tag }
  else
    -- Check User
    let result ← isTagIDAuthorizedOnChargingStation acl definition tenant platforms now
      chargingStation (some transaction) transaction.tagID authAction
    return { user := result.user, tag := result.tag }

/-- What a request throws. -/
inductive RequestError
  | appError (error : AppError)
  /-- `HTTPError.USER_NO_BADGE_ERROR`. -/
  | noBadge (message : String)
  | check (error : CheckError)
  deriving DecidableEq, Repr

/-- A request on the store of a tenant. -/
abbrev Request := Handler TenantStore RequestError

/-- `HttpChargingStationStopTransactionRequest`. -/
structure StopTransactionRequest where
  chargingStationID : String
  transactionId : ℕ
  deriving DecidableEq, Repr

/-- `TagStorage.getTags`, one active badge of a user: the one that has been created last. -/
def TagStorage.getActiveTag (organization : Organization) (userID : String) : Option Tag :=
  ((organization.tags.docs.filter fun tag => tag.userID = some userID ∧ tag.active).mergeSort
    fun tag tag' => tag'.createdOn ≤ tag.createdOn).head?

/-- The command that is sent to a station. -/
structure RemoteStopTransaction where
  chargingStation : ChargingStation
  transaction : Transaction
  deriving DecidableEq

namespace ChargingStationService

variable (acl : RoleAcl) (definition : AuthorizationDefinition) (tenant : Tenant)
  (platforms : RoamingPlatforms) (isConnected : String → Bool) (now : Timestamp)
  (userToken : UserToken)

/-- `executeChargingStationStopTransaction`, up to the `remotestop` of the transaction, with the
command that is sent. -/
def executeChargingStationStopTransaction (chargingStation : ChargingStation)
    (filteredRequest : StopTransactionRequest) : Request RemoteStopTransaction := do
  let organization ← Handler.read fun store => .ok store.organization
  -- Get Transaction
  match organization.transactions.find filteredRequest.transactionId with
  | none => Handler.ofExcept (throw (.appError (.objectDoesNotExist
      s!"Transaction ID '{filteredRequest.transactionId}' does not exist")))
  | some transaction =>
      -- Get default Tag
      match TagStorage.getActiveTag organization userToken.id with
      | none => Handler.ofExcept (throw (.noBadge "The user does not have any active badge"))
      | some tag =>
          -- Check if user is authorized
          let _ ← Handler.mapError .check (Authorizations.isAuthorizedToStopTransaction acl
            definition tenant platforms now chargingStation transaction tag.id
            (some .remoteStopTransaction))
          return ⟨chargingStation, transaction⟩

/-- `handleAction`, for `Command.REMOTE_STOP_TRANSACTION`. -/
def handleRemoteStopTransaction (request : StopTransactionRequest) :
    Request RemoteStopTransaction := do
  Handler.ofExcept (Outcome.refuse (request.chargingStationID = "")
    (.appError (.generalError "The ID must be provided")))
  let organization ← Handler.read fun store => .ok store.organization
  -- Get the Charging station
  let chargingStation ← Handler.mapError .appError (Handler.ofExcept
    (UtilsService.checkAndGetChargingStationAuthorization acl definition tenant organization
      userToken request.chargingStationID {}))
  -- Check auth
  Handler.ofExcept (Outcome.refuse (Authorizations.canPerformActionOnChargingStation acl definition
      userToken .remoteStopTransaction chargingStation none = false)
    (.appError (.forbidden .remoteStopTransaction .chargingStation "handleAction")))
  -- Get the OCPP Client
  Handler.ofExcept (Outcome.refuse (isConnected chargingStation.id = false)
    (.check (.backendError "handleChargingStationCommand"
      "Charging Station is not connected to the backend")))
  executeChargingStationStopTransaction acl definition tenant platforms now userToken
    chargingStation request

end ChargingStationService

/-! ## What is granted -/

section Stop

variable {acl : RoleAcl} {tenant : Tenant} {platforms : RoamingPlatforms} {now : Timestamp}
  {store : TenantStore} {chargingStation : ChargingStation} {transaction : Transaction}
  {tag : Tag} {user : User}

/-- Every user with role basic is granted a stop, in any context. -/
theorem canPerformActionOnChargingStation_stop (acl : RoleAcl) {userToken : UserToken}
    {action : Action} (stop : action = .stopTransaction ∨ action = .remoteStopTransaction)
    (basic : userToken.role = .basic) (roles : userToken.HasRoles)
    (chargingStation : ChargingStation) (context : Option AuthorizationContext) :
    Authorizations.canPerformActionOnChargingStation acl AUTHORIZATION_DEFINITION userToken action
      chargingStation context = true := by
  have granted : ((AUTHORIZATION_DEFINITION.rules userToken.rolesACL .chargingStation action).any
      fun rule => (rule.condition.bind Condition.dynamic?).isSome) = true := by
    rcases stop with rfl | rfl <;>
      rcases roles.basic_cases basic with same | same | same | same <;> rw [same] <;> decide
  obtain ⟨rule, mem, dynamic⟩ := List.any_eq_true.mp granted
  refine (acl.granted_iff _ _ _ _ _).mpr ⟨rule, mem, ?_⟩
  obtain ⟨_ | ⟨_, _, _⟩ | _ | _, attributes⟩ := rule
  · cases dynamic
  · rfl
  · cases dynamic
  · cases dynamic

/-- A local user with role basic and one of his badges, both active. -/
structure IsBasicBadge (organization : Organization) (tag : Tag) (user : User) : Prop where
  badge : IsActiveBadge organization tag.id tag user
  isLocal : user.issuer = true
  basic : user.role = .basic

/-- A station in an organisation, with access control. -/
structure IsControlled (tenant : Tenant) (organization : Organization)
    (chargingStation : ChargingStation) : Prop where
  active : Utils.isTenantComponentActive tenant .organization = true
  siteArea : ∃ siteArea, chargingStation.siteArea organization = some siteArea ∧
    siteArea.accessControl = true

theorem isChargingStationValidInOrganization_of_controlled
    (controlled : IsControlled tenant store.organization chargingStation) :
    ∃ siteArea, siteArea.accessControl = true ∧
      Authorizations.isChargingStationValidInOrganization tenant store.organization
          chargingStation =
        if chargingStation.siteID.isSome then .ok (some siteArea)
        else .error (.backendError "isTagIDAuthorizedOnChargingStation"
          s!"Site Area '{siteArea.name}' is not assigned to a Site!") := by
  obtain ⟨siteArea, area, on⟩ := controlled.siteArea
  refine ⟨siteArea, on, ?_⟩
  rcases site : chargingStation.siteID with _ | siteID <;>
    simp only [Authorizations.isChargingStationValidInOrganization, controlled.active, if_true,
      area, site] <;> rfl

/-- The badge of a user with role basic is accepted for a stop, unless the station has no site. -/
theorem isTagIDAuthorizedOnChargingStation_stop (acl : RoleAcl) {authAction : Action}
    (stop : authAction = .stopTransaction ∨ authAction = .remoteStopTransaction)
    (basicBadge : IsBasicBadge store.organization tag user)
    (controlled : IsControlled tenant store.organization chargingStation)
    (platforms : RoamingPlatforms) (now : Timestamp) (transaction : Option Transaction) :
    (Authorizations.isTagIDAuthorizedOnChargingStation acl AUTHORIZATION_DEFINITION tenant platforms
        now chargingStation transaction tag.id (some authAction) store).1.isOk ↔
      chargingStation.siteID.isSome = true := by
  obtain ⟨siteArea, on, valid⟩ := isChargingStationValidInOrganization_of_controlled controlled
  obtain ⟨badge, isLocal, basic⟩ := basicBadge
  change ((Handler.ofExcept (Authorizations.isChargingStationValidInOrganization tenant
    store.organization chargingStation) >>= _) store).1.isOk ↔ _
  rw [valid]
  by_cases site : chargingStation.siteID.isSome = true
  · rw [if_pos site, Handler.ofExcept_ok_bind, if_neg (by simp [on])]
    have tagFound : Authorizations.checkAndGetAuthorizedTag store.organization tag.id =
        .ok (some (tag, user)) := by
      simp [Authorizations.checkAndGetAuthorizedTag, badge.stored, badge.assigned, badge.active,
        Outcome.refuse, pure, Except.pure]
    have userFound : Authorizations.checkAndGetAuthorizedUserFromTag acl AUTHORIZATION_DEFINITION
        tenant store.organization chargingStation transaction tag user (some authAction) =
        .ok user := by
      have stored : store.organization.users.find user.id = some user := by
        obtain ⟨userID, _, assigned⟩ := Option.bind_eq_some_iff.mp badge.assigned
        exact Collection.find_of_mem (Collection.mem_of_find assigned)
      have roles : (Authorizations.buildUserToken tenant store.organization user
          [(tag.id, tag.active)]).HasRoles := ⟨_, _, rfl⟩
      have granted := canPerformActionOnChargingStation_stop acl stop basic roles chargingStation
      simp [Authorizations.checkAndGetAuthorizedUserFromTag, stored, badge.status, isLocal, granted,
        Outcome.refuse, pure, Except.pure]
    rw [tagFound, Handler.ofExcept_ok_bind]
    simp only []
    rw [userFound, Handler.ofExcept_ok_bind, if_pos isLocal]
    exact iff_of_true rfl site
  · rw [if_neg site, Handler.ofExcept_error_bind]
    exact iff_of_false (by simp [Except.isOk, Except.toBool]) site

theorem isAuthorizedToStopTransaction_isOk_iff (acl : RoleAcl) {authAction : Action}
    (stop : authAction = .stopTransaction ∨ authAction = .remoteStopTransaction)
    (basicBadge : IsBasicBadge store.organization tag user)
    (controlled : IsControlled tenant store.organization chargingStation)
    (platforms : RoamingPlatforms) (now : Timestamp) (transaction : Transaction) :
    (Authorizations.isAuthorizedToStopTransaction acl AUTHORIZATION_DEFINITION tenant platforms now
        chargingStation transaction tag.id (some authAction) store).1.isOk ↔
      chargingStation.siteID.isSome = true := by
  rw [← isTagIDAuthorizedOnChargingStation_stop acl stop basicBadge controlled platforms now
    (some transaction), Authorizations.isAuthorizedToStopTransaction]
  split
  · exact Handler.bind_isOk_iff fun _ _ => rfl
  · rename_i same
    rw [not_not.mp same]
    exact Handler.bind_isOk_iff fun _ _ => rfl

/-- The transaction is the user's or one with a badge of his, or the station is on a site that he
is assigned to, as an admin or not. -/
def MayStop (organization : Organization) (user : User) (chargingStation : ChargingStation)
    (transaction : Transaction) : Prop :=
  transaction.userID = some user.id ∨
    (∃ tag ∈ organization.tags.docs, tag.userID = some user.id ∧ tag.id = transaction.tagID) ∨
    ∃ siteID, chargingStation.siteID = some siteID ∧ organization.isAssigned user.id siteID

theorem getActiveTag_some {organization : Organization} {userID : String}
    (h : TagStorage.getActiveTag organization userID = some tag) :
    tag ∈ organization.tags.docs ∧ tag.userID = some userID ∧ tag.active = true := by
  have mem := List.mem_mergeSort.mp (List.mem_of_head? h)
  obtain ⟨mem, passes⟩ := List.mem_filter.mp mem
  exact ⟨mem, of_decide_eq_true passes⟩

theorem checkAndGetChargingStationAuthorization_ok {organization : Organization}
    {userToken : UserToken} {found : ChargingStation}
    (mem : chargingStation ∈ organization.chargingStations.docs)
    (h : UtilsService.checkAndGetChargingStationAuthorization acl AUTHORIZATION_DEFINITION tenant
      organization userToken chargingStation.id {} = .ok found) : found = chargingStation := by
  rw [UtilsService.checkAndGetChargingStationAuthorization] at h
  obtain ⟨_, h⟩ := Outcome.refuse_bind_eq_ok.mp h
  obtain ⟨_, h⟩ := Outcome.refuse_bind_eq_ok.mp h
  obtain ⟨_, h⟩ := Outcome.refuse_bind_eq_ok.mp h
  split at h
  · cases h
  · rename_i stored
    obtain ⟨_, h⟩ := Outcome.refuse_bind_eq_ok.mp h
    obtain rfl := Outcome.pure_eq_ok_iff.mp h
    have found := (Option.filter_eq_some_iff.mp stored).1
    rw [Collection.find_of_mem mem] at found
    exact (Option.some.inj found).symm

/-- A user with role basic who sends requests: local and active, with a token of his. -/
structure IsRequester (tenant : Tenant) (organization : Organization) (userToken : UserToken)
    (user : User) : Prop where
  issued : userToken.IsOf tenant
  ofUser : userToken.id = user.id
  role : userToken.role = .basic
  stored : organization.users.find user.id = some user
  status : user.status = .active
  isLocal : user.issuer = true
  basic : user.role = .basic

variable {userToken : UserToken}

/-- The badge that is taken for a request is one of the user's. -/
theorem isBasicBadge_of_getActiveTag
    (requester : IsRequester tenant store.organization userToken user)
    (found : TagStorage.getActiveTag store.organization userToken.id = some tag) :
    IsBasicBadge store.organization tag user := by
  obtain ⟨mem, assigned, active⟩ := getActiveTag_some found
  have ofUser : tag.user store.organization = some user := by
    rw [Tag.user, assigned, Option.bind_some, requester.ofUser, requester.stored]
  exact ⟨⟨Collection.find_of_mem mem, active, ofUser, requester.status⟩, requester.isLocal,
    requester.basic⟩

theorem executeChargingStationStopTransaction_isOk_iff (acl : RoleAcl)
    (requester : IsRequester tenant store.organization userToken user)
    (controlled : IsControlled tenant store.organization chargingStation)
    (started : transaction ∈ store.organization.transactions.docs) (platforms : RoamingPlatforms)
    (now : Timestamp) :
    (ChargingStationService.executeChargingStationStopTransaction acl AUTHORIZATION_DEFINITION
        tenant platforms now userToken chargingStation ⟨chargingStation.id, transaction.id⟩
        store).1.isOk ↔
      (TagStorage.getActiveTag store.organization userToken.id).isSome = true ∧
        chargingStation.siteID.isSome = true := by
  have found : store.organization.transactions.find transaction.id = some transaction :=
    Collection.find_of_mem started
  change ((match store.organization.transactions.find transaction.id with
    | none => _
    | some transaction => _ : Request RemoteStopTransaction) store).1.isOk = true ↔ _
  rw [found]
  rcases taken : TagStorage.getActiveTag store.organization userToken.id with _ | tag
  · dsimp only
    exact iff_of_false Bool.false_ne_true fun h => Bool.false_ne_true h.1
  · dsimp only
    rw [Handler.bind_isOk_iff fun _ _ => rfl, Handler.mapError_isOk,
      isAuthorizedToStopTransaction_isOk_iff acl (.inr rfl)
        (isBasicBadge_of_getActiveTag requester taken) controlled]
    simp

/-- When a request to stop is carried out. -/
theorem handleRemoteStopTransaction_isOk_iff (acl : RoleAcl)
    (requester : IsRequester tenant store.organization userToken user)
    (controlled : IsControlled tenant store.organization chargingStation)
    (mem : chargingStation ∈ store.organization.chargingStations.docs)
    (notDeleted : chargingStation.deleted = false)
    (started : transaction ∈ store.organization.transactions.docs) (platforms : RoamingPlatforms)
    (isConnected : String → Bool) (now : Timestamp) :
    (ChargingStationService.handleRemoteStopTransaction acl AUTHORIZATION_DEFINITION tenant
        platforms isConnected now userToken ⟨chargingStation.id, transaction.id⟩ store).1.isOk ↔
      chargingStation.isOnAssignedSite store.organization userToken = true ∧
        isConnected chargingStation.id = true ∧
        (TagStorage.getActiveTag store.organization userToken.id).isSome = true := by
  have notSuperAdmin : userToken.role ≠ .superAdmin := by simp [requester.role]
  have reads : (UtilsService.checkAndGetChargingStationAuthorization acl AUTHORIZATION_DEFINITION
      tenant store.organization userToken chargingStation.id {}).isOk = true ↔
        chargingStation.isOnAssignedSite store.organization userToken = true := by
    rw [checkAndGetChargingStationAuthorization_isOk_iff requester.issued.roles notSuperAdmin mem
      notDeleted]
    simp [requester.role, controlled.active]
  have onSite : chargingStation.isOnAssignedSite store.organization userToken = true →
      chargingStation.siteID.isSome = true := Option.isSome_of_any
  rw [← reads]
  change ((Handler.ofExcept (Outcome.refuse (chargingStation.id = "") _) >>= _) store).1.isOk ↔ _
  rw [Outcome.refuse_of_not chargingStation.ne_id.symm, Handler.ofExcept_ok_bind]
  change ((Handler.mapError RequestError.appError (Handler.ofExcept
    (UtilsService.checkAndGetChargingStationAuthorization acl AUTHORIZATION_DEFINITION tenant
      store.organization userToken chargingStation.id {})) >>= _) store).1.isOk ↔ _
  rcases read : UtilsService.checkAndGetChargingStationAuthorization acl AUTHORIZATION_DEFINITION
    tenant store.organization userToken chargingStation.id {} with error | found
  · exact iff_of_false Bool.false_ne_true fun h => Bool.false_ne_true h.1
  · obtain rfl := checkAndGetChargingStationAuthorization_ok mem read
    rw [read] at reads
    have granted := canPerformActionOnChargingStation_stop acl (.inr rfl) requester.role
      requester.issued.roles found none
    change ((Handler.ofExcept (Outcome.refuse (Authorizations.canPerformActionOnChargingStation acl
      AUTHORIZATION_DEFINITION userToken .remoteStopTransaction found none = false) _) >>=
        _) store).1.isOk ↔ _
    rw [Outcome.refuse_of_not (by simp [granted]), Handler.ofExcept_ok_bind]
    by_cases connected : isConnected found.id = true
    · rw [Outcome.refuse_of_not (by simp [connected]), Handler.ofExcept_ok_bind,
        executeChargingStationStopTransaction_isOk_iff acl requester controlled started]
      have site := onSite (reads.mp rfl)
      simp [connected, site, Except.isOk, Except.toBool]
    · have refused : ∀ error : RequestError,
          Outcome.refuse (isConnected found.id = false) error = .error error :=
        fun error => if_pos (Bool.eq_false_of_not_eq_true connected)
      rw [refused, Handler.ofExcept_error_bind]
      exact iff_of_false Bool.false_ne_true fun h => connected h.2.1

theorem isAssigned_of_isOnAssignedSite {organization : Organization}
    (h : chargingStation.isOnAssignedSite organization userToken = true) :
    ∃ siteID, chargingStation.siteID = some siteID ∧
      organization.isAssigned userToken.id siteID := by
  rw [ChargingStation.isOnAssignedSite, Option.any_eq_true] at h
  obtain ⟨siteID, site, mem⟩ := h
  obtain ⟨_, _, _, _, assigned⟩ :=
    DynamicAuthorizationFactory.mem_getAssignedSiteIDs.mp (of_decide_eq_true mem)
  exact ⟨siteID, site, assigned⟩

end Stop

/-- **Whoever has an active badge may stop any transaction** at a station with a site: this is
legitimate when the transaction is his or the site is assigned to him.  A request reaches stations
on assigned sites only, and is legitimate when the transaction runs at the station it names. -/
theorem stop_legitimate_iff (acl : RoleAcl) {tenant : Tenant} (store : TenantStore)
    (chargingStation : ChargingStation) (transaction : Transaction) {tag : Tag} {user : User}
    {userToken : UserToken} (basicBadge : IsBasicBadge store.organization tag user)
    (requester : IsRequester tenant store.organization userToken user)
    (controlled : IsControlled tenant store.organization chargingStation)
    (mem : chargingStation ∈ store.organization.chargingStations.docs)
    (notDeleted : chargingStation.deleted = false)
    (started : transaction ∈ store.organization.transactions.docs) (platforms : RoamingPlatforms)
    (isConnected : String → Bool) (now : Timestamp) :
    (((Authorizations.isAuthorizedToStopTransaction acl AUTHORIZATION_DEFINITION tenant platforms
          now chargingStation transaction tag.id (some .stopTransaction) store).1.isOk →
        MayStop store.organization user chargingStation transaction) ↔
      (chargingStation.siteID.isSome = true →
        MayStop store.organization user chargingStation transaction)) ∧
    (((ChargingStationService.handleRemoteStopTransaction acl AUTHORIZATION_DEFINITION tenant
          platforms isConnected now userToken ⟨chargingStation.id, transaction.id⟩ store).1.isOk →
        MayStop store.organization user chargingStation transaction ∧
          transaction.chargeBoxID = chargingStation.id) ↔
      (chargingStation.isOnAssignedSite store.organization userToken = true →
        isConnected chargingStation.id = true →
        (TagStorage.getActiveTag store.organization userToken.id).isSome = true →
        transaction.chargeBoxID = chargingStation.id)) := by
  rw [isAuthorizedToStopTransaction_isOk_iff acl (.inl rfl) basicBadge controlled,
    handleRemoteStopTransaction_isOk_iff acl requester controlled mem notDeleted started]
  refine ⟨Iff.rfl, ?_⟩
  constructor
  · intro legitimate onSite connected badge
    exact (legitimate ⟨onSite, connected, badge⟩).2
  · rintro sameStation ⟨onSite, connected, badge⟩
    obtain ⟨siteID, site, assigned⟩ := isAssigned_of_isOnAssignedSite onSite
    rw [requester.ofUser] at assigned
    exact ⟨.inr (.inr ⟨siteID, site, assigned⟩), sameStation onSite connected badge⟩

/-- A tenant whose user may charge on one of two sites; a transaction of somebody else runs on the
other one. -/
def twoSites : Organization where
  tags := ⟨[{ id := "tagH", userID := some "hugo" }, { id := "tagI", userID := some "ines" }],
    by decide⟩
  transactions := ⟨[{ id := 1, tagID := "tagI", userID := some "ines", chargeBoxID := "cs4" },
    { id := 2, tagID := "tagH", userID := some "hugo", chargeBoxID := "cs3" }], by decide⟩
  chargingStations := ⟨[{ id := "cs3", siteID := some "depot", siteAreaID := some "front" },
    { id := "cs4", siteID := some "yard", siteAreaID := some "back" }], by decide⟩
  sites := ⟨[{ id := "depot" }, { id := "yard" }], by decide⟩
  siteAreas := ⟨[{ id := "front", siteID := some "depot" }, { id := "back", siteID := some "yard" }],
    by decide⟩
  users := ⟨[{ id := "hugo", role := .basic }, { id := "ines", role := .basic }], by decide⟩
  userSites := [{ userID := "hugo", siteID := "depot" }]

/-- The user who may charge on one site. -/
def hugo : User := { id := "hugo", role := .basic }

/-- The station on the site that is assigned. -/
def cs3 : ChargingStation :=
  { id := "cs3", siteID := some "depot", siteAreaID := some "front" }

/-- The station on the other site. -/
def cs4 : ChargingStation := { id := "cs4", siteID := some "yard", siteAreaID := some "back" }

/-- The token of the user. -/
def hugoToken : UserToken := Authorizations.buildUserToken organizationTenant twoSites hugo []

/-- The transaction of the user. -/
def ownTransaction : Transaction :=
  { id := 2, tagID := "tagH", userID := some "hugo", chargeBoxID := "cs3" }

/-- The transaction of somebody else. -/
def otherTransaction : Transaction :=
  { id := 1, tagID := "tagI", userID := some "ines", chargeBoxID := "cs4" }

theorem isBasicBadge_hugo :
    IsBasicBadge twoSites { id := "tagH", userID := some "hugo" } hugo :=
  ⟨⟨by decide, rfl, by decide, rfl⟩, rfl, rfl⟩

theorem isRequester_hugo : IsRequester organizationTenant twoSites hugoToken hugo :=
  ⟨⟨⟨0, 0, rfl⟩, rfl⟩, rfl, rfl, by decide, rfl, rfl, rfl⟩

/-- A user stops his own transaction. -/
theorem stop_legitimate_own :
    ((Authorizations.isAuthorizedToStopTransaction (Library.inOrder conditions)
        AUTHORIZATION_DEFINITION organizationTenant {} 0 cs3 ownTransaction "tagH"
        (some .stopTransaction) ⟨twoSites, []⟩).1.isOk →
      MayStop twoSites hugo cs3 ownTransaction) ∧
    ((ChargingStationService.handleRemoteStopTransaction (Library.inOrder conditions)
        AUTHORIZATION_DEFINITION organizationTenant {} (fun _ => true) 0 hugoToken ⟨"cs3", 2⟩
        ⟨twoSites, []⟩).1.isOk →
      MayStop twoSites hugo cs3 ownTransaction ∧ ownTransaction.chargeBoxID = "cs3") := by
  obtain ⟨station, request⟩ := stop_legitimate_iff (Library.inOrder conditions)
    ⟨twoSites, []⟩ cs3 ownTransaction isBasicBadge_hugo isRequester_hugo
    ⟨rfl, { id := "front", siteID := some "depot" }, by decide, rfl⟩ (by decide) rfl (by decide) {}
    (fun _ => true) 0
  exact ⟨station.mpr fun _ => .inl rfl, request.mpr fun _ _ _ => rfl⟩

/-- At a station where he may not charge he stops the transaction of somebody else, and a request
that names another station stops it too. -/
theorem stop_not_legitimate :
    (¬ ((Authorizations.isAuthorizedToStopTransaction (Library.inOrder conditions)
        AUTHORIZATION_DEFINITION organizationTenant {} 0 cs4 otherTransaction "tagH"
        (some .stopTransaction) ⟨twoSites, []⟩).1.isOk →
      MayStop twoSites hugo cs4 otherTransaction)) ∧
    ¬ ((ChargingStationService.handleRemoteStopTransaction (Library.inOrder conditions)
        AUTHORIZATION_DEFINITION organizationTenant {} (fun _ => true) 0 hugoToken ⟨"cs3", 1⟩
        ⟨twoSites, []⟩).1.isOk →
      MayStop twoSites hugo cs3 otherTransaction ∧ otherTransaction.chargeBoxID = "cs3") := by
  constructor
  · intro legitimate
    have may := legitimate (by decide +kernel)
    simp [MayStop, otherTransaction, hugo, cs4, twoSites, Organization.isAssigned] at may
  · intro legitimate
    exact absurd (legitimate (by decide +kernel)).2 (by decide)

end EvServer.Authorization
