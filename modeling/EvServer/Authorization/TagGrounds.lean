import EvServer.Authorization.TagAuthorization

/-!
# On what grounds a badge is accepted

Each helper of the check is taken apart once, by what it has found when it succeeds.  An
Authorize or a StartTransaction that is accepted has one of four grounds: the site area has no
access control, the badge is that of a local user who is granted the action, it is that of a user
of another operator whom the platform has authorized, or nobody knows it and OICP has.
-/

namespace EvServer.Authorization

open AccessControl

/-- `OCPPStartTransactionRequestExtended`, once it is validated. -/
structure OCPPStartTransaction where
  connectorId : ℕ
  idTag : String
  ne_idTag : "" ≠ idTag := by decide
  timestamp : Timestamp
  deriving Repr

/-- `OCPPService.createTransaction`, with the ID that is available. -/
def OCPPService.createTransaction (tenant : Tenant) (chargingStation : ChargingStation) (id : ℕ)
    (startTransaction : OCPPStartTransaction) : Transaction where
  id := id
  chargeBoxID := chargingStation.id
  tagID := startTransaction.idTag
  connectorId := startTransaction.connectorId
  timestamp := startTransaction.timestamp
  -- Set the Organization IDs
  siteID := if Utils.isTenantComponentActive tenant .organization then chargingStation.siteID
    else none
  siteAreaID := if Utils.isTenantComponentActive tenant .organization then
      chargingStation.siteAreaID
    else none

/-- A remote authorization of the token that is still valid. -/
structure RemoteAuthorization.IsValidFor (now : Timestamp)
    (uid : String) (remoteAuthorization : RemoteAuthorization) : Prop where
  valid : now - Constants.roamingAuthorizationTimeout < remoteAuthorization.timestamp
  token : remoteAuthorization.tagId = uid

/-! ## What each step has found -/

namespace Authorizations

variable {acl : RoleAcl} {definition : AuthorizationDefinition} {tenant : Tenant}
  {platforms : RoamingPlatforms} {now : Timestamp} {organization : Organization}
  {store store' : TenantStore} {chargingStation : ChargingStation}
  {transaction : Option Transaction} {tagID : String} {tag : Tag} {user tagUser : User}

theorem isChargingStationValidInOrganization_ok {siteArea : Option SiteArea}
    (h : isChargingStationValidInOrganization tenant organization chargingStation = .ok siteArea) :
    (Utils.isTenantComponentActive tenant .organization = true →
      chargingStation.siteID.isSome ∧ siteArea.isSome) ∧
    ∀ area, siteArea = some area → chargingStation.siteArea organization = some area := by
  rw [isChargingStationValidInOrganization] at h
  split at h
  · split at h
    · cases h
    · rename_i area found
      obtain ⟨site, h⟩ := Outcome.refuse_bind_eq_ok.mp h
      obtain rfl := Outcome.pure_eq_ok_iff.mp h
      refine ⟨fun _ => ⟨Option.isSome_iff_ne_none.mpr site, rfl⟩, ?_⟩
      rintro _ ⟨⟩
      exact found
  · rename_i inactive
    obtain rfl := Outcome.pure_eq_ok_iff.mp h
    exact ⟨fun active => absurd active inactive, fun _ none => absurd none (by simp)⟩

theorem checkAndGetAuthorizedTag_ok {found : Option (Tag × User)}
    (h : checkAndGetAuthorizedTag organization tagID = .ok found) :
    (found = none ∧ TagStorage.getTag organization tagID = none) ∨
      ∃ tag user, found = some (tag, user) ∧ TagStorage.getTag organization tagID = some tag ∧
        tag.active = true ∧ tag.user organization = some user := by
  rw [checkAndGetAuthorizedTag] at h
  split at h
  · rename_i unknown
    exact .inl ⟨(Outcome.pure_eq_ok_iff.mp h).symm, unknown⟩
  · rename_i tag known
    obtain ⟨active, h⟩ := Outcome.refuse_bind_eq_ok.mp h
    split at h
    · cases h
    · rename_i user assigned
      exact .inr ⟨tag, user, (Outcome.pure_eq_ok_iff.mp h).symm, known,
        Bool.eq_true_of_not_eq_false active, assigned⟩

/-- The OICP platform has authorized a badge, or it belongs to a session that is running or
remote. -/
def IsAuthorizedByOICP (tenant : Tenant) (platforms : RoamingPlatforms)
    (transaction : Option Transaction) (tagID : String) : Prop :=
  Utils.isTenantComponentActive tenant .oicp = true ∧
    (tagID = OICPDefaultTagId.remoteIdentification ∨
      (∃ running sessionID, transaction = some running ∧
        running.oicpSessionID = some sessionID) ∨
      ∃ authorizeStart response, platforms.oicpClient = some authorizeStart ∧
        authorizeStart tagID = .ok (some response) ∧ response.AuthorizationStatus = .Authorized)

theorem checkAndGetOICPAuthorizedUser_ok
    (h : checkAndGetOICPAuthorizedUser tenant platforms organization transaction tagID =
      .ok (some user)) : IsAuthorizedByOICP tenant platforms transaction tagID := by
  simp only [checkAndGetOICPAuthorizedUser] at h
  split at h
  · cases h
  · rename_i active
    refine ⟨Bool.eq_true_of_not_eq_false active, ?_⟩
    split at h
    · rename_i session
      refine session.imp_right fun running => .inl ?_
      obtain ⟨sessionID, found⟩ := Option.isSome_iff_exists.mp running
      obtain ⟨running, same, found⟩ := Option.bind_eq_some_iff.mp found
      exact ⟨running, sessionID, same, found⟩
    · split at h
      · cases h
      · rename_i authorizeStart client
        obtain ⟨response, answered, h⟩ := Outcome.bind_eq_ok.mp h
        split at h
        · cases h
        · split at h
          · rename_i authorized
            exact .inr (.inr ⟨authorizeStart, _, client, answered, authorized⟩)
          · cases h

theorem checkAndGetAuthorizedUserFromTag_ok {authAction : Option Action}
    (h : checkAndGetAuthorizedUserFromTag acl definition tenant organization chargingStation
      transaction tag tagUser authAction = .ok user) :
    organization.users.find tagUser.id = some user ∧ user.status = .active ∧
      (user.issuer = true → ∀ action, authAction = some action →
        canPerformActionOnChargingStation acl definition
          (buildUserToken tenant organization user [(tag.id, tag.active)]) action chargingStation
          (tagContext (buildUserToken tenant organization user [(tag.id, tag.active)])
            chargingStation transaction) = true) := by
  rw [checkAndGetAuthorizedUserFromTag] at h
  split at h
  · cases h
  · rename_i stored found
    obtain ⟨active, h⟩ := Outcome.refuse_bind_eq_ok.mp h
    have status : stored.status = .active := not_not.mp active
    split at h
    · split at h
      · obtain rfl := Outcome.pure_eq_ok_iff.mp h
        exact ⟨found, status, fun _ _ none => absurd none (by simp)⟩
      · obtain ⟨granted, h⟩ := Outcome.refuse_bind_eq_ok.mp h
        obtain rfl := Outcome.pure_eq_ok_iff.mp h
        refine ⟨found, status, fun _ action same => ?_⟩
        cases same
        exact Bool.eq_true_of_not_eq_false granted
    · rename_i roaming
      obtain rfl := Outcome.pure_eq_ok_iff.mp h
      exact ⟨found, status, fun isLocal => absurd isLocal roaming⟩

/-! ## Users of other operators -/

variable {uid : String} {found : Option RemoteAuthorization}
  {remoteAuthorization : RemoteAuthorization} {remoteAuthorizations kept : List RemoteAuthorization}

theorem findRemoteAuthorization_spec
    (h : findRemoteAuthorization now uid remoteAuthorizations = (found, kept)) :
    (∀ remoteAuthorization, found = some remoteAuthorization →
      remoteAuthorization ∈ remoteAuthorizations ∧ remoteAuthorization.IsValidFor now uid) ∧
    kept ⊆ remoteAuthorizations := by
  induction remoteAuthorizations generalizing kept with
  | nil =>
      cases h
      exact ⟨fun _ none => absurd none (by simp), List.Subset.refl _⟩
  | cons first rest ih =>
      rw [findRemoteAuthorization] at h
      split at h
      · rename_i valid
        split at h
        · rename_i same
          cases h
          refine ⟨?_, List.Subset.refl _⟩
          rintro _ ⟨⟩
          exact ⟨List.mem_cons_self, of_decide_eq_true valid, same⟩
        · cases h
          obtain ⟨isFound, isKept⟩ := ih rfl
          refine ⟨fun _ same => ?_, List.cons_subset_cons _ isKept⟩
          exact ⟨List.mem_cons_of_mem _ (isFound _ same).1, (isFound _ same).2⟩
      · obtain ⟨isFound, isKept⟩ := ih h
        exact ⟨fun _ same => ⟨List.mem_cons_of_mem _ (isFound _ same).1, (isFound _ same).2⟩,
          List.subset_cons_of_subset _ isKept⟩

/-- Where the authorization ID of a token comes from: a remote command that has started a session
and is kept at the station, an Authorize with the badge that has been saved with an ID which no
transaction has, or the platform, which is asked now. -/
inductive OCPIAuthorization (platforms : RoamingPlatforms) (now : Timestamp) (store : TenantStore)
    (chargingStation : ChargingStation) (transaction : Option Transaction)
    (authAction : Action) (uid authorizationID : String) : Prop
  | remoteStart (remoteAuthorization : RemoteAuthorization) (action : authAction = .authorize)
      (stored : remoteAuthorization ∈ chargingStation.remoteAuthorizations)
      (valid : remoteAuthorization.IsValidFor now uid)
      (named : remoteAuthorization.id = authorizationID)
  | authorize (starting : Transaction) (authorize : OCPPAuthorize)
      (action : authAction = .startTransaction)
      (starts : transaction = some starting)
      (stored : authorize ∈ store.authorizes)
      (station : starting.chargeBoxID ≠ "" → authorize.chargeBoxID = starting.chargeBoxID)
      (badge : starting.tagID ≠ "" → authorize.tagID = starting.tagID)
      (valid : starting.timestamp - Constants.roamingAuthorizationTimeout ≤ authorize.timestamp)
      (named : authorize.authorizationId = some authorizationID)
      (unused : TransactionStorage.getOCPITransactionByAuthorizationID store.organization
        authorizationID = none)
  | requested (post : String → ChargingStation → ℕ →
        Except CheckError (Option OCPIAuthorizationInfo))
      (connectorId : ℕ) (authorizationInfo : OCPIAuthorizationInfo)
      (client : platforms.ocpiClient = some post)
      (answer : post uid chargingStation connectorId = .ok (some authorizationInfo))
      (allowed : authorizationInfo.allowed = .allowed)
      (named : authorizationInfo.authorization_id = some authorizationID)

section Roaming

variable {post : String → ChargingStation → ℕ → Except CheckError (Option OCPIAuthorizationInfo)}
  {connector : Option ℕ} {authAction : Action} {authorizationID : String}

theorem authorizeToken_ok
    (h : CpoOCPIClient.authorizeToken post uid chargingStation connector = .ok authorizationID) :
    ∃ connectorId authorizationInfo,
      post uid chargingStation connectorId = .ok (some authorizationInfo) ∧
      authorizationInfo.allowed = .allowed ∧
      authorizationInfo.authorization_id = some authorizationID ∧ authorizationID ≠ "" := by
  obtain _ | connectorId := connector
  · cases h
  · obtain ⟨answer, answered, h⟩ := Outcome.bind_eq_ok.mp h
    obtain _ | authorizationInfo := answer
    · cases h
    · obtain ⟨allowed, h⟩ := Outcome.refuse_bind_eq_ok.mp h
      split at h
      · cases h
      · rename_i named
        obtain rfl := Outcome.pure_eq_ok_iff.mp h
        obtain ⟨named, notEmpty⟩ := Option.filter_eq_some_iff.mp named
        exact ⟨connectorId, authorizationInfo, answered, not_not.mp allowed, named,
          of_decide_eq_true notEmpty⟩

theorem withAuthorizationID_ok {found : Option String} {user' : User}
    (h : withAuthorizationID post uid chargingStation connector user found = .ok user') :
    ∃ id, user' = { user with authorizationID := some id } ∧ id ≠ "" ∧
      (found = some id ∨
        CpoOCPIClient.authorizeToken post uid chargingStation connector = .ok id) := by
  rw [withAuthorizationID] at h
  split at h
  · rename_i id given
    obtain ⟨given, notEmpty⟩ := Option.filter_eq_some_iff.mp given
    exact ⟨id, (Outcome.pure_eq_ok_iff.mp h).symm, of_decide_eq_true notEmpty, .inl given⟩
  · obtain ⟨id, authorized, h⟩ := Outcome.bind_eq_ok.mp h
    obtain ⟨_, _, _, _, _, notEmpty⟩ := authorizeToken_ok authorized
    exact ⟨id, (Outcome.pure_eq_ok_iff.mp h).symm, notEmpty, .inr authorized⟩

theorem checkAndGetOCPIAuthorizationIDFromIOPRemoteStartTransaction_ok {found : Option String}
    (h : checkAndGetOCPIAuthorizationIDFromIOPRemoteStartTransaction now chargingStation connector
      uid store = (.ok found, store')) :
    (∀ id, found = some id → ∃ remoteAuthorization ∈ chargingStation.remoteAuthorizations,
      remoteAuthorization.IsValidFor now uid ∧ remoteAuthorization.id = id) ∧
    (store' = store ∨ ∃ kept ⊆ chargingStation.remoteAuthorizations,
      store' = ChargingStationStorage.saveChargingStationRemoteAuthorizations chargingStation.id
        kept store) := by
  rw [checkAndGetOCPIAuthorizationIDFromIOPRemoteStartTransaction] at h
  rcases spec : findRemoteAuthorization now uid chargingStation.remoteAuthorizations.reverse with
    ⟨remote, kept⟩
  obtain ⟨isFound, isKept⟩ := findRemoteAuthorization_spec spec
  simp only [spec] at h
  obtain ⟨_, _, h⟩ := Handler.ofExcept_bind_eq_ok.mp h
  obtain ⟨_, written, write, h⟩ := Handler.bind_apply_eq_ok.mp h
  obtain ⟨_, rfl⟩ := Handler.write_eq_ok.mp write
  rw [Handler.pure_apply, Prod.mk.injEq, Except.ok.injEq] at h
  obtain ⟨rfl, rfl⟩ := h
  constructor
  · intro id named
    obtain ⟨remoteAuthorization, some, named⟩ := Option.map_eq_some_iff.mp named
    obtain ⟨stored, valid⟩ := isFound remoteAuthorization some
    exact ⟨remoteAuthorization, List.mem_reverse.mp stored, valid, named⟩
  · split
    · refine .inr ⟨kept.reverse, ?_, rfl⟩
      exact fun _ mem => List.mem_reverse.mp (isKept (List.mem_reverse.mp mem))
    · exact .inl rfl

theorem checkAndGetOCPIAuthorizationIDFromOCPPAuthorize_some {starting : Transaction}
    (starts : transaction = some starting) (action : authAction = .startTransaction)
    (h : checkAndGetOCPIAuthorizationIDFromOCPPAuthorize starting store = some authorizationID) :
    OCPIAuthorization platforms now store chargingStation transaction authAction uid
      authorizationID := by
  obtain ⟨authorize, mem, h⟩ := List.exists_of_findSome?_eq_some h
  obtain ⟨named, unused⟩ := Option.filter_eq_some_iff.mp h
  obtain ⟨named, _⟩ := Option.filter_eq_some_iff.mp named
  rw [OCPPStorage.getAuthorizes, List.mem_mergeSort] at mem
  obtain ⟨mem, passes⟩ := List.mem_filter.mp mem
  obtain ⟨valid, station, badge⟩ := of_decide_eq_true passes
  exact .authorize starting authorize action starts mem station badge valid named
    (Option.isNone_iff_eq_none.mp unused)

theorem checkOCPIAuthorizedUser_ok {user' : User}
    (h : checkOCPIAuthorizedUser tenant platforms now chargingStation transaction tag user
      (some authAction) store = (.ok user', store'))
    (action : authAction = .authorize ∨ authAction = .startTransaction) :
    ∃ uid authorizationID, tag.ocpiToken = some uid ∧ chargingStation.isPublic = true ∧
      Utils.isTenantComponentActive tenant .ocpi = true ∧
      user' = { user with authorizationID := some authorizationID } ∧ authorizationID ≠ "" ∧
      OCPIAuthorization platforms now store chargingStation transaction authAction uid
        authorizationID ∧
      (store' = store ∨ ∃ kept ⊆ chargingStation.remoteAuthorizations,
        store' = ChargingStationStorage.saveChargingStationRemoteAuthorizations chargingStation.id
          kept store) := by
  rw [checkOCPIAuthorizedUser] at h
  obtain ⟨_, active, h⟩ := Handler.ofExcept_bind_eq_ok.mp h
  have active := Bool.eq_true_of_not_eq_false (Outcome.refuse_eq_ok.mp active)
  rcases token : tag.ocpiToken with _ | uid <;> simp only [token] at h
  · cases h
  · obtain ⟨_, isPublic, h⟩ := Handler.ofExcept_bind_eq_ok.mp h
    have isPublic := Bool.eq_true_of_not_eq_false (Outcome.refuse_eq_ok.mp isPublic)
    rcases client : platforms.ocpiClient with _ | post <;> simp only [client] at h
    · cases h
    · -- The ID that is found, or one that is requested
      have source : ∀ {found : Option String} {s : TenantStore},
          Handler.ofExcept (withAuthorizationID post uid chargingStation
            (connectorOf chargingStation transaction) user found) s = (.ok user', store') →
          (∀ id, found = some id → OCPIAuthorization platforms now store chargingStation
            transaction authAction uid id) →
          s = store' ∧ ∃ id, user' = { user with authorizationID := some id } ∧ id ≠ "" ∧
            OCPIAuthorization platforms now store chargingStation transaction authAction uid
              id := by
        intro found s h isFound
        obtain ⟨computed, rfl⟩ := Handler.ofExcept_eq_ok.mp h
        obtain ⟨id, same, notEmpty, some | requested⟩ := withAuthorizationID_ok computed
        · exact ⟨rfl, id, same, notEmpty, isFound id some⟩
        · obtain ⟨connectorId, info, answer, allowed, named, _⟩ := authorizeToken_ok requested
          exact ⟨rfl, id, same, notEmpty,
            .requested post connectorId info client answer allowed named⟩
      rcases action with rfl | rfl
      · obtain ⟨found, between, checked, h⟩ := Handler.bind_apply_eq_ok.mp h
        obtain ⟨isFound, changes⟩ :=
          checkAndGetOCPIAuthorizationIDFromIOPRemoteStartTransaction_ok checked
        obtain ⟨rfl, id, same, notEmpty, from_⟩ := source h fun id named => by
          obtain ⟨remoteAuthorization, stored, valid, named⟩ := isFound id named
          exact .remoteStart remoteAuthorization rfl stored valid named
        exact ⟨uid, id, rfl, isPublic, active, same, notEmpty, from_, changes⟩
      · obtain _ | starting := transaction
        · cases h
        · obtain ⟨found, read, h⟩ := Handler.read_bind_eq_ok.mp h
          cases read
          obtain ⟨rfl, id, same, notEmpty, from_⟩ := source h fun id named =>
            checkAndGetOCPIAuthorizationIDFromOCPPAuthorize_some rfl rfl named
          exact ⟨uid, id, rfl, isPublic, active, same, notEmpty, from_, .inl rfl⟩

end Roaming

/-! ## Local users -/

/-- Whom the definition grants a start: an admin, and a user without a site or with one that is
assigned. -/
theorem canPerformActionOnChargingStation_start {acl : RoleAcl} {userToken : UserToken}
    {action : Action} {context : AuthorizationContext}
    (start : action = .authorize ∨ action = .startTransaction) (roles : userToken.HasRoles)
    (granted : canPerformActionOnChargingStation acl AUTHORIZATION_DEFINITION userToken action
      chargingStation (some context) = true) :
    userToken.role = .admin ∨ userToken.role = .basic ∧
      ∀ siteID, context.site = some siteID → siteID ∈ context.sites := by
  obtain ⟨rule, mem, holds⟩ := (acl.granted_iff _ _ _ _ _).mp granted
  rcases role : userToken.role
  · rw [roles.superAdmin role] at mem
    rcases start with rfl | rfl <;> cases mem
  · exact .inl rfl
  · have conditional : ∀ rule ∈ AUTHORIZATION_DEFINITION.rules userToken.rolesACL .chargingStation
        action, rule.condition =
          some (.or [.equals .site .null, .listContains .sites (.path .site)]) := by
      rcases start with rfl | rfl <;>
        rcases roles.basic_cases role with same | same | same | same <;> rw [same] <;> decide
    rw [Rule.holds, conditional rule mem] at holds
    refine .inr ⟨rfl, fun siteID site => ?_⟩
    simp [conditions, Condition.holds, BasicCondition.holds, Operand.value,
      AuthorizationContext.get, AuthorizationContext.getList, site] at holds
    exact of_decide_eq_true holds
  · rw [roles.demo role] at mem
    rcases start with rfl | rfl <;> cases mem

/-- The sites of a token are assigned to its user. -/
theorem isAssigned_of_mem_sites {tags : List (String × Bool)} {siteID : String}
    (mem : siteID ∈ (buildUserToken tenant organization user tags).sites) :
    organization.isAssigned user.id siteID := by
  rw [buildUserToken] at mem
  split at mem
  · cases mem
  · obtain ⟨userSite, ofUser, same⟩ := List.mem_map.mp mem
    obtain ⟨stored, ofUser, _⟩ := DynamicAuthorizationFactory.mem_getUserSites.mp ofUser
    exact DynamicAuthorizationFactory.isAssigned_iff.mpr ⟨userSite, stored, ofUser, same⟩

end Authorizations

/-! ## The grounds -/

/-- A badge that is stored and active, with an active user. -/
structure IsActiveBadge (organization : Organization) (tagID : String) (tag : Tag) (user : User) :
    Prop where
  stored : TagStorage.getTag organization tagID = some tag
  active : tag.active = true
  assigned : tag.user organization = some user
  status : user.status = .active

/-- The platform has authorized a token within the validity period: it is asked now, it has started
a session at the station, or an Authorize of the badge at the station, before the start, has its
authorization ID. -/
inductive IsAuthorizedByOCPI (platforms : RoamingPlatforms) (now : Timestamp) (store : TenantStore)
    (chargingStation : ChargingStation) (startTransaction : Option OCPPStartTransaction)
    (tagID uid : String) : Prop
  | requested (post : String → ChargingStation → ℕ →
        Except CheckError (Option OCPIAuthorizationInfo))
      (connectorId : ℕ) (authorizationInfo : OCPIAuthorizationInfo)
      (client : platforms.ocpiClient = some post)
      (answer : post uid chargingStation connectorId = .ok (some authorizationInfo))
      (allowed : authorizationInfo.allowed = .allowed)
  | remoteStart (remoteAuthorization : RemoteAuthorization)
      (stored : remoteAuthorization ∈ chargingStation.remoteAuthorizations)
      (valid : remoteAuthorization.IsValidFor now uid)
  | authorize (starting : OCPPStartTransaction) (authorize : OCPPAuthorize)
      (starts : startTransaction = some starting)
      (stored : authorize ∈ store.authorizes)
      (station : authorize.chargeBoxID = chargingStation.id)
      (badge : authorize.tagID = tagID)
      (authorized : authorize.authorizationId.isSome)
      (valid : starting.timestamp - Constants.roamingAuthorizationTimeout ≤ authorize.timestamp)

/-- The grounds on which a badge is accepted at a station. -/
inductive IsAccepted (tenant : Tenant) (platforms : RoamingPlatforms) (now : Timestamp)
    (store : TenantStore) (chargingStation : ChargingStation)
    (startTransaction : Option OCPPStartTransaction) (tagID : String) : Prop
  | accessControlOff (siteArea : SiteArea)
      (area : chargingStation.siteArea store.organization = some siteArea)
      (off : siteArea.accessControl = false)
  | localUser (tag : Tag) (user : User) (badge : IsActiveBadge store.organization tagID tag user)
      (isLocal : user.issuer = true)
      (assigned : Utils.isTenantComponentActive tenant .organization = true →
        user.role = .admin ∨ ∃ siteID, chargingStation.siteID = some siteID ∧
          store.organization.isAssigned user.id siteID)
  | roamingUser (tag : Tag) (user : User) (uid : String)
      (badge : IsActiveBadge store.organization tagID tag user) (roaming : user.issuer = false)
      (isPublic : chargingStation.isPublic = true) (token : tag.ocpiToken = some uid)
      (authorized : IsAuthorizedByOCPI platforms now store chargingStation startTransaction tagID
        uid)
  | unknownBadge (unknown : TagStorage.getTag store.organization tagID = none)
      (oicp : Utils.isTenantComponentActive tenant .oicp = true)
      (authorized : tagID = OICPDefaultTagId.remoteIdentification ∨
        ∃ authorizeStart response, platforms.oicpClient = some authorizeStart ∧
          authorizeStart tagID = .ok (some response) ∧
          response.AuthorizationStatus = .Authorized)

section Grounds

variable {acl : RoleAcl} {tenant : Tenant} {platforms : RoamingPlatforms} {now : Timestamp}
  {store store' : TenantStore} {chargingStation : ChargingStation} {tagID : String}

theorem isAccepted_of_ok {startTransaction : Option OCPPStartTransaction} (id : ℕ)
    {authAction : Action} {authorized : AuthorizedUser}
    (action : authAction = .authorize ∨ authAction = .startTransaction)
    (badge : ∀ starting, startTransaction = some starting → starting.idTag = tagID)
    (h : Authorizations.isTagIDAuthorizedOnChargingStation acl AUTHORIZATION_DEFINITION tenant
      platforms now chargingStation
      (startTransaction.map (OCPPService.createTransaction tenant chargingStation id)) tagID
      (some authAction) store = (.ok authorized, store')) :
    IsAccepted tenant platforms now store chargingStation startTransaction tagID := by
  rw [Authorizations.isTagIDAuthorizedOnChargingStation] at h
  obtain ⟨organization, read, h⟩ := Handler.read_bind_eq_ok.mp h
  cases read
  obtain ⟨siteArea, valid, h⟩ := Handler.ofExcept_bind_eq_ok.mp h
  obtain ⟨site, area⟩ := Authorizations.isChargingStationValidInOrganization_ok valid
  split at h
  · rename_i off
    obtain _ | siteArea := siteArea
    · cases off
    · exact .accessControlOff siteArea (area _ rfl) (by simpa using off)
  · obtain ⟨found, checked, h⟩ := Handler.ofExcept_bind_eq_ok.mp h
    obtain ⟨rfl, unknown⟩ | ⟨tag, tagUser, rfl, stored, active, assigned⟩ :=
      Authorizations.checkAndGetAuthorizedTag_ok checked
    · obtain ⟨oicpUser, checked, h⟩ := Handler.ofExcept_bind_eq_ok.mp h
      obtain _ | oicpUser := oicpUser
      · cases h
      · obtain ⟨oicp, authorized⟩ := Authorizations.checkAndGetOICPAuthorizedUser_ok checked
        refine .unknownBadge unknown oicp ?_
        rcases authorized with remote | ⟨running, sessionID, starts, session⟩ | platform
        · exact .inl remote
        · obtain ⟨starting, _, rfl⟩ := Option.map_eq_some_iff.mp starts
          cases session
        · exact .inr platform
    · obtain ⟨user, checked, h⟩ := Handler.ofExcept_bind_eq_ok.mp h
      obtain ⟨found, status, granted⟩ := Authorizations.checkAndGetAuthorizedUserFromTag_ok checked
      have same : tagUser = user := by
        obtain ⟨userID, _, assigned⟩ := Option.bind_eq_some_iff.mp assigned
        rw [Collection.find_of_mem (Collection.mem_of_find assigned)] at found
        exact Option.some.inj found
      subst same
      have activeBadge : IsActiveBadge store.organization tagID tag tagUser :=
        ⟨stored, active, assigned, status⟩
      split at h
      · rename_i isLocal
        refine .localUser tag tagUser activeBadge isLocal fun component => ?_
        have granted := Authorizations.canPerformActionOnChargingStation_start action ⟨_, _, rfl⟩
          (granted isLocal authAction rfl)
        refine granted.imp_right fun ⟨_, sites⟩ => ?_
        obtain ⟨siteID, ofStation⟩ := Option.isSome_iff_exists.mp (site component).1
        have mem : siteID ∈ (Authorizations.buildUserToken tenant store.organization tagUser
          [(tag.id, tag.active)]).sites := sites siteID ofStation
        exact ⟨siteID, ofStation, Authorizations.isAssigned_of_mem_sites mem⟩
      · rename_i roaming
        obtain ⟨roamingUser, between, checked, h⟩ := Handler.bind_apply_eq_ok.mp h
        obtain ⟨uid, authorizationID, token, isPublic, _, _, _, source, _⟩ :=
          Authorizations.checkOCPIAuthorizedUser_ok checked action
        refine .roamingUser tag tagUser uid activeBadge (by simpa using roaming) isPublic token ?_
        cases source with
        | remoteStart remoteAuthorization _ stored valid _ =>
            exact .remoteStart remoteAuthorization stored valid
        | authorize _ authorize _ starts stored station sameBadge valid named _ =>
            obtain ⟨starting, rfl, rfl⟩ := Option.map_eq_some_iff.mp starts
            refine .authorize starting authorize rfl stored (station chargingStation.ne_id.symm) ?_
              (by rw [named]; rfl) valid
            exact (sameBadge starting.ne_idTag.symm).trans (badge starting rfl)
        | requested post connectorId authorizationInfo client answer allowed _ =>
            exact .requested post connectorId authorizationInfo client answer allowed

end Grounds

end EvServer.Authorization
