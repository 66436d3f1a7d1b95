import EvServer.Authorization.SiteAssignments

/-!
# Whether the two endpoints agree

To add a user to a site is one thing, and it should be authorized alike at both endpoints.  But
the endpoint of the user asks for the grant to unassign: a site admin has that one, and no other
may assign.  An admin is held to the issuer of the site at the endpoint of the user only.
-/

namespace EvServer.Authorization

open AccessControl

variable {acl : RoleAcl} {organization : Organization} {userToken : UserToken}

namespace UtilsService

/-! ## What has been read -/

theorem exists_of_checkAndGetAuthorization {α : Type} {checked : CheckedEntity α}
    {definition : AuthorizationDefinition} {id : String} {authAction : Action}
    {entityData : Option EntityData} {additionalFilters : Filters} {applyProjectFields : Bool}
    (h : (checkAndGetAuthorization checked acl definition organization userToken id authAction
      entityData additionalFilters applyProjectFields).isOk) :
    ∃ filters entity, checked.get organization id filters = some entity := by
  obtain ⟨authorized, h⟩ := Outcome.isOk_iff.mp h
  obtain ⟨_, h⟩ := Outcome.refuse_bind_eq_ok.mp h
  obtain ⟨filter, _, h⟩ := Outcome.bind_eq_ok.mp h
  obtain ⟨_, h⟩ := Outcome.refuse_bind_eq_ok.mp h
  rcases found : checked.get organization id (additionalFilters.merge filter.filters) with
    _ | entity
  · rw [found] at h
    cases h
  · exact ⟨_, entity, found⟩

/-- A site that has been read is stored. -/
theorem find_of_checkAndGetSiteAuthorization {definition : AuthorizationDefinition}
    {siteID : String}
    (h : (checkAndGetSiteAuthorization acl definition organization userToken .read none {} false
      siteID).isOk) : ∃ site, organization.sites.find siteID = some site := by
  obtain ⟨filters, site, found⟩ := exists_of_checkAndGetAuthorization h
  exact ⟨site, (Option.filter_eq_some_iff.mp found).1⟩

/-- A user who has been read is stored, and of this organisation. -/
theorem find_of_checkAndGetUserAuthorization {definition : AuthorizationDefinition}
    {userID : String}
    (h : (checkAndGetUserAuthorization acl definition organization userToken userID .read).isOk) :
    ∃ user, organization.users.find userID = some user ∧ user.issuer = true := by
  obtain ⟨authorized, h⟩ := Outcome.isOk_iff.mp h
  obtain ⟨_, h⟩ := Outcome.refuse_bind_eq_ok.mp h
  obtain ⟨filter, _, h⟩ := Outcome.bind_eq_ok.mp h
  obtain ⟨_, h⟩ := Outcome.refuse_bind_eq_ok.mp h
  split at h
  · cases h
  · rename_i user found
    rw [Outcome.refuse_bind_eq_ok] at h
    exact ⟨user, (Option.filter_eq_some_iff.mp found).1, by simpa using h.1⟩

/-! ## What is to be assigned -/

/-- The site is stored, and of this organisation. -/
def isLocalSite (organization : Organization) (siteID : String) : Bool :=
  (organization.sites.find siteID).any Site.issuer

theorem filter_getAllSites {siteID : String} {site : Site} (filters : Filters)
    (found : organization.sites.find siteID = some site) :
    ((SiteStorage.getAllSites organization filters).filter (·.id ∈ [siteID])).length =
      if site ∈ SiteStorage.getAllSites organization filters then 1 else 0 := by
  have mem := Collection.mem_of_find found
  have only : (organization.sites.docs.filter fun site => site.id ∈ [siteID]) = [site] := by
    simpa using Collection.filter_key_eq found
  rw [SiteStorage.getAllSites, List.filter_comm, only]
  simp only [List.filter_cons, List.filter_nil, List.mem_filter, mem, true_and]
  split <;> rfl

theorem filter_getAllUsers {userID : String} {user : User} (filters : Filters)
    (found : organization.users.find userID = some user) :
    ((UserStorage.getAllUsers organization filters).filter (·.id ∈ [userID])).length =
      if user ∈ UserStorage.getAllUsers organization filters then 1 else 0 := by
  have mem := Collection.mem_of_find found
  have only : (organization.users.docs.filter fun user => user.id ∈ [userID]) = [user] := by
    simpa using Collection.filter_key_eq found
  rw [UserStorage.getAllUsers, List.filter_comm, only]
  simp only [List.filter_cons, List.filter_nil, List.mem_filter, mem, true_and]
  split <;> rfl

section Endpoints

variable {action : ServerAction} {filter : AuthorizationFilter}

/-- The endpoint of the user looks for the site among those that its filters let through. -/
theorem checkUserSitesAuthorization_isOk {siteID : String} {site : Site}
    (checked : AuthorizationService.checkAndAssignUserSitesAuthorizations acl
      AUTHORIZATION_DEFINITION organization userToken action = .ok filter)
    (found : organization.sites.find siteID = some site) :
    (checkUserSitesAuthorization acl AUTHORIZATION_DEFINITION organization userToken [siteID]
        action).isOk ↔ filter.authorized ∧ site ∈ SiteStorage.getAllSites organization
          (Filters.merge { siteIDs := some [siteID] } filter.filters) := by
  simp only [checkUserSitesAuthorization, checked, Outcome.isOk_iff, Outcome.refuse_bind_eq_ok,
    Outcome.ok_bind, filter_getAllSites _ found, Outcome.pure_eq_ok_iff]
  by_cases listed : site ∈ SiteStorage.getAllSites organization
    (Filters.merge { siteIDs := some [siteID] } filter.filters) <;> simp [listed]

/-- The endpoint of the site looks for the user among those that its filters let through. -/
theorem checkSiteUsersAuthorization_isOk {userID : String} {user : User}
    (checked : AuthorizationService.checkAssignSiteUsersAuthorizations acl
      AUTHORIZATION_DEFINITION organization userToken action = .ok filter)
    (found : organization.users.find userID = some user) :
    (checkSiteUsersAuthorization acl AUTHORIZATION_DEFINITION organization userToken [userID]
        action).isOk ↔ filter.authorized ∧ user ∈ UserStorage.getAllUsers organization
          (Filters.merge { userIDs := some [userID] } filter.filters) := by
  simp only [checkSiteUsersAuthorization, checked, Outcome.isOk_iff, Outcome.refuse_bind_eq_ok,
    Outcome.ok_bind, filter_getAllUsers _ found, Outcome.pure_eq_ok_iff]
  by_cases listed : user ∈ UserStorage.getAllUsers organization
    (Filters.merge { userIDs := some [userID] } filter.filters) <;> simp [listed]

end Endpoints

/-! ## What the roles permit -/

section Roles

variable {definition : AuthorizationDefinition} {authEntity : Entity} {authAction : Action}

/-- The grant of an admin: what is local. -/
theorem checkAuthorizationAction_localIssuer
    (granted : definition.rules userToken.rolesACL authEntity authAction ≠ [])
    (dynamic : ∀ rule ∈ definition.rules userToken.rolesACL authEntity authAction,
      rule.condition.bind Condition.dynamic? = some (allOf [.localIssuer], [])) :
    ∃ filter, AuthorizationService.checkAuthorizationAction acl definition organization userToken
        authEntity authAction {} = .ok filter ∧
      filter.authorized = true ∧ filter.filters = { issuer := some true } := by
  obtain ⟨filter, checked, authorized, filters⟩ :=
    AuthorizationService.checkAuthorizationAction_of_dynamic granted dynamic
  exact ⟨filter, checked, authorized, filters⟩

/-- The grant of a site admin: what is local and on a site that is administered. -/
theorem checkAuthorizationAction_sitesAdmin
    (granted : definition.rules userToken.rolesACL authEntity authAction ≠ [])
    (dynamic : ∀ rule ∈ definition.rules userToken.rolesACL authEntity authAction,
      rule.condition.bind Condition.dynamic? = some (allOf [.sitesAdmin, .localIssuer], [])) :
    ∃ filter, AuthorizationService.checkAuthorizationAction acl definition organization userToken
        authEntity authAction {} = .ok filter ∧
      (filter.authorized = true ↔
        DynamicAuthorizationFactory.getSitesAdminSiteIDs organization userToken.id ≠ []) ∧
      (filter.authorized = true → filter.filters =
        { siteIDs := some (DynamicAuthorizationFactory.getSitesAdminSiteIDs organization
            userToken.id)
          issuer := some true }) := by
  exact AuthorizationService.checkAuthorizationAction_sites granted dynamic fun _ => rfl

end Roles

/-- An admin adds local sites at the endpoint of the user. -/
theorem checkUserSitesAuthorization_admin {siteID : String} {site : Site}
    (roles : userToken.rolesACL = [.admin]) (found : organization.sites.find siteID = some site) :
    (checkUserSitesAuthorization acl AUTHORIZATION_DEFINITION organization userToken [siteID]
      .addSitesToUser).isOk ↔ site.issuer := by
  obtain ⟨filter, checked, authorized, filters⟩ :
      ∃ filter, AuthorizationService.checkAndAssignUserSitesAuthorizations acl
          AUTHORIZATION_DEFINITION organization userToken .addSitesToUser = .ok filter ∧
        filter.authorized = true ∧ filter.filters = { issuer := some true } := by
    apply checkAuthorizationAction_localIssuer
    · rw [roles]
      decide
    · rw [roles]
      decide
  have id := Collection.key_of_find found
  rw [checkUserSitesAuthorization_isOk checked found, filters]
  simp [authorized, SiteStorage.getAllSites, Filters.merge, Collection.mem_of_find found, id,
    Utils.nonEmptyArray]

/-- A site admin adds the sites that he administers at the endpoint of the user, though he may
only unassign. -/
theorem checkUserSitesAuthorization_siteAdmin {siteID : String} {site : Site}
    (roles : userToken.rolesACL = [.siteAdmin] ∨ userToken.rolesACL = [.siteAdmin, .siteOwner])
    (found : organization.sites.find siteID = some site) :
    (checkUserSitesAuthorization acl AUTHORIZATION_DEFINITION organization userToken [siteID]
        .addSitesToUser).isOk ↔
      siteID ∈ DynamicAuthorizationFactory.getSitesAdminSiteIDs organization userToken.id ∧
        site.issuer := by
  obtain ⟨filter, checked, authorized, filters⟩ :
      ∃ filter, AuthorizationService.checkAndAssignUserSitesAuthorizations acl
          AUTHORIZATION_DEFINITION organization userToken .addSitesToUser = .ok filter ∧
        (filter.authorized = true ↔
          DynamicAuthorizationFactory.getSitesAdminSiteIDs organization userToken.id ≠ []) ∧
        (filter.authorized = true → filter.filters =
          { siteIDs := some (DynamicAuthorizationFactory.getSitesAdminSiteIDs organization
              userToken.id)
            issuer := some true }) := by
    apply checkAuthorizationAction_sitesAdmin
    · rcases roles with roles | roles <;> rw [roles] <;> decide
    · rcases roles with roles | roles <;> rw [roles] <;> decide
  have id := Collection.key_of_find found
  rw [checkUserSitesAuthorization_isOk checked found]
  by_cases permitted : filter.authorized = true
  · have some := authorized.mp permitted
    rw [filters permitted]
    simp [permitted, SiteStorage.getAllSites, Filters.merge, Collection.mem_of_find found, id,
      Utils.nonEmptyArray, some]
  · have none := not_not.mp (mt authorized.mpr permitted)
    simp [permitted, none]

/-- An admin adds users to sites at the endpoint of the site. -/
theorem checkSiteUsersAuthorization_admin {userID : String} {user : User}
    (roles : userToken.rolesACL = [.admin]) (found : organization.users.find userID = some user) :
    (checkSiteUsersAuthorization acl AUTHORIZATION_DEFINITION organization userToken [userID]
      .addUsersToSite).isOk ↔ user.issuer := by
  obtain ⟨filter, checked, authorized, filters⟩ :
      ∃ filter, AuthorizationService.checkAssignSiteUsersAuthorizations acl
          AUTHORIZATION_DEFINITION organization userToken .addUsersToSite = .ok filter ∧
        filter.authorized = true ∧ filter.filters = { issuer := some true } := by
    apply checkAuthorizationAction_localIssuer
    · rw [roles]
      decide
    · rw [roles]
      decide
  have id := Collection.key_of_find found
  rw [checkSiteUsersAuthorization_isOk checked found, filters]
  simp [authorized, UserStorage.getAllUsers, Filters.merge, Collection.mem_of_find found, id,
    Utils.nonEmptyArray]

/-- Without the grant to assign, nobody is added at the endpoint of the site. -/
theorem checkSiteUsersAuthorization_of_nil {userIDs : List String}
    (none : AUTHORIZATION_DEFINITION.rules userToken.rolesACL .usersSites .assign = []) :
    (checkSiteUsersAuthorization acl AUTHORIZATION_DEFINITION organization userToken userIDs
      .addUsersToSite).isOk = false := by
  have refused : AuthorizationService.checkAssignSiteUsersAuthorizations acl
      AUTHORIZATION_DEFINITION organization userToken .addUsersToSite = _ :=
    AuthorizationService.checkAuthorizationAction_of_nil none
  rw [← Bool.not_eq_true, Outcome.isOk_iff, checkSiteUsersAuthorization, refused]
  rintro ⟨users, h⟩
  obtain ⟨_, h⟩ := Outcome.refuse_bind_eq_ok.mp h
  cases h

/-- Without the grant to unassign, nobody is added at the endpoint of the user. -/
theorem checkUserSitesAuthorization_of_nil {siteIDs : List String}
    (none : AUTHORIZATION_DEFINITION.rules userToken.rolesACL .usersSites .unassign = []) :
    (checkUserSitesAuthorization acl AUTHORIZATION_DEFINITION organization userToken siteIDs
      .addSitesToUser).isOk = false := by
  have refused : AuthorizationService.checkAndAssignUserSitesAuthorizations acl
      AUTHORIZATION_DEFINITION organization userToken .addSitesToUser = _ :=
    AuthorizationService.checkAuthorizationAction_of_nil none
  rw [← Bool.not_eq_true, Outcome.isOk_iff, checkUserSitesAuthorization, refused]
  rintro ⟨sites, h⟩
  obtain ⟨_, h⟩ := Outcome.refuse_bind_eq_ok.mp h
  cases h

/-- The checks of the two endpoints agree, on a user and a site that have been read. -/
theorem checks_agree_iff {userID siteID : String} {user : User} {site : Site}
    (roles : userToken.HasRoles) (foundUser : organization.users.find userID = some user)
    (localUser : user.issuer = true) (foundSite : organization.sites.find siteID = some site) :
    ((checkUserSitesAuthorization acl AUTHORIZATION_DEFINITION organization userToken [siteID]
        .addSitesToUser).isOk ↔
      (checkSiteUsersAuthorization acl AUTHORIZATION_DEFINITION organization userToken [userID]
        .addUsersToSite).isOk) ↔
    (.admin ∈ userToken.rolesACL → site.issuer) ∧
      (.siteAdmin ∈ userToken.rolesACL →
        siteID ∈ DynamicAuthorizationFactory.getSitesAdminSiteIDs organization userToken.id →
        site.issuer = false) := by
  rcases roles.cases with roles | roles | roles | roles | roles | roles | roles
  · rw [checkUserSitesAuthorization_admin roles foundSite,
      checkSiteUsersAuthorization_admin roles foundUser]
    simp [roles, localUser]
  · rw [checkUserSitesAuthorization_of_nil (by rw [roles]; decide),
      checkSiteUsersAuthorization_of_nil (by rw [roles]; decide)]
    simp [roles]
  · rw [checkUserSitesAuthorization_of_nil (by rw [roles]; decide),
      checkSiteUsersAuthorization_of_nil (by rw [roles]; decide)]
    simp [roles]
  · rw [checkUserSitesAuthorization_of_nil (by rw [roles]; decide),
      checkSiteUsersAuthorization_of_nil (by rw [roles]; decide)]
    simp [roles]
  · rw [checkUserSitesAuthorization_siteAdmin (.inl roles) foundSite,
      checkSiteUsersAuthorization_of_nil (by rw [roles]; decide)]
    simp [roles]
  · rw [checkUserSitesAuthorization_of_nil (by rw [roles]; decide),
      checkSiteUsersAuthorization_of_nil (by rw [roles]; decide)]
    simp [roles]
  · rw [checkUserSitesAuthorization_siteAdmin (.inr roles) foundSite,
      checkSiteUsersAuthorization_of_nil (by rw [roles]; decide)]
    simp [roles]

theorem isOk_bind_of_isOk {β γ : Type} {x : Except AppError β} {y : Except AppError γ}
    (h : x.isOk) : (x >>= fun _ => y).isOk = y.isOk := by
  rcases x with error | b
  · cases h
  · rfl

end UtilsService

/-- **The two endpoints agree** on who may be added to which site, for somebody who may read both,
unless an admin adds to a site that is not local, or a site admin to one that he administers. -/
theorem endpoints_agree_iff {userID siteID : String} (roles : userToken.HasRoles)
    (readsUser : (UtilsService.checkAndGetUserAuthorization acl AUTHORIZATION_DEFINITION
      organization userToken userID .read).isOk)
    (readsSite : (UtilsService.checkAndGetSiteAuthorization acl AUTHORIZATION_DEFINITION
      organization userToken .read none {} false siteID).isOk) :
    ((UserService.authorizeAssignSitesToUser acl AUTHORIZATION_DEFINITION organization userToken
        .addSitesToUser userID [siteID]).isOk ↔
      (SiteService.authorizeAssignUsersToSite acl AUTHORIZATION_DEFINITION organization userToken
        .addUsersToSite siteID [userID]).isOk) ↔
    (Utils.isComponentActiveFromToken userToken .organization →
      (.admin ∈ userToken.rolesACL → UtilsService.isLocalSite organization siteID) ∧
      (.siteAdmin ∈ userToken.rolesACL →
        siteID ∈ DynamicAuthorizationFactory.getSitesAdminSiteIDs organization userToken.id →
        UtilsService.isLocalSite organization siteID = false)) := by
  obtain ⟨user, foundUser, localUser⟩ := UtilsService.find_of_checkAndGetUserAuthorization readsUser
  obtain ⟨site, foundSite⟩ := UtilsService.find_of_checkAndGetSiteAuthorization readsSite
  have isLocal : UtilsService.isLocalSite organization siteID = site.issuer := by
    rw [UtilsService.isLocalSite, foundSite]
    rfl
  by_cases active : Utils.isComponentActiveFromToken userToken .organization = true
  · have asserted : ∀ method, UtilsService.assertComponentIsActiveFromToken userToken .organization
        .update .site method = .ok () :=
      fun _ => Outcome.refuse_of_not (by simp [active])
    rw [UserService.authorizeAssignSitesToUser, SiteService.authorizeAssignUsersToSite, asserted,
      asserted, Outcome.ok_bind, Outcome.ok_bind, UtilsService.isOk_bind_of_isOk readsUser,
      UtilsService.isOk_bind_of_isOk readsSite, isLocal,
      UtilsService.checks_agree_iff roles foundUser localUser foundSite]
    exact ⟨fun h _ => h, fun h => h active⟩
  · have refused : ∀ method, UtilsService.assertComponentIsActiveFromToken userToken .organization
        .update .site method = .error (.forbidden .update .site method) :=
      fun _ => if_pos (by simpa using active)
    rw [UserService.authorizeAssignSitesToUser, SiteService.authorizeAssignUsersToSite, refused,
      refused]
    exact iff_of_true Iff.rfl fun active' => absurd active' active

/-- Two sites with their admin, and a user of one of them. -/
def administeredSites : Organization where
  sites := ⟨[{ id := "north" }, { id := "south" }], by decide⟩
  users := ⟨[{ id := "ada", role := .basic }, { id := "bob", role := .basic },
    { id := "cleo", role := .admin }], by decide⟩
  userSites := [{ userID := "ada", siteID := "north", siteAdmin := true },
    { userID := "ada", siteID := "south", siteAdmin := true }, { userID := "bob", siteID := "south" }]

/-- The token of a user of the organisation. -/
def tokenOf (user : User) : UserToken :=
  Authorizations.buildUserToken organizationTenant administeredSites user []

/-- An admin. -/
def anAdmin : User := { id := "cleo", role := .admin }

/-- The user who administers the sites. -/
def aSiteAdmin : User := { id := "ada", role := .basic }

/-- An admin may add a user to a local site at either endpoint. -/
theorem endpoints_agree_admin :
    (UserService.authorizeAssignSitesToUser (Library.inOrder conditions) AUTHORIZATION_DEFINITION
        administeredSites (tokenOf anAdmin) .addSitesToUser "bob" ["north"]).isOk ↔
      (SiteService.authorizeAssignUsersToSite (Library.inOrder conditions)
        AUTHORIZATION_DEFINITION administeredSites (tokenOf anAdmin) .addUsersToSite "north"
        ["bob"]).isOk :=
  (endpoints_agree_iff ⟨0, 0, rfl⟩ (by decide +kernel) (by decide +kernel)).mpr
    (by decide +kernel)

/-- A site admin may not assign users to sites, and adds one to his site by its other end. -/
theorem unassign_adds :
    (UtilsService.checkAndGetUserAuthorization (Library.inOrder conditions)
      AUTHORIZATION_DEFINITION administeredSites (tokenOf aSiteAdmin) "bob" .read).isOk = true ∧
    (UtilsService.checkAndGetSiteAuthorization (Library.inOrder conditions)
      AUTHORIZATION_DEFINITION administeredSites (tokenOf aSiteAdmin) .read none {} false
      "north").isOk = true ∧
    AUTHORIZATION_DEFINITION.rules (tokenOf aSiteAdmin).rolesACL .usersSites .assign = [] ∧
    ((UserService.handleAssignSitesToUser (Library.inOrder conditions) AUTHORIZATION_DEFINITION
      administeredSites (tokenOf aSiteAdmin) .addSitesToUser "bob" ["north"]).toOption.map
        fun organization => organization.isAssigned "bob" "north") = some true ∧
    (SiteService.authorizeAssignUsersToSite (Library.inOrder conditions) AUTHORIZATION_DEFINITION
      administeredSites (tokenOf aSiteAdmin) .addUsersToSite "north" ["bob"]).isOk = false := by
  refine ⟨?_, ?_, ?_, ?_, ?_⟩ <;> decide +kernel

end EvServer.Authorization
