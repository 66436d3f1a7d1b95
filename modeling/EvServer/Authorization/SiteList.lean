import EvServer.Authorization.SiteAssignments

/-!
# The list of sites (`SiteService.handleGetSites`)

The filters of the grant restrict the sites that are asked for to those that are assigned.  When
only the administered sites are asked for, their IDs replace the ones of the filter, and the
requested IDs with them; and to administer no site is no filter at all.
-/

namespace EvServer.Authorization

open AccessControl

/-- `HttpSitesRequest`, with the coordinates that are made of it when they are valid. -/
structure HttpSitesRequest where
  search : Option String := none
  issuer : Option Bool := none
  siteAdmin : Bool := false
  userID : Option String := none
  companyID : Option (List String) := none
  siteID : Option (List String) := none
  excludeSitesOfUserID : Option String := none
  locCoordinates : Option (ℚ × ℚ) := none
  locMaxDistanceMeters : Option ℚ := none
  projectFields : Option (List String) := none

namespace HttpSitesRequest

/-- The request, as the dynamic filters know it. -/
def extraFilters (request : HttpSitesRequest) : ExtraFilters where
  siteID := request.siteID
  companyID := request.companyID
  userID := request.userID.map fun userID => [userID]
  projectFields := request.projectFields

/-- The parameters of the query: the filters replace what is requested. -/
def params (request : HttpSitesRequest) (filters : Filters) : GetSitesParams where
  search := request.search
  userID := request.userID
  issuer := filters.issuer <|> request.issuer
  companyIDs := filters.companyIDs <|> request.companyID
  siteIDs := filters.siteIDs <|> request.siteID
  excludeSitesOfUserID := request.excludeSitesOfUserID
  locCoordinates := request.locCoordinates
  locMaxDistanceMeters := request.locMaxDistanceMeters

/-- The site is found by what is requested besides its ID, its issuer and its admin. -/
def isFound (index : SiteIndex) (organization : Organization) (request : HttpSitesRequest)
    (site : Site) : Bool :=
  (request.params {}).isFound index site && organization.passesUser (request.params {}) site

end HttpSitesRequest

section Handler

variable (acl : RoleAcl) (definition : AuthorizationDefinition) (index : SiteIndex)
  (organization : Organization) (userToken : UserToken) (request : HttpSitesRequest)

/-- `checkAndGetSitesAuthorizations`. -/
def AuthorizationService.checkAndGetSitesAuthorizations : Except AppError AuthorizationFilter :=
  checkAuthorizationAction acl definition organization userToken .site .list request.extraFilters

/-- `handleGetSites`: the sites of a page, before the flags are added to them. -/
def SiteService.handleGetSites (dbParams : DbParams Site) : Except AppError (List Site) := do
  UtilsService.assertComponentIsActiveFromToken userToken .organization .list .site
    "handleGetSites"
  -- Check dynamic auth
  let filter ← AuthorizationService.checkAndGetSitesAuthorizations acl definition organization
    userToken request
  if filter.authorized then
    -- Check Site Admin filter, override Site IDs
    let filters :=
      if request.siteAdmin then
        { filter.filters with
          siteIDs := some
            (DynamicAuthorizationFactory.getSitesAdminSiteIDs organization userToken.id) }
      else filter.filters
    return SiteStorage.getSites index organization (request.params filters) dbParams
  else return []

end Handler

/-! ## What a user with role basic is shown -/

section Basic

variable {acl : RoleAcl} {index : SiteIndex} {organization : Organization} {userToken : UserToken}
  {request : HttpSitesRequest}

/-- The sites that the filter of the grant lets through. -/
def SiteService.assignedSites (organization : Organization) (userToken : UserToken)
    (request : HttpSitesRequest) : List String :=
  forcedIDs (DynamicAuthorizationFactory.getAssignedSiteIDs organization userToken.id)
    request.siteID

theorem checkAndGetSitesAuthorizations_basic (acl : RoleAcl) (organization : Organization)
    (request : HttpSitesRequest) (basic : userToken.role = .basic) (roles : userToken.HasRoles) :
    ∃ filter, AuthorizationService.checkAndGetSitesAuthorizations acl AUTHORIZATION_DEFINITION
        organization userToken request = .ok filter ∧
      (filter.authorized = true ↔ SiteService.assignedSites organization userToken request ≠ []) ∧
      (filter.authorized = true → filter.filters =
        { siteIDs := some (SiteService.assignedSites organization userToken request)
          issuer := some true }) := by
  obtain ⟨granted, dynamic⟩ :
      AUTHORIZATION_DEFINITION.rules userToken.rolesACL .site .list ≠ [] ∧
      ∀ rule ∈ AUTHORIZATION_DEFINITION.rules userToken.rolesACL .site .list,
        rule.condition.bind Condition.dynamic? =
          some (allOf [.assignedSites, .localIssuer], []) := by
    rcases roles.basic_cases basic with roles | roles | roles | roles <;> rw [roles] <;>
      exact ⟨by decide, by decide⟩
  exact AuthorizationService.checkAuthorizationAction_sites granted dynamic fun _ => rfl

/-- The IDs that the query is restricted to. -/
def SiteService.queriedSites (organization : Organization) (userToken : UserToken)
    (request : HttpSitesRequest) : List String :=
  if request.siteAdmin then
    DynamicAuthorizationFactory.getSitesAdminSiteIDs organization userToken.id
  else SiteService.assignedSites organization userToken request

theorem passes_params_iff {siteIDs : List String} {site : Site} :
    SiteStorage.passes index organization
        (request.params { siteIDs := some siteIDs, issuer := some true }) site ↔
      request.isFound index organization site ∧ site.issuer ∧
        (siteIDs = [] ∨ site.id ∈ siteIDs) := by
  have found : (request.params { siteIDs := some siteIDs, issuer := some true }).isFound index
      site = (request.params {}).isFound index site := rfl
  have passesUser : organization.passesUser
      (request.params { siteIDs := some siteIDs, issuer := some true }) site =
        organization.passesUser (request.params {}) site := rfl
  have ids : (Utils.nonEmptyArray (request.params
      { siteIDs := some siteIDs, issuer := some true }).siteIDs).all (fun ids => site.id ∈ ids) =
        true ↔ siteIDs = [] ∨ site.id ∈ siteIDs := by
    change (Utils.nonEmptyArray (some siteIDs)).all _ = true ↔ _
    rw [Utils.nonEmptyArray_some]
    by_cases none : siteIDs = [] <;> simp [none]
  have issuer : ((request.params { siteIDs := some siteIDs, issuer := some true }).issuer.all
      fun issuer => decide (site.issuer = issuer)) = site.issuer := by
    change decide (site.issuer = true) = site.issuer
    rw [Bool.decide_eq_true]
  rw [SiteStorage.passes, found, passesUser, issuer, HttpSitesRequest.isFound]
  simp only [Bool.and_eq_true, ids]
  tauto

/-- The list, for a user with role basic: local sites that are found, among those queried. -/
theorem exists_mem_handleGetSites_iff (acl : RoleAcl) (index : SiteIndex)
    (organization : Organization) (request : HttpSitesRequest) (basic : userToken.role = .basic)
    (roles : userToken.HasRoles)
    (active : Utils.isComponentActiveFromToken userToken .organization = true) (site : Site) :
    (∃ dbParams sites, SiteService.handleGetSites acl AUTHORIZATION_DEFINITION index organization
        userToken request dbParams = .ok sites ∧ site ∈ sites) ↔
      SiteService.assignedSites organization userToken request ≠ [] ∧
        site ∈ organization.sites.docs ∧ request.isFound index organization site ∧
        site.issuer ∧ (SiteService.queriedSites organization userToken request = [] ∨
          site.id ∈ SiteService.queriedSites organization userToken request) := by
  obtain ⟨filter, checked, authorized, filters⟩ :=
    checkAndGetSitesAuthorizations_basic acl organization request basic roles
  have asserted : UtilsService.assertComponentIsActiveFromToken userToken .organization .list
      .site "handleGetSites" = .ok () := Outcome.refuse_of_not (by simp [active])
  simp only [SiteService.handleGetSites, asserted, checked, Outcome.ok_bind, ← authorized]
  by_cases permitted : filter.authorized = true
  · have queried : (if request.siteAdmin = true then
          { filter.filters with
            siteIDs := some
              (DynamicAuthorizationFactory.getSitesAdminSiteIDs organization userToken.id) }
        else filter.filters) =
        { siteIDs := some (SiteService.queriedSites organization userToken request)
          issuer := some true } := by
      rw [filters permitted, SiteService.queriedSites]
      split <;> rfl
    simp only [permitted, if_true, queried, Outcome.pure_eq_ok_iff, exists_eq_left', true_and]
    rw [← passes_params_iff]
    constructor
    · rintro ⟨dbParams, mem⟩
      exact List.mem_filter.mp (mem_of_mem_page mem)
    · intro passes
      exact ⟨_, page_all (List.mem_filter.mpr passes)⟩
  · simp [permitted]

/-- What the list should hold to, for one site. -/
structure SiteService.Asked (organization : Organization) (userToken : UserToken)
    (request : HttpSitesRequest) (site : Site) : Prop where
  isLocal : site.issuer = true
  assigned : organization.isAssigned userToken.id site.id
  requested : ∀ siteIDs, request.siteID = some siteIDs → site.id ∈ siteIDs
  administered : request.siteAdmin = true →
    site.id ∈ DynamicAuthorizationFactory.getSitesAdminSiteIDs organization userToken.id

/-- **Whoever lists sites** is shown local sites that are assigned to him and that he asks for,
unless he asks for those that he administers: then all of these must be among the ones requested,
or, if there are none, no site may be found. -/
theorem handleGetSites_asked_iff (acl : RoleAcl) (index : SiteIndex)
    (organization : Organization) (request : HttpSitesRequest) (basic : userToken.role = .basic)
    (roles : userToken.HasRoles) :
    (∀ dbParams sites, SiteService.handleGetSites acl AUTHORIZATION_DEFINITION index organization
        userToken request dbParams = .ok sites →
      ∀ site ∈ sites, SiteService.Asked organization userToken request site) ↔
    (Utils.isComponentActiveFromToken userToken .organization = true → request.siteAdmin = true →
      SiteService.assignedSites organization userToken request ≠ [] →
      ∀ site ∈ organization.sites.docs, request.isFound index organization site → site.issuer →
        (DynamicAuthorizationFactory.getSitesAdminSiteIDs organization userToken.id = [] ∨
          site.id ∈ DynamicAuthorizationFactory.getSitesAdminSiteIDs organization
            userToken.id) →
        site.id ∈ DynamicAuthorizationFactory.getSitesAdminSiteIDs organization userToken.id ∧
          ∀ siteIDs, request.siteID = some siteIDs → site.id ∈ siteIDs) := by
  by_cases active : Utils.isComponentActiveFromToken userToken .organization = true
  · have shown := exists_mem_handleGetSites_iff acl index organization request basic roles active
    constructor
    · intro asked _ siteAdmin some site mem found isLocal queried
      have queries : SiteService.queriedSites organization userToken request =
          DynamicAuthorizationFactory.getSitesAdminSiteIDs organization userToken.id :=
        if_pos siteAdmin
      obtain ⟨dbParams, sites, listed, shows⟩ :=
        (shown site).mpr ⟨some, mem, found, isLocal, queries ▸ queried⟩
      have asked := asked dbParams sites listed site shows
      exact ⟨asked.administered siteAdmin, asked.requested⟩
    · intro condition dbParams sites listed site shows
      obtain ⟨some, mem, found, isLocal, queried⟩ :=
        (shown site).mp ⟨dbParams, sites, listed, shows⟩
      rw [SiteService.queriedSites] at queried
      split at queried
      · rename_i siteAdmin
        obtain ⟨administered, requested⟩ :=
          condition active siteAdmin some site mem found isLocal queried
        exact
          { isLocal := isLocal
            assigned := DynamicAuthorizationFactory.isAssigned_of_mem_sitesAdmin administered
            requested := requested
            administered := fun _ => administered }
      · rename_i notAdmin
        obtain ⟨assigned, requested⟩ := mem_forcedIDs.mp (queried.resolve_left some)
        obtain ⟨_, _, _, _, assigned⟩ :=
          DynamicAuthorizationFactory.mem_getAssignedSiteIDs.mp assigned
        exact
          { isLocal := isLocal
            assigned := assigned
            requested := requested
            administered := fun siteAdmin => absurd siteAdmin notAdmin }
  · have refused : UtilsService.assertComponentIsActiveFromToken userToken .organization .list
        .site "handleGetSites" = .error (.forbidden .list .site "handleGetSites") :=
      if_pos (by simpa using active)
    constructor
    · intro _ active'
      exact absurd active' active
    · intro _ dbParams sites listed
      rw [SiteService.handleGetSites, refused] at listed
      cases listed

end Basic

/-- Three sites, one of them administered by a user and one assigned to him. -/
def threeSites : Organization where
  sites := ⟨[{ id := "a", name := "A" }, { id := "b", name := "B" }, { id := "c", name := "C" }],
    by decide⟩
  users := ⟨[{ id := "dora", role := .basic }, { id := "emil", role := .basic }], by decide⟩
  userSites := [{ userID := "dora", siteID := "a", siteAdmin := true },
    { userID := "dora", siteID := "b" }, { userID := "emil", siteID := "b" }]

/-- A site is found by its name, and none has coordinates. -/
def plainIndex : SiteIndex where
  search text site := site.name = text
  distanceMeters _ _ := none

/-- The user who administers the first site. -/
def adminOfA : User := { id := "dora", role := .basic }

/-- The user who is assigned to the second site. -/
def userOfB : User := { id := "emil", role := .basic }

/-- The token of a user with role basic, with organisations. -/
def basicToken (user : User) : UserToken :=
  Authorizations.buildUserToken organizationTenant threeSites user []

/-- A requested site that is assigned. -/
theorem handleGetSites_requested :
    (basicToken adminOfA).role = .basic ∧
    ∀ dbParams sites, SiteService.handleGetSites (Library.inOrder conditions)
        AUTHORIZATION_DEFINITION plainIndex threeSites (basicToken adminOfA)
        { siteID := some ["b"] } dbParams = .ok sites →
      ∀ site ∈ sites,
        SiteService.Asked threeSites (basicToken adminOfA) { siteID := some ["b"] } site :=
  ⟨rfl, (handleGetSites_asked_iff (Library.inOrder conditions) plainIndex threeSites
    { siteID := some ["b"] } rfl ⟨1, 0, rfl⟩).mpr fun _ siteAdmin => absurd siteAdmin (by decide)⟩

/-- The administered sites are shown when another one is requested; and to somebody who
administers none, any site is. -/
theorem handleGetSites_replaces :
    ((SiteService.handleGetSites (Library.inOrder conditions) AUTHORIZATION_DEFINITION plainIndex
      threeSites (basicToken adminOfA) { siteID := some ["b"], siteAdmin := true }
      { limit := 10 }).toOption.map fun sites => sites.map Site.id) = some ["a"] ∧
    ((SiteService.handleGetSites (Library.inOrder conditions) AUTHORIZATION_DEFINITION plainIndex
      threeSites (basicToken userOfB) { siteAdmin := true, search := some "C" }
      { limit := 10 }).toOption.map fun sites => sites.map Site.id) = some ["c"] ∧
    threeSites.isAssigned "emil" "c" = false := by
  refine ⟨?_, ?_, ?_⟩ <;> decide +kernel

end EvServer.Authorization
