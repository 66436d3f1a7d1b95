import EvServer.Authorization.AuthorizationsDefinition
import EvServer.Lib.Documents
import Mathlib.Data.List.Dedup

/-!
# The organisation of a tenant

The tenant with its components, the users with the sites they are assigned to, and what the
storage and the data sources of the dynamic filters read of them.  A query by an empty list of
IDs is a query without that filter.

A list of IDs in a request is a string, split at `|`; it is the list here.  A request without a
property, and one in which it is the empty string where the code tests that, has `none`.
-/

namespace EvServer.Authorization

/-- `TenantComponents`. -/
inductive TenantComponents
  | ocpi
  | oicp
  | organization
  | pricing
  | billing
  | refund
  | statistics
  | analytics
  | smartCharging
  | asset
  | car
  | carConnector
  deriving DecidableEq, Repr

/-- `Tenant`; an object has a property once at most. -/
structure Tenant where
  components : List (TenantComponents × Bool)
  nodup : (components.map Prod.fst).Nodup := by decide

/-- A tenant with sites. -/
def organizationTenant : Tenant where
  components := [(.organization, true)]

/-- A tenant without components. -/
def bareTenant : Tenant where
  components := []

/-- `User`, up to what authorisation does not look at. -/
structure User where
  id : String
  ne_id : "" ≠ id := by decide
  issuer : Bool := true
  role : UserRole
  status : UserStatus := .active
  name : String := ""
  email : String := ""
  authorizationID : Option String := none
  deriving DecidableEq, Repr

/-- `UserToken`. -/
structure UserToken where
  id : String
  ne_id : "" ≠ id := by decide
  role : UserRole
  rolesACL : List Role
  tagIDs : List String := []
  sites : List String := []
  sitesAdmin : List String := []
  sitesOwner : List String := []
  activeComponents : List TenantComponents := []
  deriving DecidableEq, Repr

/-- `UserSite`: a user who is assigned to a site. -/
structure UserSite where
  userID : String
  siteID : String
  siteAdmin : Bool := false
  siteOwner : Bool := false
  deriving DecidableEq, Repr

/-- `Site`. -/
structure Site where
  id : String
  ne_id : "" ≠ id := by decide
  issuer : Bool := true
  name : String := ""
  companyID : Option String := none
  deriving DecidableEq, Repr

/-- `SiteArea`. -/
structure SiteArea where
  id : String
  name : String := ""
  siteID : Option String := none
  issuer : Bool := true
  accessControl : Bool := true
  deriving DecidableEq, Repr

/-- `OCPIRemoteAuthorization`, by which a platform has started a session at a connector. -/
structure RemoteAuthorization where
  id : String
  connectorId : ℕ
  timestamp : Timestamp
  tagId : String
  deriving DecidableEq, Repr

/-- `ChargingStation`, up to what authorisation does not look at; its site, site area and company
are written to it when it is assigned to the site area. -/
structure ChargingStation where
  id : String
  ne_id : "" ≠ id := by decide
  issuer : Bool := true
  isPublic : Bool := false
  deleted : Bool := false
  siteID : Option String := none
  siteAreaID : Option String := none
  companyID : Option String := none
  connectorIDs : List ℕ := [1]
  remoteAuthorizations : List RemoteAuthorization := []
  deriving DecidableEq

/-- `Tag`, with the `uid` of its token when it comes from a platform. -/
structure Tag where
  id : String
  visualID : String := ""
  issuer : Bool := true
  active : Bool := true
  userID : Option String := none
  ocpiToken : Option String := none
  /-- The `valid` of the token. -/
  ocpiTokenValid : Bool := true
  createdOn : Timestamp := 0
  deriving DecidableEq, Repr

/-- `Transaction`, up to what authorisation does not look at. -/
structure Transaction where
  id : ℕ
  tagID : String
  userID : Option String := none
  chargeBoxID : String
  connectorId : ℕ := 1
  siteID : Option String := none
  siteAreaID : Option String := none
  timestamp : Timestamp := 0
  /-- There is a `stop`. -/
  stopped : Bool := false
  /-- `oicpData.session.id`. -/
  oicpSessionID : Option String := none
  /-- `ocpiData.session.authorization_id`. -/
  ocpiAuthorizationID : Option String := none
  currentTotalConsumptionWh : ℚ := 0
  deriving DecidableEq, Repr

/-- The collections of an organisation. -/
structure Organization where
  tags : Collection Tag.id := .empty
  transactions : Collection Transaction.id := .empty
  chargingStations : Collection ChargingStation.id := .empty
  sites : Collection Site.id := .empty
  siteAreas : Collection SiteArea.id := .empty
  users : Collection User.id := .empty
  userSites : List UserSite := []
  deriving DecidableEq

namespace Utils

/-- `Utils.isTenantComponentActive`. -/
def isTenantComponentActive (tenant : Tenant) (component : TenantComponents) : Bool :=
  ((tenant.components.find? fun entry => entry.1 = component).map Prod.snd).getD false

/-- `Utils.getTenantActiveComponents`. -/
def getTenantActiveComponents (tenant : Tenant) : List TenantComponents :=
  (tenant.components.filter Prod.snd).map Prod.fst

/-- `Utils.isComponentActiveFromToken`. -/
def isComponentActiveFromToken (userToken : UserToken) (component : TenantComponents) : Bool :=
  component ∈ userToken.activeComponents

/-- A list that filters, when it is not empty (`!Utils.isEmptyArray`). -/
def nonEmptyArray (ids : Option (List String)) : Option (List String) := ids.filter (· ≠ [])

/-- The components of a tenant and those that are active agree. -/
theorem mem_getTenantActiveComponents {tenant : Tenant} {component : TenantComponents} :
    component ∈ getTenantActiveComponents tenant ↔ isTenantComponentActive tenant component := by
  obtain ⟨components, nodup⟩ := tenant
  change component ∈ (components.filter Prod.snd).map Prod.fst ↔
    ((components.find? fun entry => entry.1 = component).map Prod.snd).getD false = true
  induction components with
  | nil => simp
  | cons entry rest ih =>
      obtain ⟨name, active⟩ := entry
      rw [List.map_cons, List.nodup_cons] at nodup
      by_cases same : name = component
      · subst same
        have absent : name ∉ (rest.filter Prod.snd).map Prod.fst := fun mem =>
          nodup.1 ((List.filter_sublist.map Prod.fst).subset mem)
        cases active <;> simp_all
      · have others := ih nodup.2
        cases active <;> simp_all [Ne.symm same]

/-- `Utils.checkRecordLimit`, with `Constants.DB_RECORD_COUNT_DEFAULT`. -/
def checkRecordLimit (recordLimit : ℕ) : ℕ := if recordLimit = 0 then 100 else recordLimit

@[simp] theorem nonEmptyArray_none : nonEmptyArray none = none := rfl

@[simp] theorem nonEmptyArray_some {ids : List String} :
    nonEmptyArray (some ids) = if ids = [] then none else some ids := by
  by_cases h : ids = [] <;> simp [nonEmptyArray, h]

end Utils

/-! ## Queries -/

/-- `DbParams`, with the order of a page, when one is asked for. -/
structure DbParams (α : Type) where
  limit : ℕ
  skip : ℕ := 0
  sort : Option (α → α → Bool) := none
  onlyRecordCount : Bool := false

/-- The page of a query that is asked for. -/
def DbParams.page {α : Type} (dbParams : DbParams α) (order : α → α → Bool) (found : List α) :
    List α :=
  if dbParams.onlyRecordCount then []
  else ((found.mergeSort order).drop dbParams.skip).take (Utils.checkRecordLimit dbParams.limit)

section Pages

variable {α : Type} {dbParams : DbParams α} {order : α → α → Bool} {found : List α} {a : α}

theorem mem_of_mem_page (h : a ∈ dbParams.page order found) : a ∈ found := by
  rw [DbParams.page] at h
  split at h
  · cases h
  · have sorted := List.mem_of_mem_drop (List.mem_of_mem_take h)
    exact (List.mergeSort_perm _ _).mem_iff.mp sorted

/-- One page is large enough. -/
theorem page_all (mem : a ∈ found) :
    a ∈ ({ limit := found.length + 1 } : DbParams α).page order found := by
  have limit : Utils.checkRecordLimit (found.length + 1) = found.length + 1 :=
    if_neg (Nat.succ_ne_zero _)
  have long : (found.mergeSort order).length ≤ found.length + 1 := by
    rw [List.length_mergeSort]
    exact Nat.le_succ _
  rw [DbParams.page, if_neg Bool.false_ne_true, List.drop_zero, limit,
    List.take_of_length_le long, List.mem_mergeSort]
  exact mem

end Pages

/-- How the database answers the text search and the search by position of `getSites`. -/
structure SiteIndex where
  search : String → Site → Bool
  /-- `distanceMeters` of `$geoNear`, for a site that has coordinates. -/
  distanceMeters : ℚ × ℚ → Site → Option ℚ

/-- The parameters of `getSites`. -/
structure GetSitesParams where
  search : Option String := none
  companyIDs : Option (List String) := none
  siteIDs : Option (List String) := none
  userID : Option String := none
  excludeSitesOfUserID : Option String := none
  issuer : Option Bool := none
  locCoordinates : Option (ℚ × ℚ) := none
  locMaxDistanceMeters : Option ℚ := none

/-- `Constants.MAX_GPS_DISTANCE_METERS`. -/
def Constants.maxGpsDistanceMeters : ℚ := 40000000

namespace Organization

variable (organization : Organization)

/-- Whether the user is assigned to the site, by a document of `siteusers`. -/
def isAssigned (userID siteID : String) : Bool :=
  organization.userSites.any fun userSite => userSite.userID = userID ∧ userSite.siteID = siteID

/-- The filter on `siteusers.userID`: to exclude a user replaces the filter on another one. -/
def passesUser (params : GetSitesParams) (site : Site) : Bool :=
  match params.excludeSitesOfUserID with
  | some userID => !organization.isAssigned userID site.id
  | none => params.userID.all fun userID => organization.isAssigned userID site.id

end Organization

/-- The distance that is searched; a positive one that is asked for. -/
def GetSitesParams.maxDistance (params : GetSitesParams) : ℚ :=
  match params.locMaxDistanceMeters with
  | some distance => if 0 < distance then distance else Constants.maxGpsDistanceMeters
  | none => Constants.maxGpsDistanceMeters

/-- The filters of `getSites` that are not those on IDs, on the issuer and on users. -/
def GetSitesParams.isFound (index : SiteIndex) (params : GetSitesParams) (site : Site) : Bool :=
  (params.search.all fun text => index.search text site) &&
    (params.locCoordinates.all fun position =>
      (index.distanceMeters position site).any fun distance => distance ≤ params.maxDistance) &&
    (Utils.nonEmptyArray params.companyIDs).all fun companyIDs =>
      site.companyID.any (· ∈ companyIDs)

namespace SiteStorage

/-- The filters of `getSites`. -/
def passes (index : SiteIndex) (organization : Organization) (params : GetSitesParams)
    (site : Site) : Bool :=
  params.isFound index site &&
    ((Utils.nonEmptyArray params.siteIDs).all fun siteIDs => site.id ∈ siteIDs) &&
    (params.issuer.all fun issuer => site.issuer = issuer) &&
    organization.passesUser params site

/-- The order of a page: by distance, as it is asked for, or by name. -/
def order (index : SiteIndex) (params : GetSitesParams) (sort : Option (Site → Site → Bool)) :
    Site → Site → Bool :=
  match params.locCoordinates with
  | some position => fun site site' =>
      (index.distanceMeters position site).getD 0 ≤ (index.distanceMeters position site').getD 0
  | none => sort.getD fun site site' => site.name ≤ site'.name

/-- `SiteStorage.getSites`. -/
def getSites (index : SiteIndex) (organization : Organization) (params : GetSitesParams)
    (dbParams : DbParams Site) : List Site :=
  dbParams.page (order index params dbParams.sort)
    (organization.sites.docs.filter (passes index organization params))

/-- `SiteStorage.getSite`; the `_id` of a site is unique. -/
def getSite (organization : Organization) (id : String) (issuer : Option Bool) : Option Site :=
  (organization.sites.find id).filter fun site => issuer.all fun issuer => site.issuer = issuer

end SiteStorage

/-- `SiteAreaStorage.getSiteArea`; the `_id` of a site area is unique. -/
def SiteAreaStorage.getSiteArea (organization : Organization) (id : String)
    (siteIDs : Option (List String)) (issuer : Option Bool) : Option SiteArea :=
  (organization.siteAreas.find id).filter fun siteArea =>
    ((Utils.nonEmptyArray siteIDs).all fun siteIDs => siteArea.siteID.any (· ∈ siteIDs)) &&
      issuer.all fun issuer => siteArea.issuer = issuer

namespace UserStorage

/-- `UserStorage.getUserSites`: the sites of a user that are stored. -/
def getUserSites (organization : Organization) (userID : String) : List UserSite :=
  organization.userSites.filter fun userSite =>
    userSite.userID = userID ∧ (organization.sites.find userSite.siteID).isSome

end UserStorage

/-! ## Data sources -/

/-- The data of the data sources of the dynamic filters. -/
structure DataSources where
  assignedSites : List String
  assignedSitesCompanies : List String
  sitesAdmin : List String
  sitesOwner : List String
  ownUser : String
  deriving DecidableEq, Repr

namespace DynamicAuthorizationFactory

variable (organization : Organization) (userID : String)

/-- `AssignedSitesDynamicAuthorizationDataSource.getAssignedSiteIDs`. -/
def getAssignedSiteIDs : List String :=
  ((organization.sites.docs.filter fun site =>
    site.issuer ∧ organization.isAssigned userID site.id).map Site.id).eraseDups

/-- `AssignedSitesCompaniesDynamicAuthorizationDataSource.getAssignedSitesCompanyIDs`. -/
def getAssignedSitesCompanyIDs : List String :=
  ((organization.sites.docs.filter fun site =>
    site.issuer ∧ organization.isAssigned userID site.id).filterMap Site.companyID).eraseDups

/-- `SitesAdminDynamicAuthorizationDataSource.getSitesAdminSiteIDs`. -/
def getSitesAdminSiteIDs : List String :=
  ((UserStorage.getUserSites organization userID).filter UserSite.siteAdmin).map UserSite.siteID

/-- `SitesOwnerDynamicAuthorizationDataSource.getSitesOwnerSiteIDs`. -/
def getSitesOwnerSiteIDs : List String :=
  ((UserStorage.getUserSites organization userID).filter UserSite.siteOwner).map UserSite.siteID

/-- `DynamicAuthorizationFactory.getDynamicDataSource`, for all data sources. -/
def getDynamicDataSources : DataSources where
  assignedSites := getAssignedSiteIDs organization userID
  assignedSitesCompanies := getAssignedSitesCompanyIDs organization userID
  sitesAdmin := getSitesAdminSiteIDs organization userID
  sitesOwner := getSitesOwnerSiteIDs organization userID
  ownUser := userID

variable {organization : Organization} {userID siteID : String}

theorem isAssigned_iff :
    organization.isAssigned userID siteID ↔
      ∃ userSite ∈ organization.userSites, userSite.userID = userID ∧ userSite.siteID = siteID := by
  simp [Organization.isAssigned]

theorem mem_getAssignedSiteIDs :
    siteID ∈ getAssignedSiteIDs organization userID ↔
      ∃ site ∈ organization.sites.docs, site.id = siteID ∧ site.issuer ∧
        organization.isAssigned userID siteID := by
  rw [getAssignedSiteIDs, List.mem_eraseDups, List.mem_map]
  constructor
  · rintro ⟨site, mem, rfl⟩
    obtain ⟨mem, passes⟩ := List.mem_filter.mp mem
    exact ⟨site, mem, rfl, of_decide_eq_true passes⟩
  · rintro ⟨site, mem, rfl, passes⟩
    exact ⟨site, List.mem_filter.mpr ⟨mem, decide_eq_true passes⟩, rfl⟩

theorem mem_getUserSites {userSite : UserSite} :
    userSite ∈ UserStorage.getUserSites organization userID ↔
      userSite ∈ organization.userSites ∧ userSite.userID = userID ∧
        (organization.sites.find userSite.siteID).isSome := by
  simp [UserStorage.getUserSites]

theorem mem_getSitesAdminSiteIDs :
    siteID ∈ getSitesAdminSiteIDs organization userID ↔
      ∃ userSite ∈ UserStorage.getUserSites organization userID,
        userSite.siteAdmin ∧ userSite.siteID = siteID := by
  simp [getSitesAdminSiteIDs, and_assoc]

theorem mem_getSitesOwnerSiteIDs :
    siteID ∈ getSitesOwnerSiteIDs organization userID ↔
      ∃ userSite ∈ UserStorage.getUserSites organization userID,
        userSite.siteOwner ∧ userSite.siteID = siteID := by
  simp [getSitesOwnerSiteIDs, and_assoc]

/-- Who administers a site is assigned to it. -/
theorem isAssigned_of_mem_sitesAdmin (h : siteID ∈ getSitesAdminSiteIDs organization userID) :
    organization.isAssigned userID siteID := by
  obtain ⟨userSite, mem, _, same⟩ := mem_getSitesAdminSiteIDs.mp h
  obtain ⟨stored, user, _⟩ := mem_getUserSites.mp mem
  exact isAssigned_iff.mpr ⟨userSite, stored, user, same⟩

end DynamicAuthorizationFactory

/-! ## Tokens -/

namespace Authorizations

/-- `Authorizations.getAuthGroupsFromUser`. -/
def getAuthGroupsFromUser (userRole : UserRole) (sitesAdminCount sitesOwnerCount : ℕ) :
    List Role :=
  match userRole with
  | .admin => [.admin]
  | .superAdmin => [.superAdmin]
  | .basic =>
      let roles := (if 0 < sitesAdminCount then [Role.siteAdmin] else []) ++
        if 0 < sitesOwnerCount then [Role.siteOwner] else []
      if roles = [] then [.basic] else roles
  | .demo => [.demo]

/-- `Authorizations.buildUserToken`; the tags are given with whether each is active. -/
def buildUserToken (tenant : Tenant) (organization : Organization) (user : User)
    (tags : List (String × Bool)) : UserToken :=
  let sites := UserStorage.getUserSites organization user.id
  let siteIDs := if user.role = .admin then [] else sites.map UserSite.siteID
  let siteAdminIDs :=
    if user.role = .admin then [] else (sites.filter UserSite.siteAdmin).map UserSite.siteID
  let siteOwnerIDs := (sites.filter UserSite.siteOwner).map UserSite.siteID
  { id := user.id
    ne_id := user.ne_id
    role := user.role
    rolesACL := getAuthGroupsFromUser user.role siteAdminIDs.length siteOwnerIDs.length
    tagIDs := (tags.filter Prod.snd).map Prod.fst
    sites := siteIDs
    sitesAdmin := siteAdminIDs
    sitesOwner := siteOwnerIDs
    activeComponents := Utils.getTenantActiveComponents tenant }

end Authorizations

/-- A token whose roles are those of its user. -/
def UserToken.HasRoles (userToken : UserToken) : Prop :=
  ∃ sitesAdminCount sitesOwnerCount, userToken.rolesACL =
    Authorizations.getAuthGroupsFromUser userToken.role sitesAdminCount sitesOwnerCount

/-- A token of a user of the tenant: it is renewed when the components of the tenant change. -/
structure UserToken.IsOf (userToken : UserToken) (tenant : Tenant) : Prop where
  roles : userToken.HasRoles
  components : userToken.activeComponents = Utils.getTenantActiveComponents tenant

namespace UserToken.HasRoles

variable {userToken : UserToken}

theorem admin (h : userToken.HasRoles) (role : userToken.role = .admin) :
    userToken.rolesACL = [.admin] := by
  obtain ⟨_, _, roles⟩ := h
  rw [roles, role]
  rfl

theorem superAdmin (h : userToken.HasRoles) (role : userToken.role = .superAdmin) :
    userToken.rolesACL = [.superAdmin] := by
  obtain ⟨_, _, roles⟩ := h
  rw [roles, role]
  rfl

theorem demo (h : userToken.HasRoles) (role : userToken.role = .demo) :
    userToken.rolesACL = [.demo] := by
  obtain ⟨_, _, roles⟩ := h
  rw [roles, role]
  rfl

theorem basic_cases (h : userToken.HasRoles) (basic : userToken.role = .basic) :
    userToken.rolesACL = [.basic] ∨ userToken.rolesACL = [.siteAdmin] ∨
      userToken.rolesACL = [.siteOwner] ∨ userToken.rolesACL = [.siteAdmin, .siteOwner] := by
  obtain ⟨sitesAdminCount, sitesOwnerCount, roles⟩ := h
  rw [roles, basic]
  by_cases admin : 0 < sitesAdminCount <;> by_cases owner : 0 < sitesOwnerCount <;>
    simp [Authorizations.getAuthGroupsFromUser, admin, owner]

theorem cases (h : userToken.HasRoles) :
    userToken.rolesACL = [.admin] ∨ userToken.rolesACL = [.superAdmin] ∨
      userToken.rolesACL = [.demo] ∨ userToken.rolesACL = [.basic] ∨
      userToken.rolesACL = [.siteAdmin] ∨ userToken.rolesACL = [.siteOwner] ∨
      userToken.rolesACL = [.siteAdmin, .siteOwner] := by
  rcases role : userToken.role
  · exact .inr (.inl (h.superAdmin role))
  · exact .inl (h.admin role)
  · exact .inr (.inr (.inr (h.basic_cases role)))
  · exact .inr (.inr (.inl (h.demo role)))

end UserToken.HasRoles

end EvServer.Authorization
