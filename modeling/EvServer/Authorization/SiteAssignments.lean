import EvServer.Authorization.EntityAuthorization

/-!
# Assigning users to sites

A user is added to a site at two places: a user's sites are assigned (`UserService`), or a
site's users are (`SiteService`).  Each endpoint checks that its own entity can be read and
that users may be assigned to sites, and then reads the others with the filters of that check.

The action is derived from the name of the endpoint, by a test that only knows one of the two.
-/

namespace EvServer.Authorization

open AccessControl

/-- `ServerAction`, of these endpoints. -/
inductive ServerAction
  | addUsersToSite
  | removeUsersFromSite
  | addSitesToUser
  | removeSitesFromUser
  deriving DecidableEq, Repr

/-- `SiteStorage.getSites` without a limit and in any order, by the filters of a check. -/
def SiteStorage.getAllSites (organization : Organization) (filters : Filters) : List Site :=
  organization.sites.docs.filter fun site =>
    ((Utils.nonEmptyArray filters.siteIDs).all fun siteIDs => site.id ∈ siteIDs) &&
      ((Utils.nonEmptyArray filters.companyIDs).all fun companyIDs =>
        site.companyID.any (· ∈ companyIDs)) &&
      filters.issuer.all fun issuer => site.issuer = issuer

namespace UserStorage

/-- `UserStorage.getUsers` without a limit and in any order, by the filters of a check; an empty
list of sites is a filter here. -/
def getAllUsers (organization : Organization) (filters : Filters) : List User :=
  organization.users.docs.filter fun user =>
    ((Utils.nonEmptyArray filters.userIDs).all fun userIDs => user.id ∈ userIDs) &&
      (filters.issuer.all fun issuer => user.issuer = issuer) &&
      filters.siteIDs.all fun siteIDs =>
        siteIDs.any fun siteID => organization.isAssigned user.id siteID

/-- `UserStorage.getUser`, which knows the filter by sites only; the `_id` is unique. -/
def getUser (organization : Organization) (id : String) (siteIDs : Option (List String)) :
    Option User :=
  (organization.users.find id).filter fun user =>
    siteIDs.all fun siteIDs => siteIDs.any fun siteID => organization.isAssigned user.id siteID

end UserStorage

/-- `insertMany` of user sites that are neither admin nor owner; their `_id` is a hash of the
two IDs. -/
def Organization.insertUserSites (organization : Organization) (userSites : List UserSite) :
    Except AppError Organization := do
  Outcome.refuse (∃ userSite ∈ userSites, organization.isAssigned userSite.userID userSite.siteID)
    (.generalError "E11000 duplicate key error")
  return { organization with userSites := organization.userSites ++ userSites }

/-- `deleteMany` of user sites. -/
def Organization.deleteUserSites (organization : Organization) (userSites : List UserSite) :
    Organization :=
  { organization with
    userSites := organization.userSites.filter fun stored =>
      !userSites.any fun userSite =>
        userSite.userID = stored.userID ∧ userSite.siteID = stored.siteID }

namespace AuthorizationService

variable (acl : RoleAcl) (definition : AuthorizationDefinition) (organization : Organization)
  (userToken : UserToken)

/-- `addUserAuthorizations`. -/
def userFlags : List Flag := [
  ⟨"canUpdate", .user, .update⟩,
  ⟨"canDelete", .user, .delete⟩]

/-- `checkAssignSiteUsersAuthorizations`; the request has no property that filters look for. -/
def checkAssignSiteUsersAuthorizations (action : ServerAction) :
    Except AppError AuthorizationFilter :=
  checkAuthorizationAction acl definition organization userToken .usersSites
    (if action = .addUsersToSite then .assign else .unassign) {}

/-- `checkAndAssignUserSitesAuthorizations`; it tests the action of the other endpoint. -/
def checkAndAssignUserSitesAuthorizations (action : ServerAction) :
    Except AppError AuthorizationFilter :=
  checkAuthorizationAction acl definition organization userToken .usersSites
    (if action = .addUsersToSite then .assign else .unassign) {}

end AuthorizationService

namespace UtilsService

variable (acl : RoleAcl) (definition : AuthorizationDefinition) (organization : Organization)
  (userToken : UserToken)

/-- `assertComponentIsActiveFromToken`. -/
def assertComponentIsActiveFromToken (component : TenantComponents) (action : Action)
    (entity : Entity) (method : String) : Except AppError Unit :=
  Outcome.refuse (Utils.isComponentActiveFromToken userToken component = false)
    (.forbidden action entity method)

/-- The parameters of `checkAndGetUserAuthorization`. -/
def user : CheckedEntity User where
  entity := .user
  method := "checkAndGetUserAuthorization"
  entityID id := { userID := some [id] }
  get organization id filters := UserStorage.getUser organization id filters.siteIDs
  doesNotExist id := s!"User ID '{id}' does not exist"
  data projectFields user :=
    { issuer :=
        if isProjected (Utils.nonEmptyArray projectFields) "issuer" then some user.issuer
        else none
      role :=
        if isProjected (Utils.nonEmptyArray projectFields) "role" then some user.role else none }
  flagFilters projectFields user :=
    { userID :=
        if isProjected (Utils.nonEmptyArray projectFields) "id" then some [user.id] else none }
  flags := AuthorizationService.userFlags

/-- `checkAndGetUserAuthorization`, of all fields, with the check of the issuer: it is on the way
between the check of the entity and that of the flag. -/
def checkAndGetUserAuthorization (userID : String) (authAction : Action) :
    Except AppError (AuthorizedEntity User) := do
  let forbidden : AppError := .forbidden authAction .user user.method
  -- Check mandatory fields
  Outcome.refuse (userID = "") (.generalError "The ID must be provided")
  -- Get dynamic auth
  let filter ← AuthorizationService.checkAndGetEntityAuthorizations acl definition organization
    userToken .user (user.entityID userID) authAction none
  Outcome.refuse (filter.authorized = false) forbidden
  -- Get User
  match user.get organization userID filter.filters with
  | none => throw (.objectDoesNotExist (user.doesNotExist userID))
  | some found =>
      -- External User
      Outcome.refuse (found.issuer = false) (.generalError
        s!"User '{found.name}' with ID '{found.id}' not issued by the organization")
      -- Add actions
      let flags := entityFlags user acl definition organization userToken none found filter
      Outcome.refuse (AuthorizationService.canPerformAction flags authAction = false) forbidden
      return {
        entity := found
        projectFields := filter.projectFields
        metadata := filter.metadata
        flags := flags }

/-- `checkUserSitesAuthorization`, for a user that has been read. -/
def checkUserSitesAuthorization (siteIDs : List String) (action : ServerAction) :
    Except AppError (List Site) := do
  Outcome.refuse (siteIDs = []) (.generalError "The Site's IDs must be provided")
  -- Check dynamic auth for assignment
  let filter ← AuthorizationService.checkAndAssignUserSitesAuthorizations acl definition
    organization userToken action
  Outcome.refuse (filter.authorized = false) (.forbidden
    (if action = .addSitesToUser then .assign else .unassign) .usersSites
    "checkUserSitesAuthorization")
  -- Get Sites, keep the relevant result
  let sites := (SiteStorage.getAllSites organization
    (Filters.merge { siteIDs := some siteIDs } filter.filters)).filter (·.id ∈ siteIDs)
  -- Must have the same result
  Outcome.refuse (siteIDs.length ≠ sites.length) (.forbidden
    (if action = .addUsersToSite then .assign else .unassign) .usersSites
    "checkUserSitesAuthorization")
  return sites

/-- `checkSiteUsersAuthorization`, for a site that has been read. -/
def checkSiteUsersAuthorization (userIDs : List String) (action : ServerAction) :
    Except AppError (List User) := do
  Outcome.refuse (userIDs = []) (.generalError "The User's IDs must be provided")
  -- Check dynamic auth for assignment
  let filter ← AuthorizationService.checkAssignSiteUsersAuthorizations acl definition
    organization userToken action
  Outcome.refuse (filter.authorized = false) (.forbidden
    (if action = .addUsersToSite then .assign else .unassign) .usersSites
    "checkSiteUsersAuthorization")
  -- Get Users, keep the relevant result
  let users := (UserStorage.getAllUsers organization
    (Filters.merge { userIDs := some userIDs } filter.filters)).filter (·.id ∈ userIDs)
  -- Must have the same result
  Outcome.refuse (userIDs.length ≠ users.length) (.forbidden
    (if action = .addUsersToSite then .assign else .unassign) .usersSites
    "checkSiteUsersAuthorization")
  return users

end UtilsService

section Endpoints

variable (acl : RoleAcl) (definition : AuthorizationDefinition) (organization : Organization)
  (userToken : UserToken) (action : ServerAction)

/-- What `handleAssignSitesToUser` checks: the sites that are to be assigned. -/
def UserService.authorizeAssignSitesToUser (userID : String) (siteIDs : List String) :
    Except AppError (List Site) := do
  UtilsService.assertComponentIsActiveFromToken userToken .organization .update .site
    "handleAssignSitesToUser"
  let _ ← UtilsService.checkAndGetUserAuthorization acl definition organization userToken userID
    .read
  UtilsService.checkUserSitesAuthorization acl definition organization userToken siteIDs action

/-- What `handleAssignUsersToSite` checks: the users that are to be assigned. -/
def SiteService.authorizeAssignUsersToSite (siteID : String) (userIDs : List String) :
    Except AppError (List User) := do
  UtilsService.assertComponentIsActiveFromToken userToken .organization .update .site
    "handleAssignUsersToSite"
  let _ ← UtilsService.checkAndGetSiteAuthorization acl definition organization userToken .read
    none {} false siteID
  UtilsService.checkSiteUsersAuthorization acl definition organization userToken userIDs action

/-- `handleAssignSitesToUser`. -/
def UserService.handleAssignSitesToUser (userID : String) (siteIDs : List String) :
    Except AppError Organization := do
  let sites ← UserService.authorizeAssignSitesToUser acl definition organization userToken action
    userID siteIDs
  let userSites := sites.map fun site => { userID := userID, siteID := site.id : UserSite }
  if action = .addSitesToUser then organization.insertUserSites userSites
  else return organization.deleteUserSites userSites

/-- `handleAssignUsersToSite`. -/
def SiteService.handleAssignUsersToSite (siteID : String) (userIDs : List String) :
    Except AppError Organization := do
  let users ← SiteService.authorizeAssignUsersToSite acl definition organization userToken action
    siteID userIDs
  let userSites := users.map fun user => { userID := user.id, siteID := siteID : UserSite }
  if action = .addUsersToSite then organization.insertUserSites userSites
  else return organization.deleteUserSites userSites

end Endpoints

end EvServer.Authorization
