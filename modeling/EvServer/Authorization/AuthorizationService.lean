import EvServer.Authorization.Organization
import EvServer.Lib.Outcome

/-!
# Static and dynamic authorization (`AuthorizationService`)

A request is granted by the static definition first.  What the grant's condition has left in the
context are names of filters, which restrict the queries to come, and of assertions on the
entity; all of them have to authorize the request.

One object carries the outcome of these checks, and those for the `can…` flags of an entity are
made on it one after the other.
-/

namespace EvServer.Authorization

open AccessControl

/-- `AppError`, and `AppAuthError`, which is `HTTPAuthError.FORBIDDEN`. -/
inductive AppError
  | forbidden (action : Action) (entity : Entity) (method : String)
  | generalError (message : String)
  | objectDoesNotExist (message : String)
  deriving DecidableEq, Repr

/-- What a filter may be asked to restrict itself to. -/
structure ExtraFilters where
  siteID : Option (List String) := none
  companyID : Option (List String) := none
  userID : Option (List String) := none
  projectFields : Option (List String) := none
  deriving DecidableEq, Repr

/-- `EntityData`, up to the properties that filters and assertions look at. -/
structure EntityData where
  issuer : Option Bool := none
  userID : Option String := none
  siteAreaID : Option String := none
  role : Option UserRole := none
  isPoolCar : Bool := false
  deriving DecidableEq, Repr

/-- The filters of a query. -/
structure Filters where
  siteIDs : Option (List String) := none
  companyIDs : Option (List String) := none
  userIDs : Option (List String) := none
  issuer : Option Bool := none
  deriving DecidableEq, Repr

/-- `AuthorizationFilter`. -/
structure AuthorizationFilter where
  filters : Filters := {}
  projectFields : List String := []
  authorized : Bool := false
  metadata : Option Metadata := none
  deriving DecidableEq, Repr

/-- `{ ...filters, ...others }`. -/
def Filters.merge (filters others : Filters) : Filters where
  siteIDs := others.siteIDs <|> filters.siteIDs
  companyIDs := others.companyIDs <|> filters.companyIDs
  userIDs := others.userIDs <|> filters.userIDs
  issuer := others.issuer <|> filters.issuer

/-! ## Filters -/

/-- The IDs that a filter forces: those of its data source that are asked for, if any are. -/
def forcedIDs (ids : List String) (filteredIDs : Option (List String)) : List String :=
  match filteredIDs with
  | some filteredIDs => filteredIDs.filter (· ∈ ids)
  | none => ids

theorem mem_forcedIDs {ids : List String} {filteredIDs : Option (List String)} {id : String} :
    id ∈ forcedIDs ids filteredIDs ↔
      id ∈ ids ∧ ∀ requested, filteredIDs = some requested → id ∈ requested := by
  rcases filteredIDs with _ | filteredIDs
  · simp [forcedIDs]
  · simp [forcedIDs, and_comm]

/-- A filter by IDs does not withdraw an authorization that is there. -/
def AuthorizationFilter.authorizeIDs (filter : AuthorizationFilter) (ids : List String) : Bool :=
  filter.authorized || ids ≠ []

section Process

variable (sources : DataSources) (extra : ExtraFilters) (filter : AuthorizationFilter)

/-- The filters on sites. -/
def processSites (ids : List String) : AuthorizationFilter :=
  let siteIDs := forcedIDs ids extra.siteID
  { filter with
    filters := { filter.filters with siteIDs := some siteIDs }
    authorized := filter.authorizeIDs siteIDs }

/-- `DynamicAuthorizationFilter.processFilter`. -/
def processFilter (entityData : Option EntityData) :
    DynamicAuthorizationFilterName → AuthorizationFilter
  | .assignedSites => processSites extra filter sources.assignedSites
  | .sitesAdmin => processSites extra filter sources.sitesAdmin
  | .sitesOwner => processSites extra filter sources.sitesOwner
  | .assignedSitesCompanies =>
      let companyIDs := forcedIDs sources.assignedSitesCompanies extra.companyID
      { filter with
        filters := { filter.filters with companyIDs := some companyIDs }
        authorized := filter.authorizeIDs companyIDs }
  | .ownUser =>
      let userIDs := if sources.ownUser = "" then [] else forcedIDs [sources.ownUser] extra.userID
      { filter with
        filters := { filter.filters with userIDs := some userIDs }
        authorized := filter.authorizeIDs userIDs }
  | .localIssuer =>
      { filter with
        filters := { filter.filters with issuer := some true }
        authorized := ((entityData.bind EntityData.issuer).getD true) }
  | .excludeAction => { filter with authorized := false }

end Process

/-- The name of a filter or of an assertion. -/
def Negatable.name {Name : Type} : Negatable Name → Name
  | .plain name => name
  | .negated name => name

/-- An outcome, or the opposite of it. -/
def Negatable.negate {Name : Type} (authorized : Bool) : Negatable Name → Bool
  | .plain _ => authorized
  | .negated _ => !authorized

/-- `DynamicAuthorizationAssert.processAssert`. -/
def processAssert (userToken : UserToken) (entityData : EntityData) :
    DynamicAuthorizationAssertName → Bool
  | .poolCar => entityData.isPoolCar
  | .ownUser => entityData.userID.any fun userID => userID ≠ "" ∧ userID = userToken.id
  | .basicUser => entityData.role = some .basic
  | .userMandatory => entityData.userID.any (· ≠ "")
  | .siteAreaMandatory => entityData.siteAreaID.any (· ≠ "")

namespace AuthorizationService

/-- The filters of an OR: all of them are processed, and one that authorizes is enough. -/
def processAnyFilter (sources : DataSources) (extra : ExtraFilters)
    (entityData : Option EntityData) (authorized : Bool) :
    List (Negatable DynamicAuthorizationFilterName) → AuthorizationFilter → AuthorizationFilter
  | [], filter => { filter with authorized := authorized }
  | filterToProcess :: filtersToProcess, filter =>
      let processed := processFilter sources extra filter entityData filterToProcess.name
      let processed :=
        { processed with authorized := filterToProcess.negate processed.authorized }
      processAnyFilter sources extra entityData (authorized || processed.authorized)
        filtersToProcess processed

/-- `processDynamicFilters`: the first list that does not authorize ends it. -/
def processDynamicFilters (sources : DataSources) (extra : ExtraFilters)
    (entityData : Option EntityData) :
    AndOfOrs DynamicAuthorizationFilterName → AuthorizationFilter → AuthorizationFilter
  | [], filter => filter
  | filtersToProcess :: filters, filter =>
      let processed := processAnyFilter sources extra entityData false filtersToProcess
        { filter with authorized := false }
      if processed.authorized then
        processDynamicFilters sources extra entityData filters processed
      else processed

/-- `processDynamicAsserts`, on an entity that is given. -/
def processDynamicAsserts (userToken : UserToken) (entityData : Option EntityData)
    (asserts : AndOfOrs DynamicAuthorizationAssertName) (filter : AuthorizationFilter) :
    AuthorizationFilter :=
  match entityData with
  | none => filter
  | some entityData =>
      if asserts = [] then filter
      else
        { filter with
          authorized := asserts.all fun assertsToProcess =>
            assertsToProcess.any fun assertToProcess =>
              assertToProcess.negate (processAssert userToken entityData assertToProcess.name) }

/-- `filterProjectFields`. -/
def filterProjectFields (authFields : List String) (httpProjectField : Option (List String)) :
    List String :=
  (match Utils.nonEmptyArray httpProjectField with
    | some httpProjectFields => authFields.filter (· ∈ httpProjectFields)
    | none => authFields).filter (· ≠ "*")

section Authorize

variable (acl : RoleAcl) (definition : AuthorizationDefinition) (organization : Organization)
  (userToken : UserToken)

/-- `Authorizations.can`. -/
def can (authEntity : Entity) (authAction : Action) (context : AuthorizationContext) :
    Permission AuthorizationContext :=
  acl.can definition userToken.rolesACL authEntity authAction context

/-- `canPerformAuthorizationAction`, which returns the filter's `authorized`. -/
def canPerformAuthorizationAction (authEntity : Entity) (authAction : Action)
    (filteredRequest : ExtraFilters) (entityData : Option EntityData)
    (filter : AuthorizationFilter) : AuthorizationFilter :=
  -- Check static auth
  let authResult := can acl definition userToken authEntity authAction {}
  let filter := { filter with authorized := authResult.granted }
  if filter.authorized then
    -- Process Dynamic Filters
    let sources :=
      DynamicAuthorizationFactory.getDynamicDataSources organization userToken.id
    let filter := processDynamicFilters sources filteredRequest entityData
      authResult.context.filters filter
    let filter :=
      if filter.authorized then
        -- Keep the Meta Data, process Dynamic Assertions
        processDynamicAsserts userToken entityData authResult.context.asserts
          { filter with metadata := authResult.context.metadata }
      else filter
    { filter with
      projectFields := filterProjectFields authResult.attributes filteredRequest.projectFields }
  else filter

/-- `canPerformAuthorizationAction` with `failsWithException`, on a new filter; it throws on the
static check only. -/
def checkAuthorizationAction (authEntity : Entity) (authAction : Action)
    (filteredRequest : ExtraFilters) : Except AppError AuthorizationFilter := do
  Outcome.refuse ((can acl definition userToken authEntity authAction {}).granted = false)
    (.forbidden authAction authEntity "canPerformAuthorizationAction")
  return canPerformAuthorizationAction acl definition organization userToken authEntity authAction
    filteredRequest none {}

/-- `checkAndGetEntityAuthorizations`; the request is by ID and has no fields to project. -/
def checkAndGetEntityAuthorizations (authEntity : Entity) (entityID : ExtraFilters)
    (authAction : Action) (entityData : Option EntityData) :
    Except AppError AuthorizationFilter := do
  let forbidden : AppError :=
    .forbidden authAction authEntity "checkAndGetEntityAuthorizations"
  -- Check Static Auths
  let authResult := can acl definition userToken authEntity authAction {}
  Outcome.refuse (authResult.granted = false) forbidden
  -- Process Dynamic Filters
  let sources := DynamicAuthorizationFactory.getDynamicDataSources organization userToken.id
  let filter := processDynamicFilters sources entityID entityData authResult.context.filters
    { authorized := true }
  Outcome.refuse (filter.authorized = false) forbidden
  -- Keep the Meta Data, process Dynamic Assertions
  let filter := processDynamicAsserts userToken entityData authResult.context.asserts
    { filter with metadata := authResult.context.metadata }
  Outcome.refuse (filter.authorized = false) forbidden
  return { filter with projectFields := filterProjectFields authResult.attributes none }

end Authorize

section Checks

variable {acl : RoleAcl} {definition : AuthorizationDefinition} {organization : Organization}
  {userToken : UserToken} {authEntity : Entity} {authAction : Action} {extra : ExtraFilters}
  {filters : AndOfOrs DynamicAuthorizationFilterName}
  {asserts : AndOfOrs DynamicAuthorizationAssertName}

theorem checkAuthorizationAction_of_nil
    (none : definition.rules userToken.rolesACL authEntity authAction = []) :
    checkAuthorizationAction acl definition organization userToken authEntity authAction extra =
      .error (.forbidden authAction authEntity "canPerformAuthorizationAction") := by
  have refused : (can acl definition userToken authEntity authAction {}).granted = false :=
    acl.can_of_nil none
  rw [checkAuthorizationAction, refused]
  rfl

/-- Grants that all leave the same filters: these are processed. -/
theorem checkAuthorizationAction_of_dynamic
    (granted : definition.rules userToken.rolesACL authEntity authAction ≠ [])
    (dynamic : ∀ rule ∈ definition.rules userToken.rolesACL authEntity authAction,
      rule.condition.bind Condition.dynamic? = some (filters, asserts)) :
    ∃ filter,
      checkAuthorizationAction acl definition organization userToken authEntity authAction extra =
        .ok filter ∧
      filter.authorized = (processDynamicFilters
        (DynamicAuthorizationFactory.getDynamicDataSources organization userToken.id) extra none
        filters { authorized := true }).authorized ∧
      filter.filters = (processDynamicFilters
        (DynamicAuthorizationFactory.getDynamicDataSources organization userToken.id) extra none
        filters { authorized := true }).filters := by
  obtain ⟨permitted, context, _⟩ := acl.can_of_dynamic granted dynamic
  change (can acl definition userToken authEntity authAction {}).granted = true at permitted
  change (can acl definition userToken authEntity authAction {}).context.filters = filters
    at context
  rw [checkAuthorizationAction, Outcome.refuse_of_not (by simp [permitted]), Outcome.ok_bind]
  refine ⟨_, rfl, ?_⟩
  simp only [canPerformAuthorizationAction, permitted, context, if_true, processDynamicAsserts]
  split <;> exact ⟨rfl, rfl⟩

/-- A filter on sites, and then the one on the issuer: the sites that are forced, if there are
any. -/
theorem processDynamicFilters_sites {sources : DataSources} {ids : List String}
    {name : DynamicAuthorizationFilterName}
    (processed : ∀ filter, processFilter sources extra filter none name =
      processSites extra filter ids) :
    processDynamicFilters sources extra none (allOf [name, .localIssuer]) { authorized := true } =
      if forcedIDs ids extra.siteID = [] then
        { filters := { siteIDs := some [] }, authorized := false }
      else
        { filters := { siteIDs := some (forcedIDs ids extra.siteID), issuer := some true }
          authorized := true } := by
  simp only [allOf, List.map_cons, List.map_nil, processDynamicFilters, processAnyFilter,
    Negatable.name, Negatable.negate, processed]
  by_cases none : forcedIDs ids extra.siteID = [] <;>
    simp [processSites, processFilter, AuthorizationFilter.authorizeIDs, none]

/-- Grants on the sites of a filter and on the issuer. -/
theorem checkAuthorizationAction_sites {ids : List String} {name : DynamicAuthorizationFilterName}
    (granted : definition.rules userToken.rolesACL authEntity authAction ≠ [])
    (dynamic : ∀ rule ∈ definition.rules userToken.rolesACL authEntity authAction,
      rule.condition.bind Condition.dynamic? = some (allOf [name, .localIssuer], []))
    (processed : ∀ filter, processFilter
      (DynamicAuthorizationFactory.getDynamicDataSources organization userToken.id) extra filter
      none name = processSites extra filter ids) :
    ∃ filter,
      checkAuthorizationAction acl definition organization userToken authEntity authAction extra =
        .ok filter ∧
      (filter.authorized = true ↔ forcedIDs ids extra.siteID ≠ []) ∧
      (filter.authorized = true → filter.filters =
        { siteIDs := some (forcedIDs ids extra.siteID), issuer := some true }) := by
  obtain ⟨filter, checked, authorized, filters⟩ :=
    checkAuthorizationAction_of_dynamic granted dynamic
  refine ⟨filter, checked, ?_⟩
  rw [authorized, filters, processDynamicFilters_sites processed]
  split
  · simp_all
  · simp_all

end Checks

/-! ## Flags -/

/-- A `can…` flag of an entity, and the pair that the code looks at for it. -/
structure Flag where
  name : String
  entity : Entity
  action : Action
  deriving DecidableEq, Repr

/-- `addSiteAreaAuthorizations`. -/
def siteAreaFlags : List Flag := [
  ⟨"canUpdate", .siteArea, .delete⟩,
  ⟨"canDelete", .siteArea, .update⟩,
  ⟨"canAssignAssets", .siteArea, .assignAssetsToSiteArea⟩,
  ⟨"canUnassignAssets", .siteArea, .unassignAssetsFromSiteArea⟩,
  ⟨"canReadAssets", .siteArea, .readAssetsFromSiteArea⟩,
  ⟨"canAssignChargingStations", .siteArea, .assignChargingStationsToSiteArea⟩,
  ⟨"canUnassignChargingStations", .siteArea, .unassignChargingStationsFromSiteArea⟩,
  ⟨"canReadChargingStations", .siteArea, .readChargingStationsFromSiteArea⟩,
  ⟨"canExportOCPPParams", .siteArea, .exportOCPPParams⟩,
  ⟨"canGenerateQrCode", .siteArea, .generateQR⟩]

/-- `addSiteAuthorizations`. -/
def siteFlags : List Flag := [
  ⟨"canDelete", .site, .delete⟩,
  ⟨"canUpdate", .site, .update⟩,
  ⟨"canMaintainPricingDefinitions", .site, .maintainPricingDefinitions⟩,
  ⟨"canExportOCPPParams", .siteArea, .exportOCPPParams⟩,
  ⟨"canGenerateQrCode", .siteArea, .generateQR⟩,
  ⟨"canAssignUsers", .usersSites, .assign⟩,
  ⟨"canUnassignUsers", .usersSites, .unassign⟩,
  ⟨"canReadUsers", .usersSites, .read⟩]

/-- The flags of an entity that are true, checked one after the other on one filter. -/
def addAuthorizations (acl : RoleAcl) (definition : AuthorizationDefinition)
    (organization : Organization) (userToken : UserToken) (extra : ExtraFilters)
    (entityData : EntityData) : List Flag → AuthorizationFilter → List String
  | [], _ => []
  | flag :: flags, filter =>
      let filter := canPerformAuthorizationAction acl definition organization userToken
        flag.entity flag.action extra (some entityData) filter
      let others :=
        addAuthorizations acl definition organization userToken extra entityData flags filter
      if filter.authorized then flag.name :: others else others

/-- `canPerformAction`. -/
def canPerformAction (flags : List String) (action : Action) : Bool :=
  "can" ++ action.value ∈ flags

end AuthorizationService

end EvServer.Authorization
